import ScriptHost.Handle.Heap
import ScriptHost.Native.TypeTable

/-!
Marshalling: taking host values into scripts and reading script values back. Arguments are taken over
all together or not at all, and every object among them gains one strong handle, which the script
value holds. Integers keep their value or fail; none is ever wrapped.
-/

namespace ScriptHost

/-- Why a value cannot cross between host and script. -/
inductive MarshalError
  | mismatch (expected found : String)
  | outOfRange (value target : String)
  | unregistered (type : String)
  deriving DecidableEq, Repr

/-- The wording of a marshalling error. -/
def MarshalError.message : MarshalError → String
  | .mismatch expected found => s!"expected {expected}, found {found}"
  | .outOfRange value target => s!"value {value} does not fit in {target}"
  | .unregistered type => s!"type '{type}' is not registered with the script executor"

namespace NativeValue

/-- The script form of a host value. -/
def toScript (types : TypeTable) : NativeValue → Except MarshalError ScriptValue
  | .void => .ok .unit
  | .bool value => .ok (.bool value)
  | .int value =>
    match scriptInt? value.value with
    | some narrowed => .ok (.int narrowed)
    | none => .error (.outOfRange (toString value.value) "int")
  | .float32 value => .ok (.float value.toFloat)
  | .float64 value => .ok (.float value)
  | .char value => .ok (.char value)
  | .string value => .ok (.string value)
  | .object ref =>
    if (types.lookupObject? ref.type).isSome then .ok (.object ref)
    else .error (.unregistered ref.type.path)
  | .script value => .ok value

end NativeValue

/-- The script forms of all arguments, or the place and the error of the first that has none. -/
def scriptForms (types : TypeTable) (index : Nat) :
    List NativeValue → Except (Nat × MarshalError) (List ScriptValue)
  | [] => .ok []
  | arg :: rest =>
    match arg.toScript types with
    | .error err => .error (index, err)
    | .ok value =>
      match scriptForms types (index + 1) rest with
      | .error err => .error err
      | .ok values => .ok (value :: values)

/-- Clones a handle of each of the objects. -/
def retainAll {α : Type} (heap : Heap α) (refs : List ObjectRef) : Heap α :=
  refs.foldl (fun heap ref => heap.retain ref.address) heap

/-- The dump of an object among the arguments. -/
def ObjectRef.text {α : Type} (heap : Heap α) (ref : ObjectRef) : String :=
  s!"ObjectValue({ref.type.path}, refs: {heap.strongCount ref.address})"

/-- Takes arguments over into script values, which hold a handle of their own of every object. -/
def marshalArgs {α : Type} (types : TypeTable) (heap : Heap α) (args : List NativeValue) :
    Except (Nat × MarshalError) (List ScriptValue × Heap α) :=
  match scriptForms types 0 args with
  | .error err => .error err
  | .ok values => .ok (values, retainAll heap (values.flatMap ScriptValue.objects))

namespace ScriptValue

/-- The error of reading a value as a type that it is not of. -/
def mismatch (value : ScriptValue) (type : ReturnType) : MarshalError :=
  .mismatch type.expectedName value.typeName

/-- The host form that is closest to a script value. -/
def toNative : ScriptValue → NativeValue
  | .unit => .void
  | .int value => .int (.ofInt64 value)
  | .float value => .float64 value
  | .bool value => .bool value
  | .char value => .char value
  | .string value => .string value
  | value => .script value

/-- Reads a script value as a floating-point number; integers count as such. -/
def toFloat? : ScriptValue → Option Float
  | .float value => some value
  | .int value => some value.toFloat
  | _ => none

/-- Reads a script value as a host type. -/
def toReturn (value : ScriptValue) : ReturnType → Except MarshalError NativeValue
  | .int type =>
    match value with
    | .int raw =>
      match NativeInt.ofInt? type raw.toInt with
      | some result => .ok (.int result)
      | none => .error (.outOfRange (toString raw.toInt) type.name)
    | _ => .error (value.mismatch (.int type))
  | .float64 =>
    match value.toFloat? with
    | some result => .ok (.float64 result)
    | none => .error (value.mismatch .float64)
  | .float32 =>
    match value.toFloat? with
    | some result => .ok (.float32 result.toFloat32)
    | none => .error (value.mismatch .float32)
  | .bool =>
    match value with
    | .bool result => .ok (.bool result)
    | _ => .error (value.mismatch .bool)
  | .char =>
    match value with
    | .char result => .ok (.char result)
    | _ => .error (value.mismatch .char)
  | .string =>
    match value with
    | .string result => .ok (.string result)
    | _ => .error (value.mismatch .string)
  | .sharedString =>
    match value with
    | .string result => .ok (.string result)
    | _ => .error (value.mismatch .sharedString)
  | .unit => .ok .void
  | .map =>
    match value with
    | .map _ => .ok (.script value)
    | _ => .error (value.mismatch .map)
  | .script => .ok (.script value)
  | .native => .ok value.toNative
  | .object type =>
    match value with
    | .object ref =>
      if ref.type = type then .ok (.script value) else .error (value.mismatch (.object type))
    | _ => .error (value.mismatch (.object type))

end ScriptValue

end ScriptHost
