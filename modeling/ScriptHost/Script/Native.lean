import ScriptHost.Script.Operator
import ScriptHost.Script.Surroundings

/-!
The native functions and properties that scripts can use. A native function may change its first
argument, and it may change the host: it can emit something, set an abort switch, or report a call
that was denied.
-/

namespace ScriptHost.Script

/-- What a native function answers. -/
structure NativeResult where
  value : ScriptValue
  /-- What the first argument becomes, if it changes. -/
  first : Option ScriptValue := none

/-- A native function applied to its arguments. -/
abbrev NativeCall := Host → Except Cause NativeResult × Host

namespace NativeCall

/-- Answers a value and changes nothing. -/
def pure (value : ScriptValue) : NativeCall := fun host => (.ok ⟨value, none⟩, host)

/-- Emits something and answers the unit value. -/
def emit (emission : Emission) : NativeCall := fun host => (.ok ⟨.unit, none⟩, host.emit emission)

/-- Answers `answer` if the running module has access to a function; otherwise the denial is reported
and the call fails. -/
def guarded (env : Surroundings) (function : String) (required : AccessMask)
    (answer : Except Cause ScriptValue) : NativeCall := fun host =>
  if env.granted.contains required then (answer.map fun value => ⟨value, none⟩, host)
  else
    let missing := required.minus env.granted
    (.error (.thrown (.string s!"'{function}' requires {missing} access")),
      host.warn s!"call denied, {missing} access required")

end NativeCall

/-- The text of the file that a path names. -/
def readFile (env : Surroundings) (path : String) : Except Cause ScriptValue :=
  match env.files.readText ⟨path⟩ with
  | .ok content => .ok (.string content)
  | .error err => .error (.thrown (.string s!"cannot read '{path}': {err.message}"))

/-- A method of an event with one argument. -/
def eventMethod? (env : Surroundings) (ref : ObjectRef) (name key : String) : Option NativeCall :=
  match name, env.look ref with
  | "get", some (.event event) => some (.pure ((event.get? key).getD .unit))
  | _, _ => none

/-- The native function that a name and arguments stand for. -/
def native? (env : Surroundings) (name : String) (args : List ScriptValue) : Option NativeCall :=
  match name, args with
  | "len", [.string text] => some (.pure (.int (Int64.ofNat text.length)))
  | "len", [.array items] => some (.pure (.int (Int64.ofNat items.length)))
  | "len", [.map entries] => some (.pure (.int (Int64.ofNat entries.length)))
  | "push", [.array items, value] =>
    some fun host => (.ok ⟨.unit, some (.array (items ++ [value]))⟩, host)
  | "chars", [.string text] => some (.pure (.array (text.toList.map .char)))
  | "to_string", [value] => some (.pure (.string (env.textOf value)))
  | "to_debug", [value] => some (.pure (.string (value.debugText env.objectTexts)))
  | "type_of", [value] => some (.pure (.string (env.types.nameOf value)))
  | "print", [] => some (.emit (.print ""))
  | "print", [value] => some (.emit (.print (env.textOf value)))
  | "debug", [value] => some (.emit (.debug (value.debugText env.objectTexts)))
  | "log", [.string text] => some (.emit (.log text))
  | "record", [value] => some (.emit (.record (value.shown env.label)))
  | "abort_now", [] => some fun host => (.ok ⟨.unit, none⟩, host.setSwitch "main" true)
  | "read_text_file", [.string path] =>
    some (.guarded env "read_text_file" .filesOnly (readFile env path))
  | name, [.object ref, .string key] => eventMethod? env ref name key
  | name, [] => (env.guarded.get? name).map fun required => .guarded env name required (.ok (.int 7))
  | _, _ => none

/-- The value of a property of an object. -/
def objectProperty? (env : Surroundings) (host : Host) (ref : ObjectRef) (name : String) :
    Option ScriptValue :=
  match env.look ref, name with
  | some (.thing label), "label" => if ref.type = .sprite then none else some (.string label)
  | some (.thing _), "value" =>
    if ref.type = .sprite then none else some (.int (host.valueOf ref.address))
  | some (.event event), "kind" => some (.string event.kind.typeName)
  | some (.event event), "is_generic" => some (.bool event.kind.isGeneric)
  | some (.event event), "payload" => some (.map event.payload)
  | some (.game game), "name" => some (.string game.name)
  | some (.game game), "version" => some (.string game.version)
  | some (.game game), "owner" => some (.string game.owner)
  | _, _ => none

/-- The host after a property of an object is set, if the property takes such a value. -/
def setObjectProperty? (env : Surroundings) (host : Host) (ref : ObjectRef) (name : String)
    (value : ScriptValue) : Option Host :=
  match env.look ref, name, value with
  | some (.thing _), "value", .int value =>
    if ref.type = .sprite then none else some (host.setValue ref.address value)
  | _, _, _ => none

/-- The place in a list that an index stands for; negative indexes count from the end. -/
def place? (size : Nat) (index : Int64) : Option Nat :=
  let index := index.toInt
  if 0 ≤ index then if index < size then some index.toNat else none
  else if -index ≤ size then some (size - (-index).toNat) else none

/-- The element of a value under an index. -/
def element (env : Surroundings) (target index : ScriptValue) : Except Cause ScriptValue :=
  match target, index with
  | .array items, .int i =>
    match (place? items.length i).bind (items[·]?) with
    | some item => .ok item
    | none => .error (.arrayBounds items.length i)
  | .array _, index => .error (.mismatch "i64" index.typeName)
  | .map entries, .string key => .ok ((Table.get? entries key).getD .unit)
  | .map _, index => .error (.mismatch "string" index.typeName)
  | .string text, .int i =>
    match (place? text.length i).bind (text.toList[·]?) with
    | some c => .ok (.char c)
    | none => .error (.stringBounds text.length i)
  | .string _, index => .error (.mismatch "i64" index.typeName)
  | target, index => .error (.noIndexer (env.types.nameOf target) (env.types.nameOf index))

/-- The value with another element under an index that it has. A map takes any key. -/
def withElement (target index value : ScriptValue) : ScriptValue :=
  match target, index, value with
  | .array items, .int i, value =>
    match place? items.length i with
    | some place => .array (items.set place value)
    | none => target
  | .map entries, .string key, value => .map (Table.setSorted entries key value)
  | .string text, .int i, .char c =>
    match place? text.length i with
    | some place => .string (String.ofList (text.toList.set place c))
    | none => target
  | target, _, _ => target

/-- Whether a map has an entry under an index; all other values have the elements they give. -/
def hasElement (target index : ScriptValue) : Bool :=
  match target, index with
  | .map entries, .string key => Table.has entries key
  | _, _ => true

end ScriptHost.Script
