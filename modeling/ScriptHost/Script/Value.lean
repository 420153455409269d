import ScriptHost.Table

/-!
Values of the script language. Arrays and maps are values too: a copy shares nothing with its
original. Only objects are shared, through handles, which a value names by the address of the object.
-/

namespace ScriptHost

/-- The native types whose handles can be script values. -/
inductive ObjectType
  | widget | gadget | sprite | event | gameModule
  | custom (name : String)
  deriving DecidableEq, Repr

/-- The native name of an object type. -/
def ObjectType.path : ObjectType → String
  | .widget => "oracle_driver::Widget"
  | .gadget => "oracle_driver::Gadget"
  | .sprite => "oracle_driver::Sprite"
  | .event => "kestrel_script::events::Event"
  | .gameModule => "kestrel_script::game_module::GameModule"
  | .custom name => name

/-- The native name of a handle to an object. -/
def ObjectType.handlePath (type : ObjectType) : String :=
  s!"kestrel_script::refcount::Handle<{type.path}>"

/-- An object, by its type and its address. -/
structure ObjectRef where
  type : ObjectType
  address : Nat
  deriving DecidableEq, Repr

/-- A value of the script language. The entries of a map are in the order of their keys. -/
inductive ScriptValue
  | unit
  | bool (value : Bool)
  | int (value : Int64)
  | float (value : Float)
  | char (value : Char)
  | string (value : String)
  | array (items : List ScriptValue)
  | map (entries : List (String × ScriptValue))
  | function (name : String)
  | object (ref : ObjectRef)
  deriving Inhabited

/-- The script integer of that value, if there is one. -/
def scriptInt? (value : Int) : Option Int64 :=
  if -9223372036854775808 ≤ value ∧ value ≤ 9223372036854775807 then some (Int64.ofInt value) else none

namespace ScriptValue

/-- Whether the value is the unit value. -/
def isUnit : ScriptValue → Bool
  | .unit => true
  | _ => false

/-- The name of the type of a value, as conversion errors give it. -/
def typeName : ScriptValue → String
  | .unit => "()"
  | .bool _ => "bool"
  | .int _ => "i64"
  | .float _ => "f64"
  | .char _ => "char"
  | .string _ => "string"
  | .array _ => "array"
  | .map _ => "map"
  | .function _ => "Fn"
  | .object ref => ref.type.handlePath

mutual

/-- The objects that a value holds handles of, one entry for each handle. -/
def objects : ScriptValue → List ObjectRef
  | .array items => itemObjects items
  | .map entries => entryObjects entries
  | .object ref => [ref]
  | _ => []

/-- The objects that the items of an array hold handles of. -/
def itemObjects : List ScriptValue → List ObjectRef
  | [] => []
  | item :: rest => objects item ++ itemObjects rest

/-- The objects that the entries of a map hold handles of. -/
def entryObjects : List (String × ScriptValue) → List ObjectRef
  | [] => []
  | (_, value) :: rest => objects value ++ entryObjects rest

end

end ScriptValue

end ScriptHost
