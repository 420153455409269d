import ScriptHost.Script.Value

/-!
Script values as they are shown outside: each object by its type and its label at that time. Values
that have no form outside are shown by their type alone.
-/

namespace ScriptHost

/-- The name by which objects of a type are shown. -/
def ObjectType.shortName : ObjectType → String
  | .widget => "Widget"
  | .gadget => "Gadget"
  | .sprite => "Sprite"
  | .event => "Event"
  | .gameModule => "GameModule"
  | .custom name => name

/-- A script value as it is shown outside. -/
inductive ShownValue
  | unit
  | bool (value : Bool)
  | int (value : Int64)
  | float (value : Float)
  | char (value : Char)
  | string (value : String)
  | array (items : List ShownValue)
  | map (entries : List (String × ShownValue))
  | object (type label : String)
  | other (type : String)
  deriving Inhabited

namespace ScriptValue

mutual

/-- The value as it is shown, where `label` tells how objects are labelled. -/
def shown (label : ObjectRef → String) : ScriptValue → ShownValue
  | .unit => .unit
  | .bool value => .bool value
  | .int value => .int value
  | .float value => .float value
  | .char value => .char value
  | .string value => .string value
  | .array items => .array (shownItems label items)
  | .map entries => .map (shownEntries label entries)
  | .object ref => .object ref.type.shortName (label ref)
  | .function _ => .other "Fn"

/-- The items of an array as they are shown. -/
def shownItems (label : ObjectRef → String) : List ScriptValue → List ShownValue
  | [] => []
  | item :: rest => shown label item :: shownItems label rest

/-- The entries of a map as they are shown. -/
def shownEntries (label : ObjectRef → String) :
    List (String × ScriptValue) → List (String × ShownValue)
  | [] => []
  | (key, value) :: rest => (key, shown label value) :: shownEntries label rest

end

end ScriptValue

end ScriptHost
