import ScriptHost.Decimal.Text
import ScriptHost.Script.Value
import ScriptHost.Text.Quoted

/-!
Script values as text. `text` is what printing and joining with strings gives: texts and characters
stand for themselves, and the unit value is empty. `debugText` is the form within arrays, maps and
dumps, where texts are quoted and the unit value is `()`. How objects appear is a parameter.
-/

namespace ScriptHost

/-- How objects appear in texts: on their own, and within dumps. -/
structure ObjectTexts where
  text : ObjectRef → String
  debugText : ObjectRef → String

/-- Objects that appear by the native name of their handle. -/
def ObjectTexts.raw : ObjectTexts :=
  ⟨fun ref => ref.type.handlePath, fun ref => ref.type.handlePath⟩

namespace ScriptValue

mutual

/-- The text of a value within dumps. -/
def debugText (objects : ObjectTexts) : ScriptValue → String
  | .unit => "()"
  | .bool value => toString value
  | .int value => toString value.toInt
  | .float value => Decimal.text .dump value
  | .char value => Text.quotedChar value
  | .string value => Text.quoted value
  | .array items => "[" ++ String.intercalate ", " (itemTexts objects items) ++ "]"
  | .map entries => "#\x7b" ++ String.intercalate ", " (entryTexts objects entries) ++ "\x7d"
  | .function name => s!"Fn({name})"
  | .object ref => objects.debugText ref

/-- The texts of the items of an array. -/
def itemTexts (objects : ObjectTexts) : List ScriptValue → List String
  | [] => []
  | item :: rest => debugText objects item :: itemTexts objects rest

/-- The texts of the entries of a map. -/
def entryTexts (objects : ObjectTexts) : List (String × ScriptValue) → List String
  | [] => []
  | (key, value) :: rest =>
    s!"{Text.quoted key}: {debugText objects value}" :: entryTexts objects rest

end

/-- The text of a value on its own. -/
def text (objects : ObjectTexts) : ScriptValue → String
  | .unit => ""
  | .float value => Decimal.text .plain value
  | .char value => value.toString
  | .string value => value
  | .object ref => objects.text ref
  | value => value.debugText objects

end ScriptValue

end ScriptHost
