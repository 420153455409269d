/-!
JSON values, as far as the readers of this library look at them. Numbers keep their value only when
they are natural numbers, since no reader asks for any other; a string keeps its text only when its
escapes form characters, since a reader that ignores a value does not mind.
-/

namespace ScriptHost

/-- A JSON value. Object members keep their order and may repeat a key. -/
inductive Json
  | null
  | bool (value : Bool)
  /-- A number written as plain digits. -/
  | natural (value : Nat)
  /-- A number with a sign, a fraction or an exponent. -/
  | otherNumber
  /-- A string, without its text if an escape leaves a surrogate without its partner. -/
  | string (text : Option String)
  | array (items : List Json)
  | object (members : List (Option String × Json))
  deriving Inhabited

end ScriptHost
