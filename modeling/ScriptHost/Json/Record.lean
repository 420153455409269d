import ScriptHost.Json.Basic

/-!
Reading a JSON value as a record. A record with named fields is an object, whose unknown keys are
ignored and whose known keys may not repeat, or an array with the fields in their order. A field
that is left out has a default; a value of the wrong type is an error, which has no further cause.
-/

namespace ScriptHost.Json

/-- The texts of the keys of an object, if all of them have one. -/
def keys? (members : List (Option String × Json)) : Option (List String) :=
  members.mapM (·.1)

/-- The value of the field `name` in an object whose keys are all readable. The field may be missing,
but not given twice. -/
def field? (name : String) (members : List (Option String × Json)) : Option (Option Json) :=
  match members.filter (fun member => member.1 == some name) with
  | [] => some none
  | [(_, value)] => some (some value)
  | _ => none

/-- The values of the fields `names` of a record, `none` standing for a field that is left out. -/
def fields? (names : List String) : Json → Option (List (Option Json))
  | .object members => (keys? members).bind fun _ => names.mapM (field? · members)
  | .array items =>
    if items.length ≤ names.length then
      some ((List.range names.length).map fun index => items[index]?)
    else none
  | _ => none

/-- A string with readable text. -/
def string? : Json → Option String
  | .string text => text
  | _ => none

/-- A Boolean. -/
def bool? : Json → Option Bool
  | .bool value => some value
  | _ => none

/-- A natural number below two to the power of 64. -/
def word64? : Json → Option Nat
  | .natural value => if value < 18446744073709551616 then some value else none
  | _ => none

/-- An array whose items `item?` reads. -/
def list? {α : Type} (item? : Json → Option α) : Json → Option (List α)
  | .array items => items.mapM item?
  | _ => none

/-- A value that may be null, which reads as `none`. -/
def nullable? {α : Type} (read? : Json → Option α) : Json → Option (Option α)
  | .null => some none
  | value => (read? value).map some

/-- The value of a field, or its default if it is left out. -/
def withDefault {α : Type} (default : α) (read? : Json → Option α) : Option Json → Option α
  | none => some default
  | some value => read? value

end ScriptHost.Json
