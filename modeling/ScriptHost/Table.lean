/-!
Tables: lists of keyed values in which a key occurs once at most, as long as they are changed through
`set` and `erase` alone. `set` keeps the place of a key it replaces; `setSorted` keeps the keys of a
table in increasing order.
-/

namespace ScriptHost

/-- A table from keys to values. -/
abbrev Table (κ : Type) (α : Type) := List (κ × α)

namespace Table

variable {κ α : Type} [DecidableEq κ]

/-- The value under a key. -/
def get? : Table κ α → κ → Option α
  | [], _ => none
  | (k, a) :: rest, key => if k = key then some a else get? rest key

/-- Whether the key is in the table. -/
def has (table : Table κ α) (key : κ) : Bool :=
  (table.get? key).isSome

/-- The table with `value` under `key`; a new key goes to the end. -/
def set : Table κ α → κ → α → Table κ α
  | [], key, value => [(key, value)]
  | (k, a) :: rest, key, value =>
    if k = key then (key, value) :: rest else (k, a) :: set rest key value

/-- The table without `key`. -/
def erase (table : Table κ α) (key : κ) : Table κ α :=
  table.filter fun entry => entry.1 ≠ key

/-- The keys of a table, in their order. -/
def keys (table : Table κ α) : List κ :=
  table.map (·.1)

/-- The table with `value` under `key`, where the keys are in increasing order. -/
def setSorted {α : Type} : Table String α → String → α → Table String α
  | [], key, value => [(key, value)]
  | (k, a) :: rest, key, value =>
    if key < k then (key, value) :: (k, a) :: rest
    else if k = key then (key, value) :: rest
    else (k, a) :: setSorted rest key value

/-- The sorted table of the given entries, of which later ones win. -/
def ofList {α : Type} (entries : List (String × α)) : Table String α :=
  entries.foldl (fun table (key, value) => table.setSorted key value) []

end Table

end ScriptHost
