import ScriptHost.Text.Blank

/-!
Access groups and masks. A mask says which groups of host functions a script module may call. Masks
are written as lists of group names joined by plus signs; the empty mask is written `Nothing`.
-/

namespace ScriptHost

/-- A set of groups of host functions. -/
structure AccessMask where
  builtin : Bool
  defaultEngine : Bool
  fullFileSystem : Bool
  deriving DecidableEq, Repr, Inhabited

namespace AccessMask

/-- The mask that grants nothing. -/
def nothing : AccessMask := ⟨false, false, false⟩

/-- The group of built-in functions. -/
def builtinOnly : AccessMask := ⟨true, false, false⟩

/-- The group of ordinary engine functions. -/
def engineOnly : AccessMask := ⟨false, true, false⟩

/-- The group of functions that reach the file system. -/
def filesOnly : AccessMask := ⟨false, false, true⟩

/-- The mask of a module before any extra access is granted. -/
def moduleDefault : AccessMask := ⟨true, true, false⟩

/-- The groups of either mask. -/
def union (a b : AccessMask) : AccessMask :=
  ⟨a.builtin || b.builtin, a.defaultEngine || b.defaultEngine, a.fullFileSystem || b.fullFileSystem⟩

/-- The groups of `a` that are not in `b`. -/
def minus (a b : AccessMask) : AccessMask :=
  ⟨a.builtin && !b.builtin, a.defaultEngine && !b.defaultEngine,
    a.fullFileSystem && !b.fullFileSystem⟩

/-- Whether every group of `b` is in `a`. -/
def contains (a b : AccessMask) : Bool :=
  (!b.builtin || a.builtin) && (!b.defaultEngine || a.defaultEngine) &&
    (!b.fullFileSystem || a.fullFileSystem)

/-- Whether the mask has no group. -/
def isNothing (a : AccessMask) : Bool :=
  !a.builtin && !a.defaultEngine && !a.fullFileSystem

/-- The mask as a number, one bit for each group. -/
def toBits (a : AccessMask) : Nat :=
  (if a.builtin then 1 else 0) + (if a.defaultEngine then 2 else 0) +
    (if a.fullFileSystem then 4 else 0)

/-- The mask with the groups whose bits are set in `bits`; other bits are dropped. -/
def ofBits (bits : Nat) : AccessMask :=
  ⟨bits.testBit 0, bits.testBit 1, bits.testBit 2⟩

/-- The mask that a group name stands for. -/
def ofGroupName? (name : String) : Option AccessMask :=
  if name = "Nothing" then some nothing
  else if name = "Builtin" then some builtinOnly
  else if name = "DefaultEngine" then some engineOnly
  else if name = "FullFileSystem" then some filesOnly
  else none

/-- The names of the groups of a mask, in the order of their bits. -/
def groupNames (a : AccessMask) : List String :=
  (if a.builtin then ["Builtin"] else []) ++ (if a.defaultEngine then ["DefaultEngine"] else []) ++
    (if a.fullFileSystem then ["FullFileSystem"] else [])

/-- The mask as an access list. -/
def text (a : AccessMask) : String :=
  if a.isNothing then "Nothing" else String.intercalate "+" a.groupNames

instance : ToString AccessMask := ⟨text⟩

/-- Why a text is no access list. -/
inductive ParseError
  /-- A part of the list is blank. -/
  | emptyPart (input : String)
  /-- A part of the list names no group. -/
  | unknown (part input : String)
  deriving DecidableEq, Repr

/-- The wording of an access list error. -/
def ParseError.message : ParseError → String
  | .emptyPart input => s!"empty access group in '{input}'"
  | .unknown part input => s!"unknown access group '{part}' in '{input}'"

/-- The union of the groups that `parts` name; the first bad part decides the error, which carries
the whole `input`. -/
def parseParts (input : String) : List (List Char) → Except ParseError AccessMask
  | [] => .ok nothing
  | part :: rest =>
    let name := String.ofList (Text.trim part)
    if name = "" then .error (.emptyPart input)
    else
      match ofGroupName? name with
      | none => .error (.unknown name input)
      | some mask =>
        match parseParts input rest with
        | .error err => .error err
        | .ok others => .ok (mask.union others)

/-- Reads an access list: group names joined by plus signs, each with blanks around it. -/
def parse (input : String) : Except ParseError AccessMask :=
  parseParts input (Text.pieces '+' input.toList)

end AccessMask

end ScriptHost
