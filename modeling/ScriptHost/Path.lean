import ScriptHost.Text.Blank

/-!
Paths as texts, and their components. A path keeps the text it was written with; two paths are the
same when their components are, so doubled slashes, a trailing slash and inner dots do not count,
while a leading `./` does. Taking the parent, joining, and changing the extension all work on the
text.
-/

namespace ScriptHost

/-- A path as it is written. -/
structure Path where
  text : String
  deriving DecidableEq, Repr, Inhabited

namespace Path

/-- One step of a path. -/
inductive Component
  | root | current | parent | normal (name : String)
  deriving DecidableEq, Repr

/-- Whether the path starts at the root. -/
def isAbsolute (path : Path) : Bool :=
  path.text.toList.head? == some '/'

/-- Whether the text begins with a dot that stands for the current directory. -/
def leadsWithDot (text : List Char) : Bool :=
  match text with
  | ['.'] => true
  | '.' :: '/' :: _ => true
  | _ => false

/-- The beginning of a path text that no parent step takes away: the root slash or a leading dot. -/
def head (text : List Char) : List Char :=
  if text.head? = some '/' then ['/'] else if leadsWithDot text then ['.'] else []

/-- The pieces of a path text behind its head, between the slashes. -/
def bodyPieces (text : List Char) : List (List Char) :=
  Text.pieces '/' (text.drop (head text).length)

/-- A piece that is no step: nothing between two slashes, or a dot. -/
def isSkipped (piece : List Char) : Bool :=
  piece.isEmpty || piece == ['.']

/-- The component that a piece stands for. -/
def ofPiece (piece : List Char) : Component :=
  if piece = ['.', '.'] then .parent else .normal (String.ofList piece)

/-- The components of a path. -/
def components (path : Path) : List Component :=
  let text := path.text.toList
  let start := match head text with
    | ['/'] => [Component.root]
    | ['.'] => [Component.current]
    | _ => []
  start ++ ((bodyPieces text).filter (!isSkipped ·)).map ofPiece

/-- The place of a component kind in the order of components. -/
def Component.rank : Component → Nat
  | .root => 0
  | .current => 1
  | .parent => 2
  | .normal _ => 3

/-- The order of components: by kind, and names by their characters. -/
def Component.less (a b : Component) : Bool :=
  match a, b with
  | .normal a, .normal b => decide (a < b)
  | a, b => a.rank < b.rank

/-- The lexicographic order of component lists. -/
def lessComponents : List Component → List Component → Bool
  | [], [] => false
  | [], _ :: _ => true
  | _ :: _, [] => false
  | a :: as, b :: bs => if a = b then lessComponents as bs else a.less b

/-- Whether `a` comes before `b`, by components. -/
def less (a b : Path) : Bool :=
  lessComponents a.components b.components

/-- Whether two paths have the same components. -/
def same (a b : Path) : Bool :=
  a.components == b.components

/-- Joins pieces by slashes. -/
def joinPieces : List (List Char) → List Char
  | [] => []
  | [piece] => piece
  | piece :: rest => piece ++ '/' :: joinPieces rest

/-- The pieces without skipped ones at the end. -/
def dropSkipped (reversed : List (List Char)) : List (List Char) :=
  reversed.dropWhile isSkipped

/-- The pieces before the last step, last first, and the last step; `none` if there is no step behind
the head. -/
def lastStep? (text : List Char) : Option (List (List Char) × List Char) :=
  match dropSkipped (bodyPieces text).reverse with
  | [] => none
  | step :: before => some (before, step)

/-- The path without its last component, if it has one that can be taken away. -/
def parent? (path : Path) : Option Path :=
  let text := path.text.toList
  match lastStep? text with
  | some (before, _) =>
    some ⟨String.ofList (head text ++ joinPieces (dropSkipped before).reverse)⟩
  | none => if head text = ['.'] then some ⟨""⟩ else none

/-- The last component of a path, if it is a name. -/
def fileName? (path : Path) : Option String :=
  match lastStep? path.text.toList with
  | some (_, step) => if step = ['.', '.'] then none else some (String.ofList step)
  | none => none

/-- The path `path` as seen from `base`: an absolute path replaces the base. -/
def join (base path : Path) : Path :=
  if path.isAbsolute then path
  else if base.text.isEmpty || base.text.toList.getLast? == some '/' then
    ⟨base.text ++ path.text⟩
  else ⟨base.text ++ "/" ++ path.text⟩

/-- Splits a name at its last dot; a dot at the very front does not count. -/
def splitName (name : List Char) : List Char × Option (List Char) :=
  match name.reverse.span (· != '.') with
  | (_, []) => (name, none)
  | (_, [_]) => (name, none)
  | (extension, _ :: stem) => (stem.reverse, some extension.reverse)

/-- The extension of the last component. -/
def extension? (path : Path) : Option String :=
  path.fileName?.bind fun name => (splitName name.toList).2.map String.ofList

/-- The path with another extension in place of its own; a path that ends in no name stays as it
is, and the empty extension takes the dot away as well. -/
def withExtension (path : Path) (extension : String) : Path :=
  let text := path.text.toList
  match lastStep? text with
  | some (before, step) =>
    if step = ['.', '.'] then path
    else
      let stem := (splitName step).1
      let name := if extension.isEmpty then stem else stem ++ '.' :: extension.toList
      ⟨String.ofList (head text ++ joinPieces (before.reverse ++ [name]))⟩
  | none => path

instance : ToString Path := ⟨text⟩

end Path

end ScriptHost
