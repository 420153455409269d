import ScriptHost.FileTree
import ScriptHost.Text.Line

/-!
Source segments. A module is compiled from a list of segments, each a piece of text with the file it
belongs to and the number of its first line in that file.
-/

namespace ScriptHost

/-- A contiguous piece of script source and where it comes from. -/
structure Segment where
  file : String
  startLine : Nat
  code : String
  fromDisk : Bool
  deriving DecidableEq, Repr

namespace Segment

/-- A segment given by the host; line numbers start at one. -/
def inline (file : String) (startLine : Nat) (code : String) : Segment :=
  ⟨file, max startLine 1, code, false⟩

/-- The segment that a whole file makes. -/
def ofFile (tree : FileTree) (path : Path) : Except IoError Segment :=
  match tree.readText path with
  | .ok code => .ok ⟨path.text, 1, code, true⟩
  | .error err => .error err

/-- The distance of two line numbers. -/
def lineDistance (a b : Nat) : Nat := (a - b) + (b - a)

/-- Whether a segment of `file` at `startLine` would repeat this one: the same file, and first lines
at most two apart. -/
def overlaps (segment : Segment) (file : String) (startLine : Nat) : Bool :=
  segment.file == file && lineDistance segment.startLine startLine ≤ 2

/-- The lines of the segment's text. -/
def lines (segment : Segment) : List (List Char) :=
  Text.lines segment.code.toList

/-- The number of lines the segment takes up; an empty one takes up a line as well. -/
def lineCount (segment : Segment) : Nat :=
  max segment.lines.length 1

end Segment

end ScriptHost
