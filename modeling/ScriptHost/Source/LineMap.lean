import ScriptHost.Source.Segment

/-!
The map from lines of the combined text of several segments back to the segments. The segments follow
one another in the combined text, each taking up its own number of lines.
-/

namespace ScriptHost

/-- The segments of a combined text, in their order. -/
structure LineMap where
  segments : List Segment

namespace LineMap

/-- The segment that holds the line number `index`, counted from zero, and the number of the line
within it. -/
def placeIn : List Segment → Nat → Option (Segment × Nat)
  | [], _ => none
  | segment :: rest, index =>
    if index < segment.lineCount then some (segment, index)
    else placeIn rest (index - segment.lineCount)

/-- The segment of a combined line, counted from one, and the number of lines before it there. -/
def place? (map : LineMap) (line : Nat) : Option (Segment × Nat) :=
  if line = 0 then none else placeIn map.segments (line - 1)

/-- The file and the line in it that a combined line comes from. -/
def locate (map : LineMap) (line : Nat) : Option (String × Nat) :=
  (map.place? line).map fun (segment, offset) => (segment.file, segment.startLine + offset)

/-- The text of a combined line. -/
def sourceLine (map : LineMap) (line : Nat) : Option String :=
  (map.place? line).bind fun (segment, offset) => segment.lines[offset]?.map String.ofList

/-- The file of each segment. -/
def files (map : LineMap) : List String :=
  map.segments.map (·.file)

end LineMap

end ScriptHost
