import ScriptHost.Source.BuildError
import ScriptHost.Source.LineMap
import ScriptHost.SourceSearch

/-!
Preparing sources for compilation. Lines of the form `#include "name"` are blanked, and the file that
each of them names is appended once as a segment of its own, which may include further files. A file
that is a segment already, or is included already, is not appended again.
-/

namespace ScriptHost

/-- The combined text of the segments of a module and of what they include. -/
structure Prepared where
  lines : LineMap
  /-- The included files, in the order of inclusion. -/
  included : List Path

namespace Prepared

/-- The target of an include directive, if the line is one. -/
def includeTarget? (line : List Char) : Option (List Char) :=
  (Text.stripPrefix? "#include".toList (Text.trimStart line)).bind fun rest =>
    (Text.stripPrefix? ['"'] (Text.trim rest)).bind fun rest =>
      (Text.stripSuffix? ['"'] rest).bind fun target =>
        if target.isEmpty then none else some target

/-- What the rewriting of lines has found so far. -/
structure Progress where
  /-- The files that are segments already. -/
  seen : List Path
  /-- Segments that are still to be looked at. -/
  queue : List Segment
  included : List Path

/-- Takes in the file that an include directive at `line` of `segment` names. -/
def includeFile (search : SourceSearch) (tree : FileTree) (segment : Segment) (line : Nat)
    (target : List Char) (progress : Progress) : Except BuildError Progress :=
  match search.resolveInclude tree (String.ofList target) ⟨segment.file⟩ with
  | none => .error (.unresolvedInclude segment.file line (String.ofList target))
  | some resolved =>
    let normalized := tree.normalize resolved
    if progress.seen.any (·.same normalized) then .ok progress
    else
      match Segment.ofFile tree resolved with
      | .error cause => .error (.read resolved cause)
      | .ok file =>
        .ok ⟨progress.seen ++ [normalized], progress.queue ++ [file],
          progress.included ++ [normalized]⟩

/-- Rewrites the lines of a segment from line number `line` on: include directives become empty and
what they name is queued. -/
def rewriteLines (search : SourceSearch) (tree : FileTree) (segment : Segment) (line : Nat)
    (progress : Progress) : List (List Char) → Except BuildError (List (List Char) × Progress)
  | [] => .ok ([], progress)
  | text :: rest =>
    match includeTarget? text with
    | none =>
      match rewriteLines search tree segment (line + 1) progress rest with
      | .error err => .error err
      | .ok (lines, progress) => .ok (text :: lines, progress)
    | some target =>
      match includeFile search tree segment line target progress with
      | .error err => .error err
      | .ok progress =>
        match rewriteLines search tree segment (line + 1) progress rest with
        | .error err => .error err
        | .ok (lines, progress) => .ok ([] :: lines, progress)

/-- Rewrites the segments of the queue and whatever they include. Each included file is a new one,
so `fuel` need not exceed the number of segments and files. -/
def closure (search : SourceSearch) (tree : FileTree) (fuel : Nat) (done : List Segment)
    (progress : Progress) : Except BuildError Prepared :=
  match fuel, progress.queue with
  | _, [] => .ok ⟨⟨done.reverse⟩, progress.included⟩
  | 0, _ :: _ => .ok ⟨⟨done.reverse⟩, progress.included⟩
  | fuel + 1, segment :: queue =>
    match rewriteLines search tree segment segment.startLine { progress with queue := queue }
      segment.lines with
    | .error err => .error err
    | .ok (lines, progress) =>
      let code := String.ofList (Text.unlines lines)
      closure search tree fuel ({ segment with code := code } :: done) progress

/-- The files that are segments from the start, under their normalized paths. -/
def diskFiles (tree : FileTree) (segments : List Segment) : List Path :=
  (segments.filter (·.fromDisk)).map fun segment => tree.normalize ⟨segment.file⟩

/-- Resolves the include directives of a module's segments. -/
def ofSegments (search : SourceSearch) (tree : FileTree) (segments : List Segment) :
    Except BuildError Prepared :=
  if segments.isEmpty then .error .empty
  else
    closure search tree (segments.length + tree.fileCount) []
      ⟨diskFiles tree segments, segments, []⟩

/-- The text of a segment as it stands in the combined text, where it ends with a line feed. -/
def segmentText (segment : Segment) : List Char :=
  let code := segment.code.toList
  if code.getLast? = some '\n' then code else code ++ ['\n']

/-- The combined text. -/
def combined (prepared : Prepared) : List Char :=
  prepared.lines.segments.flatMap segmentText

end Prepared

end ScriptHost
