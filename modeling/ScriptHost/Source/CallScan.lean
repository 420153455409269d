import ScriptHost.Source.Prepared
import ScriptHost.Table
import ScriptHost.Text.Letter

/-!
Finding the functions that a text calls, without parsing it. A call is a word directly followed by an
opening parenthesis, with blanks or tabs allowed between the two, outside comments and quotes.
`checkAccess` refuses a module whose text calls a function that the module has no access to.
-/

namespace ScriptHost.CallScan

/-- Where the scanner is. -/
inductive Mode
  /-- In code; tells whether the character before belongs to a word, or is a slash. -/
  | code (inWord afterSlash : Bool)
  | lineComment
  /-- In a block comment; tells whether the character before is a star. -/
  | blockComment (afterStar : Bool)
  /-- Between quotes; tells whether the character before is a backslash. -/
  | quote (mark : Char) (afterBackslash : Bool)

/-- A character that can continue a word. -/
def isWordChar (c : Char) : Bool :=
  Text.isLetterOrDigit c || c == '_'

/-- A character that can begin a word. -/
def isWordStart (c : Char) : Bool :=
  Text.isLetter c || c == '_'

/-- Whether a text that follows a word makes the word a call. -/
def opensCall (text : List Char) : Bool :=
  (text.dropWhile fun c => c == ' ' || c == '\t').head? == some '('

/-- The calls of a text from line `line` on, in their order, with their lines. -/
def scan (mode : Mode) (line : Nat) : List Char → List (String × Nat)
  | [] => []
  | c :: rest =>
    let next := if c = '\n' then line + 1 else line
    match mode with
    | .lineComment => scan (if c = '\n' then .code false false else .lineComment) next rest
    | .blockComment afterStar =>
      scan (if afterStar && c == '/' then .code false false else .blockComment (c == '*')) next rest
    | .quote mark true => scan (.quote mark false) line rest
    | .quote mark false =>
      scan (if c = mark then .code false false else .quote mark (c == '\\')) next rest
    | .code inWord afterSlash =>
      if inWord && isWordChar c then scan (.code true false) line rest
      else if afterSlash && c == '/' then scan .lineComment line rest
      else if afterSlash && c == '*' then scan (.blockComment false) line rest
      else if c = '"' || c = '\'' || c.toNat = 0x60 then scan (.quote c false) line rest
      else if isWordStart c then
        if opensCall (rest.dropWhile isWordChar) then
          (String.ofList (c :: rest.takeWhile isWordChar), line) :: scan (.code true false) line rest
        else scan (.code true false) line rest
      else scan (.code false (c == '/')) next rest

/-- The calls of a text, each with its line. -/
def calls (text : List Char) : List (String × Nat) :=
  scan (.code false false) 1 text

/-- The functions that a text calls, with the line of the first call of each. -/
def calledFunctions (text : List Char) : Table String Nat :=
  (calls text).foldl (fun table (name, line) => if table.has name then table else table.set name line)
    []

/-- The first call in a text of a function that needs access beyond `granted`. -/
def firstViolation (restricted : Table String AccessMask) (granted : AccessMask)
    (text : List Char) : Option (String × Nat × AccessMask) :=
  (calledFunctions text).findSome? fun (name, line) =>
    (restricted.get? name).bind fun required =>
      if granted.contains required then none else some (name, line, required)

/-- Refuses sources that call a function the module has no access to. -/
def checkAccess (prepared : Prepared) (granted : AccessMask)
    (restricted : Table String AccessMask) : Except BuildError Unit :=
  match firstViolation restricted granted prepared.combined with
  | none => .ok ()
  | some (function, line, required) =>
    let (file, line) := (prepared.lines.locate line).getD ("<unknown>", line)
    .error (.access file line function (required.minus granted))

end ScriptHost.CallScan
