import ScriptHost.Event.Kind
import ScriptHost.Text.Blank

/-!
Listener annotations. A line of a doc comment such as `/// @Listener="Generic", @Type="Score", x`
declares the function below it a listener. `ListenerTag.parse` reads such a line: the comment leader
goes first, then the quoted listener name, the quoted type of a generic listener, and what is left
is free metadata.
-/

namespace ScriptHost

open Text

/-- A listener annotation as read from one line. -/
structure ListenerTag where
  kind : ListenerKind
  genericType : Option String
  metadata : String
  deriving DecidableEq, Repr

/-- Why an annotation line declares no listener. -/
inductive TagError
  /-- The quoted name is no listener's. -/
  | unknownListener (name : String)
  /-- A generic listener lacks a type, or its type is empty. -/
  | missingType
  /-- The listener name is not given in quotes after an equals sign. -/
  | malformed (text : String)
  deriving DecidableEq, Repr

/-- The wording of an annotation error. -/
def TagError.message : TagError → String
  | .unknownListener name => s!"unknown listener name '{name}'"
  | .missingType => "generic listener without @Type"
  | .malformed text => s!"malformed annotation '{text}'"

namespace ListenerTag

/-- The marker an annotation begins with. -/
def listenerKey : List Char := "@Listener".toList

/-- The marker of the type of a generic listener. -/
def typeKey : List Char := "@Type".toList

/-- The content of a doc comment line: blanks, the opening `///` or `/**`, a closing `*/` and
leading stars are taken away. -/
def stripLeader (line : List Char) : List Char :=
  let text := trim line
  let text := ((stripPrefix? ['/', '/', '/'] text).or (stripPrefix? ['/', '*', '*'] text)).getD text
  let text := (stripSuffix? ['*', '/'] text).getD text
  trim ((trim text).dropWhile (· == '*'))

/-- Splits a text at its first double quote, which belongs to neither part. -/
def splitAtQuote : List Char → Option (List Char × List Char)
  | [] => none
  | c :: rest =>
    if c = '"' then some ([], rest)
    else (splitAtQuote rest).map fun (value, after) => (c :: value, after)

/-- Reads `key = "value"` with blanks allowed around the equals sign, and gives the value and the
text behind it. -/
def quotedValue (key text : List Char) : Option (List Char × List Char) :=
  (stripPrefix? key text).bind fun rest =>
    (stripPrefix? ['='] (trimStart rest)).bind fun rest =>
      (stripPrefix? ['"'] (trimStart rest)).bind splitAtQuote

/-- Skips blanks and a run of commas between two parts of an annotation. -/
def skipCommas (text : List Char) : List Char :=
  trimStart ((trimStart text).dropWhile (· == ','))

/-- Reads what follows the quoted name of a listener. -/
def ofParts (kind : ListenerKind) (rest : List Char) :
    Except TagError ListenerTag :=
  if kind = .generic then
    match quotedValue typeKey rest with
    | none => .error .missingType
    | some ([], _) => .error .missingType
    | some (eventType, after) =>
      .ok ⟨kind, some (String.ofList eventType), String.ofList (trimEnd (skipCommas after))⟩
  else .ok ⟨kind, none, String.ofList (trimEnd rest)⟩

/-- Reads the content of a doc comment line. -/
def ofContent (text : List Char) : Except TagError (Option ListenerTag) :=
  if (stripPrefix? listenerKey text).isNone then .ok none
  else
    match quotedValue listenerKey text with
    | none => .error (.malformed (String.ofList text))
    | some (name, rest) =>
      match ListenerKind.ofName? (String.ofList name) with
      | none => .error (.unknownListener (String.ofList name))
      | some kind => (ofParts kind (skipCommas rest)).map some

end ListenerTag

/-- Reads one line of a doc comment; a line that is no annotation gives `none`. -/
def ListenerTag.parse (line : String) : Except TagError (Option ListenerTag) :=
  ListenerTag.ofContent (ListenerTag.stripLeader line.toList)

end ScriptHost
