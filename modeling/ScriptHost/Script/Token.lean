/-!
Tokens of the script language, the positions they stand at, and the errors of a text that does not
fall into tokens.
-/

namespace ScriptHost.Script

/-- A place in a script text. Lines and columns are counted from one. -/
structure Position where
  line : Nat
  column : Nat
  deriving DecidableEq, Repr, Inhabited

/-- Why a text does not fall into tokens. -/
inductive LexError
  | unexpected (text : String)
  | unterminatedString
  | badEscape (text : String)
  | badNumber (text : String)
  | badChar (text : String)
  | badIdentifier (text : String)
  /-- A symbol that looks like one of another language; the hint says what to write. -/
  | foreignSymbol (hint : String)
  deriving DecidableEq, Repr

/-- The wording of a token error. -/
def LexError.message : LexError → String
  | .unexpected text => s!"Unexpected '{text}'"
  | .unterminatedString => "Open string is not terminated"
  | .badEscape text => s!"Invalid escape sequence: '{text}'"
  | .badNumber text => s!"Invalid number: '{text}'"
  | .badChar text => s!"Invalid character: '{text}'"
  | .badIdentifier text => s!"Variable name is not proper: '{text}'"
  | .foreignSymbol hint => hint

/-- A token. -/
inductive Token
  | int (value : Int64)
  | float (value : Float)
  | char (value : Char)
  | string (value : String)
  /-- A piece of a text literal that an embedded block follows. -/
  | interpolated (value : String)
  | identifier (name : String)
  /-- A word or symbol that the language keeps for itself. -/
  | reserved (text : String)
  /-- A keyword, an operator or a mark. -/
  | mark (text : String)
  /-- A documentation comment, with its leader. -/
  | comment (text : String)
  | error (cause : LexError)
  | endOfInput

/-- The keywords. -/
def keywords : List String :=
  ["true", "false", "let", "const", "if", "else", "switch", "do", "while", "until", "loop", "for",
    "in", "continue", "break", "try", "catch", "throw", "return", "fn", "private", "import",
    "export", "as"]

/-- Words that are no keywords but cannot be names either. -/
def reservedWords : List String :=
  ["print", "debug", "type_of", "eval", "Fn", "call", "curry", "this", "is_shared", "is_def_fn",
    "is_def_var", "var", "static", "shared", "goto", "exit", "match", "case", "default", "void",
    "null", "nil", "public", "protected", "new", "use", "with", "is", "module", "package", "super",
    "thread", "spawn", "go", "await", "async", "sync", "yield"]

/-- Whether a reserved word can be called like a function. -/
def isCallableWord (word : String) : Bool :=
  ["print", "debug", "type_of", "eval", "Fn", "call", "curry", "is_shared", "is_def_fn",
    "is_def_var"].contains word

/-- Whether a reserved word can be called like a method. -/
def isMethodWord (word : String) : Bool :=
  ["type_of", "call", "curry", "is_shared"].contains word

/-- Whether a text is a word: letters, digits and underscores, not beginning with a digit. -/
def isWordText (text : String) : Bool :=
  match text.toList with
  | [] => false
  | c :: rest => (c.isAlpha || c == '_') && rest.all fun c => c.isAlphanum || c == '_'

/-- The text of a token, as error messages give it. -/
def Token.text : Token → String
  | .int value => toString value.toInt
  | .float _ => "float"
  | .char _ => "char"
  | .string _ => "string"
  | .interpolated _ => "string"
  | .identifier name => name
  | .reserved text => text
  | .mark text => text
  | .comment text => text
  | .error cause => cause.message
  | .endOfInput => "\x7bEOF\x7d"

/-- Whether a minus or plus sign behind the token belongs to the operand that follows. -/
def Token.precedesOperand : Token → Bool
  | .mark text => !([")", "]", "\x7d", "()", "true", "false", "."].contains text)
  | .error _ => true
  | _ => false

end ScriptHost.Script
