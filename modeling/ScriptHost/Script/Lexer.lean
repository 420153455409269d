import ScriptHost.Script.Token
import ScriptHost.Text.Blank

/-!
From script text to tokens. A cursor walks over the text and knows its line and column. Comments are
skipped, unless they document a function; block comments nest. A text literal in backquotes may embed
blocks in the form of a dollar sign and braces, whose tokens stand between the pieces of the text.
-/

namespace ScriptHost.Script

/-- A position in a text with what is left of it; `column` is that of the last character taken. -/
structure Cursor where
  rest : List Char
  line : Nat
  column : Nat

namespace Cursor

/-- The beginning of a text. -/
def start (text : List Char) : Cursor := ⟨text, 1, 0⟩

/-- The position of the last character taken. -/
def position (cursor : Cursor) : Position := ⟨cursor.line, cursor.column⟩

/-- The next character. -/
def peek (cursor : Cursor) : Option Char := cursor.rest.head?

/-- The character after the next one. -/
def peekSecond (cursor : Cursor) : Option Char := cursor.rest.tail.head?

/-- Takes a character that ends no line. -/
def advance (cursor : Cursor) : Cursor :=
  { cursor with rest := cursor.rest.tail, column := cursor.column + 1 }

/-- Takes characters that end no line. -/
def skip (cursor : Cursor) (count : Nat) : Cursor :=
  { cursor with rest := cursor.rest.drop count, column := cursor.column + count }

/-- Takes a character that ends a line. -/
def newLine (cursor : Cursor) : Cursor :=
  ⟨cursor.rest.tail, cursor.line + 1, 0⟩

end Cursor

/-- The backquote. -/
def backquote : Char := Char.ofNat 0x60

/-- The rest of a line comment, which a line feed or a carriage return ends; gives its text. -/
def takeLine (cursor : Cursor) (text : List Char) : List Char → List Char × Cursor
  | [] => (text.reverse, cursor)
  | '\r' :: '\n' :: rest => (text.reverse, ⟨rest, cursor.line + 1, 0⟩)
  | c :: rest =>
    if c = '\n' || c = '\r' then (text.reverse, ⟨rest, cursor.line + 1, 0⟩)
    else takeLine ⟨rest, cursor.line, cursor.column + 1⟩ (c :: text) rest

/-- The rest of a block comment at nesting depth `depth`; gives its text up to the closing mark. -/
def takeBlock (depth : Nat) (cursor : Cursor) (text : List Char) : List Char → List Char × Cursor
  | [] => (text.reverse, cursor)
  | '/' :: '*' :: rest =>
    takeBlock (depth + 1) ⟨rest, cursor.line, cursor.column + 2⟩ ('*' :: '/' :: text) rest
  | '*' :: '/' :: rest =>
    let cursor : Cursor := ⟨rest, cursor.line, cursor.column + 2⟩
    let text := '/' :: '*' :: text
    if depth ≤ 1 then (text.reverse, cursor) else takeBlock (depth - 1) cursor text rest
  | c :: rest =>
    if c = '\n' then takeBlock depth ⟨rest, cursor.line + 1, 0⟩ (c :: text) rest
    else takeBlock depth ⟨rest, cursor.line, cursor.column + 1⟩ (c :: text) rest

/-- How a quoted text ends. -/
inductive TextEnd
  /-- The closing quote was found. -/
  | closed
  /-- An embedded block begins. -/
  | embedded
  /-- The text ends before the literal does. -/
  | open
  | failed (cause : LexError)

/-- The value of a run of hexadecimal digits. -/
def hexCode? (digits : List Char) : Option Nat :=
  digits.foldl (fun value c =>
    value.bind fun value =>
      if c.isDigit then some (value * 16 + (c.toNat - 48))
      else if 'a' ≤ c ∧ c ≤ 'f' then some (value * 16 + (c.toNat - 87))
      else if 'A' ≤ c ∧ c ≤ 'F' then some (value * 16 + (c.toNat - 55))
      else none) (some 0)

/-- The character that a numbered escape stands for. -/
def escapedCode? (digits : List Char) (count : Nat) : Option Char :=
  if digits.length < count then none
  else
    (hexCode? digits).bind fun code =>
      if code < 0xd800 ∨ (0xe000 ≤ code ∧ code < 0x110000) then some (Char.ofNat code) else none

/-- Takes the content of a quoted text up to and including the closing `quote`. In backquotes a
backslash is an ordinary character and a line feed may occur; elsewhere a backslash begins an escape
and a line feed must be escaped. A doubled quote stands for one. -/
def takeText (quote : Char) (fuel : Nat) (cursor : Cursor) (text : List Char) :
    List Char × TextEnd × Cursor :=
  match fuel with
  | 0 => (text.reverse, .open, cursor)
  | fuel + 1 =>
    let verbatim := quote == backquote
    match cursor.rest with
    | [] => (text.reverse, .open, cursor)
    | c :: rest =>
      if c = quote then
        if rest.head? = some quote then takeText quote fuel (cursor.skip 2) (quote :: text)
        else (text.reverse, .closed, cursor.advance)
      else if verbatim && c == '$' && rest.head? == some '\x7b' then
        (text.reverse, .embedded, cursor.advance)
      else if c = '\n' then
        if verbatim then takeText quote fuel cursor.newLine (c :: text)
        else (text.reverse, .failed .unterminatedString, cursor)
      else if c = '\\' && !verbatim then
        match rest with
        | [] => (text.reverse, .open, cursor.advance)
        | e :: _ =>
          let next := cursor.skip 2
          let digits (count : Nat) :=
            match escapedCode? (next.rest.take count) count with
            | some value => takeText quote fuel (next.skip count) (value :: text)
            | none =>
              (text.reverse, .failed (.badEscape (String.ofList ('\\' :: e :: next.rest.take count))),
                next)
          if e = '\\' || e = quote then takeText quote fuel next (e :: text)
          else if e = 't' then takeText quote fuel next ('\t' :: text)
          else if e = 'n' then takeText quote fuel next ('\n' :: text)
          else if e = 'r' then takeText quote fuel next ('\r' :: text)
          else if e = 'x' then digits 2
          else if e = 'u' then digits 4
          else if e = 'U' then digits 8
          else if e = '\n' && quote == '"' then takeText quote fuel cursor.advance.newLine text
          else (text.reverse, .failed (.badEscape (String.ofList ['\\', e])), next)
      else takeText quote fuel cursor.advance (c :: text)

/-- Digits with underscores between them. -/
def takeDigits (valid : Char → Bool) (text : List Char) : List Char → List Char × Nat
  | [] => (text.reverse, 0)
  | c :: rest =>
    if c = '_' then
      let (digits, taken) := takeDigits valid text rest
      (digits, taken + 1)
    else if valid c then
      let (digits, taken) := takeDigits valid (c :: text) rest
      (digits, taken + 1)
    else (text.reverse, 0)

/-- The value of a run of digits in a base. -/
def digitsValue (base : Nat) (digits : List Char) : Nat :=
  digits.foldl (fun value c =>
    value * base + (if c.isDigit then c.toNat - 48 else (c.toLower.toNat - 87))) 0

/-- The number that a sign, an integer part, a fraction and an exponent make. -/
def floatValue (negative : Bool) (whole fraction : List Char) (exponent : Int) : Float :=
  let mantissa := digitsValue 10 (whole ++ fraction)
  let scale := exponent - fraction.length
  let value :=
    if scale < 0 then Float.ofScientific mantissa true scale.natAbs
    else Float.ofScientific mantissa false scale.natAbs
  if negative then -value else value

/-- The integer token of a value, or a float if the value is no integer of the language. -/
def intToken (negative : Bool) (digits : List Char) : Token :=
  let value : Int := digitsValue 10 digits
  let value := if negative then -value else value
  if -9223372036854775808 ≤ value ∧ value < 9223372036854775808 then .int (Int64.ofInt value)
  else .float (floatValue negative digits [] 0)

/-- The integer of a number with a base mark, where the upper half of the words is negative. -/
def basedToken (negative : Bool) (base : Nat) (digits : List Char) : Token :=
  let value : Int := digitsValue base digits
  if digits.isEmpty then .error (.badNumber "0")
  else if value < 18446744073709551616 then
    .int (if negative then -(Int64.ofInt value) else Int64.ofInt value)
  else .error (.badNumber (String.ofList digits))

/-- Takes an exponent, if the text has one: the mark, a sign, and digits. -/
def takeExponent (text : List Char) : Option (Int × Nat) :=
  match text with
  | 'e' :: '-' :: rest =>
    let (digits, taken) := takeDigits Char.isDigit [] rest
    if digits.isEmpty then none else some (-(digitsValue 10 digits : Int), taken + 2)
  | 'e' :: '+' :: rest =>
    let (digits, taken) := takeDigits Char.isDigit [] rest
    if digits.isEmpty then none else some ((digitsValue 10 digits : Int), taken + 2)
  | 'e' :: c :: rest =>
    if c.isDigit then
      let (digits, taken) := takeDigits Char.isDigit [] (c :: rest)
      some ((digitsValue 10 digits : Int), taken + 1)
    else none
  | _ => none

/-- Takes a number; the cursor stands before its first digit. -/
def takeNumber (negative : Bool) (cursor : Cursor) : Token × Cursor :=
  let based (base : Nat) (valid : Char → Bool) : Token × Cursor :=
    let (digits, taken) := takeDigits valid [] (cursor.rest.drop 2)
    (basedToken negative base digits, cursor.skip (taken + 2))
  match cursor.peek, cursor.peekSecond with
  | some '0', some 'x' => based 16 fun c => c.isDigit || ('a' ≤ c.toLower && c.toLower ≤ 'f')
  | some '0', some 'X' => based 16 fun c => c.isDigit || ('a' ≤ c.toLower && c.toLower ≤ 'f')
  | some '0', some 'o' => based 8 fun c => '0' ≤ c && c ≤ '7'
  | some '0', some 'O' => based 8 fun c => '0' ≤ c && c ≤ '7'
  | some '0', some 'b' => based 2 fun c => c == '0' || c == '1'
  | some '0', some 'B' => based 2 fun c => c == '0' || c == '1'
  | _, _ =>
    let (whole, taken) := takeDigits Char.isDigit [] cursor.rest
    let cursor := cursor.skip taken
    let fraction? : Option (List Char × Cursor) :=
      match cursor.rest with
      | ['.'] => none
      | '.' :: c :: _ =>
        if c.isDigit then
          let (digits, taken) := takeDigits Char.isDigit [] (cursor.rest.drop 1)
          some (digits, cursor.skip (taken + 1))
        else if c = '_' || c = '.' || c.isAlpha then none
        else some (['0'], cursor.skip 1)
      | _ => none
    let (fraction, cursor) := fraction?.getD ([], cursor)
    match takeExponent cursor.rest with
    | some (exponent, taken) => (.float (floatValue negative whole fraction exponent), cursor.skip taken)
    | none =>
      if fraction?.isSome then (.float (floatValue negative whole fraction 0), cursor)
      else (intToken negative whole, cursor)

/-- The token of a word. -/
def wordToken (word : String) : Token :=
  if keywords.contains word then .mark word
  else if reservedWords.contains word then .reserved word
  else if word.toList.all (· == '_') then .error (.badIdentifier word)
  else .identifier word

/-- The marks and reserved symbols, longer ones before their beginnings. -/
def symbols : List (String × Bool) :=
  [("===", false), ("!==", false), ("...", false), ("..=", true), ("::<", false), ("<<=", true),
    (">>=", true), ("**=", true), ("#\x7b", true), ("#!", false), ("()", true), ("(*", false),
    ("*)", false), ("+=", true), ("++", false), ("-=", true), ("->", false), ("--", false),
    ("*=", true), ("**", true), ("/=", true), ("%=", true), ("==", true), ("=>", true),
    ("::", true), (":=", false), (":;", false), ("<=", true), ("<-", false), ("<<", true),
    ("<|", false), (">=", true), (">>", true), ("!=", true), ("||", true), ("|=", true),
    ("|>", false), ("&&", true), ("&=", true), ("^=", true), ("..", true), ("?.", true),
    ("??", true), ("?[", true), ("\x7b", true), ("\x7d", true), ("(", true), (")", true),
    ("[", true), ("]", true), ("+", true), ("-", true), ("*", true), ("/", true), ("%", true),
    ("=", true), (":", true), ("<", true), (">", true), ("!", true), ("|", true), ("&", true),
    ("^", true), (".", true), (",", true), (";", true), ("#", false), ("@", false), ("$", false),
    ("~", false), ("?", false)]

/-- What to write in place of a symbol that belongs to other languages. -/
def symbolHint? (symbol : String) : Option String :=
  match symbol with
  | "===" =>
    some "'===' is not a valid operator. This is not JavaScript! Should it be '=='?"
  | "!==" =>
    some "'!==' is not a valid operator. This is not JavaScript! Should it be '!='?"
  | "->" => some "'->' is not a valid symbol. This is not C or C++!"
  | "<-" => some "'<-' is not a valid symbol. This is not Go! Should it be '<'?"
  | ":=" =>
    some ("':=' is not a valid assignment operator. This is not Go or Pascal! " ++
      "Should it be simply '='?")
  | ":;" => some "':;' is not a valid symbol. Should it be '::'?"
  | "::<" => some "'::<>' is not a valid symbol. This is not Rust! Should it be '::'?"
  | "(*" =>
    some ("'(* .. *)' is not a valid comment format. This is not Pascal! " ++
      "Should it be '/* .. */'?")
  | "*)" =>
    some ("'(* .. *)' is not a valid comment format. This is not Pascal! " ++
      "Should it be '/* .. */'?")
  | _ => none

/-- The token of a symbol. -/
def symbolToken (symbol : String) (isMark : Bool) : Token :=
  if isMark then .mark symbol
  else
    match symbolHint? symbol with
    | some hint => .error (.foreignSymbol hint)
    | none => .reserved symbol

/-- The symbol that a text begins with. -/
def symbolAt? (text : List Char) : Option (String × Bool) :=
  symbols.find? fun (symbol, _) => symbol.toList.isPrefixOf text

/-- A token with its position. -/
abbrev Lexeme := Token × Position

/-- Takes a piece of a text literal in backquotes; `first` is the position it is reported at. -/
def takePiece (first : Position) (cursor : Cursor) : Lexeme × Cursor :=
  match takeText backquote (cursor.rest.length + 1) cursor [] with
  | (text, .closed, cursor) => ((.string (String.ofList text), first), cursor)
  | (text, .embedded, cursor) => ((.interpolated (String.ofList text), first), cursor)
  | (_, .open, cursor) => ((.error .unterminatedString, first), cursor)
  | (_, .failed cause, cursor) => ((.error cause, cursor.position), cursor)

/-- What the lexer does at a character: emits a token or goes on. -/
inductive Step
  | emit (lexeme : Lexeme) (cursor : Cursor)
  | skip (cursor : Cursor)

/-- Takes what begins with the character `c`; the cursor stands before it, and `operandNext` tells
whether a sign would belong to an operand. -/
def stepAt (operandNext : Bool) (c : Char) (cursor : Cursor) : Step :=
  let first := cursor.advance.position
  if c = '\n' then .skip cursor.newLine
  else if Text.isBlank c then .skip cursor.advance
  else if c.isDigit then
    let (token, cursor) := takeNumber false cursor
    .emit (token, first) cursor
  else if c = '-' && operandNext && (cursor.peekSecond.map Char.isDigit).getD false then
    let (token, cursor) := takeNumber true cursor.advance
    .emit (token, first) cursor
  else if c.isAlpha || c = '_' then
    let word := cursor.rest.takeWhile fun c => c.isAlphanum || c == '_'
    .emit (wordToken (String.ofList word), first) (cursor.skip word.length)
  else if c = '"' then
    match takeText '"' (cursor.rest.length + 1) cursor.advance [] with
    | (text, .closed, cursor) => .emit (.string (String.ofList text), first) cursor
    | (_, .failed cause, cursor) => .emit (.error cause, cursor.position) cursor
    | (_, _, cursor) => .emit (.error .unterminatedString, cursor.position) cursor
  else if c = '\'' then
    match cursor.peekSecond with
    | some '\'' => .emit (.error (.badChar ""), first) (cursor.skip 2)
    | _ =>
      match takeText '\'' (cursor.rest.length + 1) cursor.advance [] with
      | ([value], .closed, cursor) => .emit (.char value, first) cursor
      | (text, .closed, cursor) => .emit (.error (.badChar (String.ofList text)), first) cursor
      | (_, .failed cause, cursor) => .emit (.error cause, cursor.position) cursor
      | (_, _, cursor) => .emit (.error .unterminatedString, cursor.position) cursor
  else if c = backquote then
    let cursor := cursor.advance
    let cursor := match cursor.rest with
      | '\r' :: '\n' :: _ => { cursor.newLine with rest := cursor.rest.drop 2 }
      | '\r' :: _ => cursor.newLine
      | '\n' :: _ => cursor.newLine
      | _ => cursor
    let (lexeme, cursor) := takePiece first cursor
    .emit lexeme cursor
  else if c = '/' && cursor.peekSecond == some '/' then
    let inside := cursor.skip 2
    let documents := inside.peek == some '/' && inside.peekSecond != some '/'
    let (text, cursor) := takeLine inside [] inside.rest
    if documents then .emit (.comment (String.ofList ('/' :: '/' :: text)), first) cursor
    else .skip cursor
  else if c = '/' && cursor.peekSecond == some '*' then
    let inside := cursor.skip 2
    if inside.peek == some '*' then
      let documents := inside.peekSecond != some '*'
      let (text, cursor) := takeBlock 1 inside.advance [] inside.rest.tail
      if documents then
        .emit (.comment (String.ofList ('/' :: '*' :: '*' :: text)), first) cursor
      else .skip cursor
    else .skip (takeBlock 1 inside [] inside.rest).2
  else
    match symbolAt? cursor.rest with
    | some (symbol, isMark) =>
      .emit (symbolToken symbol isMark, first) (cursor.skip symbol.length)
    | none => .emit (.error (.unexpected (String.singleton c)), first) cursor.advance

/-- The tokens of a text. `braces` holds, for each open embedded block, the number of braces open
within it; an embedded block ends at the brace that closes it, and its text goes on there. -/
def lexFrom (fuel : Nat) (operandNext : Bool) (braces : List Nat) (cursor : Cursor) :
    List Lexeme :=
  match fuel with
  | 0 => []
  | fuel + 1 =>
    match cursor.rest with
    | [] => [(.endOfInput, cursor.advance.position)]
    | c :: _ =>
      match stepAt operandNext c cursor with
      | .skip cursor => lexFrom fuel operandNext braces cursor
      | .emit (token, position) cursor =>
        let next := token.precedesOperand
        match token with
        | .error _ => [(token, position)]
        | .interpolated _ => (token, position) :: lexFrom fuel true (0 :: braces) cursor
        | .mark "\x7b" =>
          (token, position) :: lexFrom fuel next (braces.modifyHead (· + 1)) cursor
        | .mark "#\x7b" =>
          (token, position) :: lexFrom fuel next (braces.modifyHead (· + 1)) cursor
        | .mark "\x7d" =>
          match braces with
          | 1 :: outer =>
            let ((piece, place), cursor) := takePiece cursor.advance.position cursor
            let braces := match piece with
              | .interpolated _ => 0 :: outer
              | _ => outer
            (token, position) :: (piece, place) ::
              (match piece with
                | .error _ => []
                | .interpolated _ => lexFrom fuel true braces cursor
                | _ => lexFrom fuel false braces cursor)
          | _ => (token, position) :: lexFrom fuel next (braces.modifyHead (· - 1)) cursor
        | _ => (token, position) :: lexFrom fuel next braces cursor

/-- The tokens of a script text. The last one is the end of the input or an error. -/
def lex (text : List Char) : List Lexeme :=
  lexFrom (text.length + 1) true [] (.start text)

end ScriptHost.Script
