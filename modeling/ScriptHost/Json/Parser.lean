import ScriptHost.Json.Basic

/-!
Reading JSON text. Each scanner takes the characters that are left and gives a value with the
characters behind it. `Json.parse` accepts a text that is exactly one value with blanks around it.
-/

namespace ScriptHost.Json

/-- The blanks allowed between tokens. -/
def isSpace (c : Char) : Bool :=
  c == ' ' || c == '\t' || c == '\n' || c == '\r'

/-- Drops leading blanks. -/
def skipSpace (text : List Char) : List Char :=
  text.dropWhile isSpace

/-- The value of a hexadecimal digit. -/
def hexValue? (c : Char) : Option Nat :=
  if '0' ≤ c ∧ c ≤ '9' then some (c.toNat - 48)
  else if 'a' ≤ c ∧ c ≤ 'f' then some (c.toNat - 87)
  else if 'A' ≤ c ∧ c ≤ 'F' then some (c.toNat - 55)
  else none

/-- The value of four hexadecimal digits. -/
def hex4? (a b c d : Char) : Option Nat := do
  let a ← hexValue? a
  let b ← hexValue? b
  let c ← hexValue? c
  let d ← hexValue? d
  return ((a * 16 + b) * 16 + c) * 16 + d

/-- What a one-letter escape stands for. -/
def escapeValue? (c : Char) : Option Char :=
  if c = '"' ∨ c = '\\' ∨ c = '/' then some c
  else if c = 'b' then some '\x08'
  else if c = 'f' then some '\x0c'
  else if c = 'n' then some '\n'
  else if c = 'r' then some '\r'
  else if c = 't' then some '\t'
  else none

/-- One item of a string's content: a character, or a numbered escape, which may be half of one. -/
inductive StringItem
  | char (c : Char)
  | unit (code : Nat)

/-- Reads the content of a string up to and including its closing quote. -/
def scanString : List Char → Option (List StringItem × List Char)
  | [] => none
  | '"' :: rest => some ([], rest)
  | '\\' :: 'u' :: a :: b :: c :: d :: rest =>
    (hex4? a b c d).bind fun code =>
      (scanString rest).map fun (items, after) => (.unit code :: items, after)
  | '\\' :: c :: rest =>
    (escapeValue? c).bind fun c =>
      (scanString rest).map fun (items, after) => (.char c :: items, after)
  | c :: rest =>
    if c.toNat < 0x20 ∨ c = '\\' then none
    else (scanString rest).map fun (items, after) => (.char c :: items, after)

/-- The characters of a string's content; numbered escapes of a surrogate pair form one character,
and a surrogate on its own forms none. -/
def decodeItems : List StringItem → Option (List Char)
  | [] => some []
  | .char c :: rest => (decodeItems rest).map (c :: ·)
  | .unit high :: .unit low :: rest =>
    if 0xd800 ≤ high ∧ high < 0xdc00 then
      if 0xdc00 ≤ low ∧ low < 0xe000 then
        (decodeItems rest).map
          (Char.ofNat (0x10000 + (high - 0xd800) * 0x400 + (low - 0xdc00)) :: ·)
      else none
    else if 0xdc00 ≤ high ∧ high < 0xe000 then none
    else (decodeItems (.unit low :: rest)).map (Char.ofNat high :: ·)
  | .unit code :: rest =>
    if 0xd800 ≤ code ∧ code < 0xe000 then none
    else (decodeItems rest).map (Char.ofNat code :: ·)

/-- Reads a string whose opening quote is gone. -/
def scanText (text : List Char) : Option (Option String × List Char) :=
  (scanString text).map fun (items, rest) => ((decodeItems items).map String.ofList, rest)

/-- The value of a run of decimal digits. -/
def decimalValue (digits : List Char) : Nat :=
  digits.foldl (fun value c => value * 10 + (c.toNat - 48)) 0

/-- Reads one digit or more. -/
def scanDigits (text : List Char) : Option (List Char × List Char) :=
  match text.span Char.isDigit with
  | ([], _) => none
  | (digits, rest) => some (digits, rest)

/-- Reads an optional fraction; tells whether there was one. -/
def scanFraction : List Char → Option (Bool × List Char)
  | '.' :: rest => (scanDigits rest).map fun (_, rest) => (true, rest)
  | text => some (false, text)

/-- Reads an optional exponent; tells whether there was one. -/
def scanExponent : List Char → Option (Bool × List Char)
  | c :: rest =>
    if c = 'e' ∨ c = 'E' then
      let digits := match rest with
        | '+' :: after => after
        | '-' :: after => after
        | _ => rest
      (scanDigits digits).map fun (_, rest) => (true, rest)
    else some (false, c :: rest)
  | [] => some (false, [])

/-- Reads a number; a leading zero stands alone. -/
def scanNumber (text : List Char) : Option (Json × List Char) := do
  let (negative, unsigned) := match text with
    | '-' :: rest => (true, rest)
    | _ => (false, text)
  let (digits, rest) ← scanDigits unsigned
  if digits.length > 1 ∧ digits.head? = some '0' then none
  else
    let (fraction, rest) ← scanFraction rest
    let (exponent, rest) ← scanExponent rest
    if negative || fraction || exponent then return (.otherNumber, rest)
    else return (.natural (decimalValue digits), rest)

/-- Drops `word` from the front of a text. -/
def scanWord : List Char → List Char → Option (List Char)
  | [], text => some text
  | _ :: _, [] => none
  | w :: word, c :: text => if w = c then scanWord word text else none

mutual

/-- Reads a value; `fuel` bounds the number of tokens. -/
def scanValue (fuel : Nat) (text : List Char) : Option (Json × List Char) :=
  match fuel with
  | 0 => none
  | fuel + 1 =>
    match skipSpace text with
    | [] => none
    | '"' :: rest => (scanText rest).map fun (text, rest) => (.string text, rest)
    | '[' :: rest =>
      match skipSpace rest with
      | ']' :: rest => some (.array [], rest)
      | rest => (scanItems fuel rest).map fun (items, rest) => (.array items, rest)
    | '\x7b' :: rest =>
      match skipSpace rest with
      | '\x7d' :: rest => some (.object [], rest)
      | rest => (scanMembers fuel rest).map fun (members, rest) => (.object members, rest)
    | c :: rest =>
      if c = 'n' then (scanWord ['u', 'l', 'l'] rest).map fun rest => (.null, rest)
      else if c = 't' then (scanWord ['r', 'u', 'e'] rest).map fun rest => (.bool true, rest)
      else if c = 'f' then
        (scanWord ['a', 'l', 's', 'e'] rest).map fun rest => (.bool false, rest)
      else scanNumber (c :: rest)

/-- Reads the items of an array, of which there is one at least, and the closing bracket. -/
def scanItems (fuel : Nat) (text : List Char) : Option (List Json × List Char) :=
  match fuel with
  | 0 => none
  | fuel + 1 =>
    (scanValue fuel text).bind fun (item, rest) =>
      match skipSpace rest with
      | ']' :: rest => some ([item], rest)
      | ',' :: rest => (scanItems fuel rest).map fun (items, rest) => (item :: items, rest)
      | _ => none

/-- Reads the members of an object, of which there is one at least, and the closing brace. -/
def scanMembers (fuel : Nat) (text : List Char) :
    Option (List (Option String × Json) × List Char) :=
  match fuel with
  | 0 => none
  | fuel + 1 =>
    match skipSpace text with
    | '"' :: rest =>
      (scanText rest).bind fun (key, rest) =>
        match skipSpace rest with
        | ':' :: rest =>
          (scanValue fuel rest).bind fun (value, rest) =>
            match skipSpace rest with
            | '\x7d' :: rest => some ([(key, value)], rest)
            | ',' :: rest =>
              (scanMembers fuel rest).map fun (members, rest) => ((key, value) :: members, rest)
            | _ => none
        | _ => none
    | _ => none

end

/-- Reads a text that holds exactly one value. -/
def parse (text : List Char) : Option Json :=
  (scanValue (2 * text.length + 2) text).bind fun (value, rest) =>
    if (skipSpace rest).isEmpty then some value else none

end ScriptHost.Json
