/-!
Blank characters and trimming. A blank is a character with the Unicode property `White_Space`;
every part of the library that trims a text uses this one class.
-/

namespace ScriptHost.Text

/-- A character with the Unicode property `White_Space`. -/
def isBlank (c : Char) : Bool :=
  let n := c.toNat
  (0x9 ≤ n && n ≤ 0xd) || n == 0x20 || n == 0x85 || n == 0xa0 || n == 0x1680 ||
    (0x2000 ≤ n && n ≤ 0x200a) || n == 0x2028 || n == 0x2029 || n == 0x202f || n == 0x205f ||
    n == 0x3000

/-- The text without its leading blanks. -/
def trimStart (text : List Char) : List Char :=
  text.dropWhile isBlank

/-- The text without its trailing blanks. -/
def trimEnd (text : List Char) : List Char :=
  (text.reverse.dropWhile isBlank).reverse

/-- The text without blanks at either end. -/
def trim (text : List Char) : List Char :=
  trimEnd (trimStart text)

/-- `trim` on a string. -/
def trimString (text : String) : String :=
  String.ofList (trim text.toList)

/-- The text after `start`, if it begins with it. -/
def stripPrefix? (start text : List Char) : Option (List Char) :=
  match start, text with
  | [], rest => some rest
  | _ :: _, [] => none
  | a :: start, c :: rest => if a = c then stripPrefix? start rest else none

/-- The text before `ending`, if it ends with it. -/
def stripSuffix? (ending text : List Char) : Option (List Char) :=
  (stripPrefix? ending.reverse text.reverse).map List.reverse

/-- The pieces of a text between the occurrences of `separator`; there is always one more piece
than there are separators. -/
def pieces (separator : Char) : List Char → List (List Char)
  | [] => [[]]
  | c :: rest =>
    if c = separator then [] :: pieces separator rest
    else
      match pieces separator rest with
      | [] => [[c]]
      | first :: others => (c :: first) :: others

end ScriptHost.Text
