/-!
The lines of a text. A line ends at a line feed, which may follow a carriage return; the end of
the text ends the last line, and an empty last line does not count. `numbered` pairs the lines with
their numbers, counted from one.
-/

namespace ScriptHost.Text

/-- Drops one carriage return from the end of a line. -/
def dropReturn (line : List Char) : List Char :=
  match line.reverse with
  | '\r' :: rest => rest.reverse
  | _ => line

/-- The lines of `text`, where `line` holds the characters of the current line read so far, last
first. -/
def linesFrom (line : List Char) : List Char → List (List Char)
  | [] => if line.isEmpty then [] else [line.reverse]
  | '\n' :: rest => dropReturn line.reverse :: linesFrom [] rest
  | c :: rest => linesFrom (c :: line) rest

/-- The lines of a text, without their line ends. -/
def lines (text : List Char) : List (List Char) :=
  linesFrom [] text

/-- Writes each line with a line feed behind it. -/
def unlines (content : List (List Char)) : List Char :=
  content.flatMap (· ++ ['\n'])

end ScriptHost.Text
