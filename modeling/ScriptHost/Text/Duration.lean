/-!
Spans of time as text. A span of whole milliseconds is written in seconds from one second on, with
at most three decimals and no trailing zeros, and in milliseconds below; no time at all is `0ns`.
-/

namespace ScriptHost.Text

/-- Three digits, with leading zeros. -/
def threeDigits (n : Nat) : List Char :=
  let digits := (toString n).toList
  List.replicate (3 - digits.length) '0' ++ digits

/-- The text of a span of `millis` milliseconds. -/
def duration (millis : Nat) : String :=
  if millis = 0 then "0ns"
  else if millis < 1000 then s!"{millis}ms"
  else if millis % 1000 = 0 then s!"{millis / 1000}s"
  else
    let decimals := ((threeDigits (millis % 1000)).reverse.dropWhile (· == '0')).reverse
    s!"{millis / 1000}.{String.ofList decimals}s"

end ScriptHost.Text
