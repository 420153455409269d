import ScriptHost.Decimal.Shortest

/-!
Floating-point numbers as text. The digits are those of the shortest decimal; a style says which
magnitudes are written with an exponent and what becomes of the sign of zero. A positional text
always has a point.
-/

namespace ScriptHost.Decimal

/-- The decisions about the text of a number. -/
structure FloatStyle where
  /-- Whether a magnitude other than zero is written with an exponent. -/
  takesExponent : Float → Bool
  signedZero : Bool

/-- The style of values shown to people: an exponent above ten million millions and below one part
of them, and zero without a sign. The limits are those numbers in single precision. -/
def FloatStyle.plain : FloatStyle where
  takesExponent magnitude :=
    (1e13 : Float32).toFloat < magnitude || magnitude < (1e-13 : Float32).toFloat
  signedZero := false

/-- The style of values within dumps: an exponent from `1e16` on and below `1e-4`. -/
def FloatStyle.dump : FloatStyle where
  takesExponent magnitude := 1e16 ≤ magnitude || magnitude < 1e-4
  signedZero := true

/-- The digits of a decimal with the point among them. -/
def positional (d : Scientific) : String :=
  let digits := Nat.toDigits 10 d.digits
  let whole := (digits.length : Int) + d.exponent
  if 0 ≤ d.exponent then
    String.ofList (digits ++ List.replicate d.exponent.toNat '0' ++ ['.', '0'])
  else if 0 < whole then
    String.ofList (digits.take whole.toNat ++ '.' :: digits.drop whole.toNat)
  else String.ofList ('0' :: '.' :: List.replicate (-whole).toNat '0' ++ digits)

/-- The digits of a decimal with the point behind the first one, and the exponent. -/
def scientific (d : Scientific) : String :=
  let digits := Nat.toDigits 10 d.digits
  let exponent := (digits.length : Int) - 1 + d.exponent
  let mantissa := match digits with
    | [] => []
    | [digit] => [digit]
    | digit :: rest => digit :: '.' :: rest
  s!"{String.ofList mantissa}e{exponent}"

/-- The text of a number. -/
def text (style : FloatStyle) (x : Float) : String :=
  if x.isNaN then "NaN"
  else
    let negative := 9223372036854775808 ≤ x.toBits.toNat
    let magnitude := x.abs
    if magnitude == 0 then if negative && style.signedZero then "-0.0" else "0.0"
    else
      let body :=
        if magnitude.isInf then "inf"
        else
          let d := shortest x.toBits
          if style.takesExponent magnitude then scientific d else positional d
      if negative then "-" ++ body else body

end ScriptHost.Decimal
