/-!
The shortest decimal form of a floating-point number. A positive number stands for every real that
rounds to it, and of the decimals among these the ones with the fewest digits are wanted, and of
those the nearest. `shortest` tries one digit, then two, and so on; with a given number of digits it
looks at the two decimals next to the number.
-/

namespace ScriptHost.Decimal

/-- A fraction of natural numbers. -/
structure Ratio where
  num : Nat
  den : Nat

namespace Ratio

/-- The fraction `n * 2 ^ two * 10 ^ ten`. -/
def scaled (n : Nat) (two ten : Int) : Ratio :=
  ⟨n * Nat.pow 2 two.toNat * Nat.pow 10 ten.toNat,
    Nat.pow 2 (-two).toNat * Nat.pow 10 (-ten).toNat⟩

/-- Whether one fraction is below another. -/
def below (a b : Ratio) : Bool := a.num * b.den < b.num * a.den

/-- Whether one fraction is not above another. -/
def atMost (a b : Ratio) : Bool := a.num * b.den ≤ b.num * a.den

end Ratio

/-- A positive floating-point number, `mantissa * 2 ^ exponent`. -/
structure Binary where
  mantissa : Nat
  exponent : Int
  /-- Whether the next smaller number is only half as far away as the next greater one. -/
  closeBelow : Bool

/-- A decimal, `digits * 10 ^ exponent`. -/
structure Scientific where
  digits : Nat
  exponent : Int

namespace Binary

/-- The magnitude of the floating-point number with these bits. -/
def ofBits (bits : UInt64) : Binary :=
  let fraction := (bits &&& 0xfffffffffffff).toNat
  let exponent := ((bits >>> 52) &&& 0x7ff).toNat
  if exponent = 0 then ⟨fraction, -1074, false⟩
  else ⟨4503599627370496 + fraction, (exponent : Int) - 1075, fraction = 0 && 1 < exponent⟩

/-- The number as a fraction of a power of ten. -/
def inUnits (x : Binary) (exponent : Int) : Ratio :=
  .scaled x.mantissa x.exponent (-exponent)

/-- The end of the reals that round to the number, below it. -/
def low (x : Binary) : Ratio :=
  .scaled (4 * x.mantissa - if x.closeBelow then 1 else 2) (x.exponent - 2) 0

/-- The end of the reals that round to the number, above it. -/
def high (x : Binary) : Ratio :=
  .scaled (4 * x.mantissa + 2) (x.exponent - 2) 0

/-- Whether a decimal rounds to the number. The two ends do so when the mantissa is even. -/
def holds (x : Binary) (d : Scientific) : Bool :=
  let value := Ratio.scaled d.digits 0 d.exponent
  if x.mantissa % 2 = 0 then x.low.atMost value && value.atMost x.high
  else x.low.below value && value.below x.high

/-- The number of decimal digits of a natural number. -/
def digitCount (n : Nat) : Nat :=
  (Nat.toDigits 10 n).length

/-- The least power of ten above the number, by its exponent. -/
def magnitude (x : Binary) : Int :=
  let value := x.inUnits 0
  if value.den ≤ value.num then digitCount (value.num / value.den)
  else 1 - (digitCount ((value.den - 1) / value.num) : Int)

/-- The nearest decimal with at most `count` digits that rounds to the number. -/
def withDigits? (x : Binary) (count : Nat) : Option Scientific :=
  let exponent := x.magnitude - count
  let value := x.inUnits exponent
  let lower : Scientific := ⟨value.num / value.den, exponent⟩
  let upper : Scientific := ⟨value.num / value.den + 1, exponent⟩
  match x.holds lower, x.holds upper with
  | false, false => none
  | true, false => some lower
  | false, true => some upper
  | true, true =>
    if 2 * (value.num % value.den) < value.den then some lower else some upper

/-- The first hit among the decimals with `count` digits, one digit more, and so on. -/
def search (x : Binary) (count : Nat) : Nat → Scientific
  | 0 => ⟨(x.inUnits (x.magnitude - count)).num, x.magnitude - count⟩
  | tries + 1 => (x.withDigits? count).getD (x.search (count + 1) tries)

end Binary

/-- Takes trailing zeros away from the digits. -/
def Scientific.stripped (fuel : Nat) (d : Scientific) : Scientific :=
  match fuel with
  | 0 => d
  | fuel + 1 =>
    if d.digits % 10 = 0 && d.digits != 0 then
      Scientific.stripped fuel ⟨d.digits / 10, d.exponent + 1⟩
    else d

/-- The shortest decimal that rounds to the magnitude of a number that is finite and not zero.
Seventeen digits are enough for any number. -/
def shortest (bits : UInt64) : Scientific :=
  ((Binary.ofBits bits).search 1 17).stripped 18

end ScriptHost.Decimal
