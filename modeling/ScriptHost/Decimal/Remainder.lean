import ScriptHost.Decimal.Shortest

/-!
The remainder of a division of floating-point numbers whose quotient is cut to a whole number. The
remainder is always a floating-point number itself, so it is computed exactly.
-/

namespace ScriptHost.Decimal

/-- The floating-point number `n * 2 ^ exponent`, where `n` has no more than 53 significant bits. -/
def ofBinary (n : Nat) (exponent : Int) : Float :=
  let excess := n.log2 - 60
  Float.scaleB (Float.ofNat (n >>> excess)) (exponent + excess)

/-- The remainder of `x` by `y`, with the sign of `x`. -/
def remainder (x y : Float) : Float :=
  if x.isNaN || y.isNaN || x.isInf || y == 0 then 0.0 / 0.0
  else if y.isInf || x == 0 then x
  else
    let a := Binary.ofBits x.toBits
    let b := Binary.ofBits y.toBits
    let unit := min a.exponent b.exponent
    let rest := a.mantissa * Nat.pow 2 (a.exponent - unit).toNat %
      (b.mantissa * Nat.pow 2 (b.exponent - unit).toNat)
    let magnitude := ofBinary rest unit
    if x < 0 then -magnitude else magnitude

end ScriptHost.Decimal
