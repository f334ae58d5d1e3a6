/-
  LowRankTuner/Decimal/Arith.lean
  ===============================
  Float arithmetic that has to be exact: the remainder of a division truncated toward
  zero, Euclidean division, rounding half away from zero, and integer powers by repeated
  squaring.

  The remainder is computed on the binary values themselves: with `x = X · 2^e` and
  `y = Y · 2^e` for the smaller of the two exponents, the remainder is `(X mod Y) · 2^e`
  with the sign of `x`, which is always a float, so no rounding happens.
-/
import LowRankTuner.Decimal.Binary

namespace LowRankTuner

/-- The magnitude of a finite float as an integer scaled by a power of two. -/
def finiteParts : FloatClass → Option (Bool × Nat × Int)
  | .finite neg m q => some (neg, m, q)
  | _ => none

/-- The remainder of `x / y` with the quotient truncated toward zero; it has the sign of
`x`.  NaN when `x` is infinite or `y` is zero, `x` itself when `y` is infinite. -/
def floatRem (x y : Float) : Float :=
  if x.isNaN || y.isNaN || x.isInf || y == 0.0 then 0.0 / 0.0
  else if y.isInf then x
  else
    match finiteParts (FloatClass.ofFloat x), finiteParts (FloatClass.ofFloat y) with
    | some (neg, mx, qx), some (_, my, qy) =>
      let e := min qx qy
      let r := (mx * Nat.pow 2 (qx - e).toNat) % (my * Nat.pow 2 (qy - e).toNat)
      if r == 0 then (if neg then -0.0 else 0.0)
      else if e ≥ 0 then floatOfRatio neg (r * Nat.pow 2 e.toNat) 1
      else floatOfRatio neg r (Nat.pow 2 e.natAbs)
    | _, _ => 0.0 / 0.0

/-- A float with its fraction dropped, toward zero. -/
def floatTrunc (x : Float) : Float := if x < 0.0 then x.ceil else x.floor

/-- Euclidean division of floats: the truncated quotient, one lower (for a positive divisor)
or higher when the remainder is negative. -/
def floatDivEuclid (x y : Float) : Float :=
  let q := floatTrunc (x / y)
  if floatRem x y < 0.0 then (if y > 0.0 then q - 1.0 else q + 1.0) else q

/-- A float to an integer power by repeated squaring, the reciprocal for a negative
power. -/
def floatPowInt (a : Float) (n : Int) : Float :=
  let rec go : Nat → Float → Float → Nat → Float
    | 0, r, _, _ => r
    | fuel + 1, r, base, k =>
      let r := if k % 2 == 1 then r * base else r
      if k / 2 == 0 then r else go fuel r (base * base) (k / 2)
  let r := go 64 1.0 a n.natAbs
  if n < 0 then 1.0 / r else r

end LowRankTuner
