/-
  LowRankTuner/Decimal/Fixed.lean
  ===============================
  A float written with a fixed number of places after the point.

  The exact binary value `m · 2^q` is scaled by `10^places` and rounded to the nearest
  natural, a tie going to the even one (`roundHalfEven`); the digits are then split at
  the point.  The sign is written whenever the float is negative, also when the rounded
  value is zero, and NaN and the infinities have words of their own.
-/
import LowRankTuner.Decimal.Binary

namespace LowRankTuner.Decimal

/-- `n` as a decimal string of at least `width` digits, padded with leading zeros. -/
def padDigits (n width : Nat) : String :=
  let s := String.ofList (Nat.toDigits 10 n)
  String.ofList (List.replicate (width - s.length) '0') ++ s

/-- The magnitude `m · 2^q` rounded to `places` decimals, as the integer count of units of
`10^-places`. -/
def roundedUnits (m : Nat) (q : Int) (places : Nat) : Nat :=
  let (a, b) := scaleTwo (m * Nat.pow 10 places) 1 q
  roundHalfEven a b

/-- The digits of `units · 10^-places` with exactly `places` digits after the point. -/
def unitsText (units places : Nat) : String :=
  if places == 0 then String.ofList (Nat.toDigits 10 units)
  else
    let whole := units / Nat.pow 10 places
    String.ofList (Nat.toDigits 10 whole) ++ "." ++ padDigits (units % Nat.pow 10 places) places

/-- Fixed-place text of a value class: `NaN`, `inf`, `-inf`, or the rounded digits with a
minus sign on every negative value. -/
def fixedText (c : FloatClass) (places : Nat) : String :=
  match c with
  | .nan => "NaN"
  | .infinite neg => if neg then "-inf" else "inf"
  | .finite neg m q => (if neg then "-" else "") ++ unitsText (roundedUnits m q places) places

/-- A 64-bit float with `places` decimals. -/
def fixed64 (x : Float) (places : Nat) : String := fixedText (FloatClass.ofFloat x) places

/-- A 32-bit float with `places` decimals. -/
def fixed32 (x : Float32) (places : Nat) : String := fixedText (FloatClass.ofFloat32 x) places

/-- The value of the fixed-place text of a value class, as the nearest double, a rounded zero
without sign; NaN and the infinities stay what they are. -/
def roundedValue (c : FloatClass) (places : Nat) : Float :=
  match c with
  | .nan => floatOfWord 0x7FF8000000000000
  | .infinite neg => floatOfWord (FloatFormat.double.infinityWord neg)
  | .finite neg m q =>
    let u := roundedUnits m q places
    floatOfRatio (neg && u != 0) u (Nat.pow 10 places)

/-- A 64-bit float rounded to `places` decimals. -/
def rounded64 (x : Float) (places : Nat) : Float := roundedValue (FloatClass.ofFloat x) places

/-- A 32-bit float rounded to `places` decimals. -/
def rounded32 (x : Float32) (places : Nat) : Float := roundedValue (FloatClass.ofFloat32 x) places

end LowRankTuner.Decimal
