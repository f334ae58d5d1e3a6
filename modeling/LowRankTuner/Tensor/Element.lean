import LowRankTuner.Decimal.Binary
/-!
# Tensor elements

Tensors hold 32-bit floats.  A half-precision tensor holds 32-bit floats that are all
values of the 16-bit format: each of its operations is carried out in single precision
and the result is rounded once more, to the nearest half-precision value.

Every step here is one rounding of an exact result.  `mulAdd32` is the fused
multiply-add `r(a · b + c)`: the product of two singles is exact in a double, and the
error of the double sum tells, when that sum falls on a midpoint of two singles, which
way the exact sum lies.  `roundToHalf` and `halfOfFloat` round exact values with
`FloatFormat.nearest`, so they are as exact as the `Nat` arithmetic below them.
-/

namespace LowRankTuner

namespace FloatFormat

/-- The 16-bit format (`binary16`). -/
def half : FloatFormat := ⟨10, 5⟩

end FloatFormat

/-! ## Neighbours and the fused multiply-add -/

/-- The least single above `x`; NaN and positive infinity are their own. -/
def nextAbove32 (x : Float32) : Float32 :=
  if x.isNaN || (x.isInf && x > 0) then x
  else if x == 0 then Float32.ofBits 1
  else if x > 0 then Float32.ofBits (x.toBits + 1)
  else Float32.ofBits (x.toBits - 1)

/-- The greatest single below `x`; NaN and negative infinity are their own. -/
def nextBelow32 (x : Float32) : Float32 :=
  if x.isNaN || (x.isInf && x < 0) then x
  else if x == 0 then Float32.ofBits 0x80000001
  else if x > 0 then Float32.ofBits (x.toBits - 1)
  else Float32.ofBits (x.toBits + 1)

/-- `a · b + c` rounded once to a single.  The double sum `s` of the exact product and `c`
rounds to the same single as the exact sum, except when `s` is a midpoint of two singles
and the sum was inexact: the sign of its error then picks the neighbour. -/
def mulAdd32 (a b c : Float32) : Float32 :=
  let p := a.toFloat * b.toFloat
  let cf := c.toFloat
  let s := p + cf
  let r := s.toFloat32
  if !s.isFinite then r
  else
    let v := s - p
    let err := (p - (s - v)) + (cf - v)
    let rf := r.toFloat
    if err > 0 && rf < s then
      let up := nextAbove32 r
      if (rf + up.toFloat) / 2 == s then up else r
    else if err < 0 && rf > s then
      let down := nextBelow32 r
      if (rf + down.toFloat) / 2 == s then down else r
    else r

/-! ## Half precision -/

/-- The single of a value class, exact for every value of a format no wider than single. -/
def float32OfClass : FloatClass → Float32
  | .nan => Float32.ofBits 0x7FC00000
  | .infinite neg => Float32.ofBits (if neg then 0xFF800000 else 0x7F800000)
  | .finite neg m q =>
    let (a, b) := scaleTwo m 1 q
    float32OfRatio neg a b

/-- The half-precision value nearest an exact value class, as a single. -/
def halfOfClass : FloatClass → Float32
  | .finite neg m q =>
    let (a, b) := scaleTwo m 1 q
    float32OfClass (FloatFormat.half.decode (FloatFormat.half.nearest neg a b))
  | c => float32OfClass c

/-- The half-precision value nearest a single, ties to even, past the largest finite half
to infinity. -/
def roundToHalf (x : Float32) : Float32 := halfOfClass (FloatClass.ofFloat32 x)

/-- The half-precision value nearest a double, rounded once. -/
def halfOfFloat (x : Float) : Float32 := halfOfClass (FloatClass.ofFloat x)

/-! ## Element formats -/

/-- The element formats of a tensor. -/
inductive DType where
  | f16
  | f32
  deriving DecidableEq, Repr

namespace DType

/-- The name of a format, as reports and files write it. -/
def name : DType → String
  | .f16 => "F16"
  | .f32 => "F32"

/-- Bytes per element. -/
def byteSize : DType → Nat
  | .f16 => 2
  | .f32 => 4

/-- Rounds a single-precision result to the format. -/
def round : DType → Float32 → Float32
  | .f16 => roundToHalf
  | .f32 => id

/-- The value of the format nearest a double constant. -/
def ofFloat : DType → Float → Float32
  | .f16 => halfOfFloat
  | .f32 => Float.toFloat32

/-- A binary operation of the format: the single result, rounded to the format. -/
def lift₂ (d : DType) (f : Float32 → Float32 → Float32) (a b : Float32) : Float32 :=
  d.round (f a b)

/-- A unary operation of the format. -/
def lift (d : DType) (f : Float32 → Float32) (a : Float32) : Float32 := d.round (f a)

/-- The logistic-weighted input `v / (1 + e^(-v))`, each step rounded to the format. -/
def silu (d : DType) (v : Float32) : Float32 :=
  let e := d.round (Float32.exp (-v))
  d.round (v / d.round (1 + e))

/-- `v · mul + add`, with both constants first rounded to the format. -/
def affine (d : DType) (mul add : Float) (v : Float32) : Float32 :=
  d.round (d.round (v * d.ofFloat mul) + d.ofFloat add)

end DType

end LowRankTuner
