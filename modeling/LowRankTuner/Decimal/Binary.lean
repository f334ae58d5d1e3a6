/-
  LowRankTuner/Decimal/Binary.lean
  ================================
  IEEE binary interchange formats read as exact numbers.

  A word of a format decodes to NaN, a signed infinity, or a finite value
  `(-1)^neg · m · 2^q` with natural `m` and integer `q` (`FloatFormat.decode`);
  `FloatFormat.encode` packs a finite value back.  `FloatFormat.nearest` rounds a
  non-negative quotient of naturals to the nearest word, a tie going to the even
  significand and a value past the largest finite one going to infinity: it is the
  one rounding rule by which every decimal text of this library is read.

  Everything here is `Nat`/`Int` arithmetic, so the statements about float text
  elsewhere in the library are statements about these numbers.
-/

namespace LowRankTuner

/-! ## 1. Formats -/

/-- An IEEE binary format, given by the widths of its fraction and exponent fields. -/
structure FloatFormat where
  fracBits : Nat
  expBits : Nat
  deriving DecidableEq, Repr

namespace FloatFormat

/-- The 64-bit format (`binary64`). -/
def double : FloatFormat := ⟨52, 11⟩

/-- The 32-bit format (`binary32`). -/
def single : FloatFormat := ⟨23, 8⟩

/-- The exponent bias of the format. -/
def bias (f : FloatFormat) : Nat := Nat.pow 2 (f.expBits - 1) - 1

/-- The binary exponent of the subnormals: they are `m · 2^minExp` with `m < 2^fracBits`. -/
def minExp (f : FloatFormat) : Int := 1 - (f.bias : Int) - f.fracBits

/-- The all-ones exponent field, which marks infinities and NaNs. -/
def topField (f : FloatFormat) : Nat := Nat.pow 2 f.expBits - 1

/-- The least significand of a normal value. -/
def hidden (f : FloatFormat) : Nat := Nat.pow 2 f.fracBits

/-- The binary exponent of the largest finite values. -/
def maxExp (f : FloatFormat) : Int := f.minExp + f.topField - 2

end FloatFormat

/-! ## 2. Decoding and encoding -/

/-- What a word of a format denotes. -/
inductive FloatClass where
  | nan
  | infinite (neg : Bool)
  | finite (neg : Bool) (m : Nat) (q : Int)
  deriving DecidableEq, Repr

namespace FloatFormat

/-- The sign bit, exponent field and fraction field of a word. -/
def decode (f : FloatFormat) (w : Nat) : FloatClass :=
  let frac := w % Nat.pow 2 f.fracBits
  let field := (w / Nat.pow 2 f.fracBits) % Nat.pow 2 f.expBits
  let neg := (w / Nat.pow 2 (f.fracBits + f.expBits)) % 2 == 1
  if field == f.topField then
    if frac == 0 then .infinite neg else .nan
  else if field == 0 then .finite neg frac f.minExp
  else .finite neg (frac + f.hidden) (f.minExp + field - 1)

/-- The word with only the sign bit set or clear and the all-ones exponent. -/
def infinityWord (f : FloatFormat) (neg : Bool) : Nat :=
  (if neg then Nat.pow 2 (f.fracBits + f.expBits) else 0) + f.topField * Nat.pow 2 f.fracBits

/-- Packs a finite value whose significand is normalised: `m < 2^(fracBits+1)`, and
`m ≥ 2^fracBits` unless `q` is the subnormal exponent. -/
def encode (f : FloatFormat) (neg : Bool) (m : Nat) (q : Int) : Nat :=
  let sign := if neg then Nat.pow 2 (f.fracBits + f.expBits) else 0
  if m < f.hidden then sign + m
  else sign + (q - f.minExp + 1).toNat * Nat.pow 2 f.fracBits + (m - f.hidden)

/-- The lower neighbour of `m · 2^q` is half as far away as the upper one: `m` is the least
normal significand above the least exponent. -/
def lowerGapHalved (f : FloatFormat) (m : Nat) (q : Int) : Bool :=
  m == f.hidden && decide (f.minExp < q)

end FloatFormat

/-! ## 3. Rounding a quotient -/

/-- The natural nearest to `a / b`, a tie going to the even one. -/
def roundHalfEven (a b : Nat) : Nat :=
  let d := a / b
  let r := a % b
  if 2 * r > b || (2 * r == b && d % 2 == 1) then d + 1 else d

/-- `num · 2^e` as a pair of naturals, numerator over denominator. -/
def scaleTwo (num den : Nat) (e : Int) : Nat × Nat :=
  if 0 ≤ e then (num * Nat.pow 2 e.toNat, den) else (num, den * Nat.pow 2 (-e).toNat)

/-- `⌊log₂ (num / den)⌋` for positive `num` and `den`. -/
def floorLog2 (num den : Nat) : Int :=
  let l : Int := (num.log2 : Int) - den.log2
  let (a, b) := scaleTwo den 1 l
  -- `2^l · den ≤ num` decides whether the estimate from bit lengths is one too high
  if a ≤ num * b then l else l - 1

namespace FloatFormat

/-- The word nearest to the non-negative rational `num / den` (`den > 0`), a tie going to the
even significand; values beyond the largest finite word round to infinity. -/
def nearest (f : FloatFormat) (neg : Bool) (num den : Nat) : Nat :=
  if num == 0 then (if neg then Nat.pow 2 (f.fracBits + f.expBits) else 0)
  else
    let q0 := max (floorLog2 num den - f.fracBits) f.minExp
    let (a, b) := scaleTwo num den (-q0)
    let m0 := roundHalfEven a b
    let (m, q) := if m0 == 2 * f.hidden then (f.hidden, q0 + 1) else (m0, q0)
    if q > f.maxExp then f.infinityWord neg else f.encode neg m q

end FloatFormat

/-- The 64-bit float of a word. -/
def floatOfWord (w : Nat) : Float := Float.ofBits (UInt64.ofNat w)

/-- The 32-bit float of a word. -/
def float32OfWord (w : Nat) : Float32 := Float32.ofBits (UInt32.ofNat w)

/-- The nearest 64-bit float to `num / den`, negated when `neg`. -/
def floatOfRatio (neg : Bool) (num den : Nat) : Float :=
  floatOfWord (FloatFormat.double.nearest neg num den)

/-- The nearest 32-bit float to `num / den`, negated when `neg`. -/
def float32OfRatio (neg : Bool) (num den : Nat) : Float32 :=
  float32OfWord (FloatFormat.single.nearest neg num den)

/-- The value class of a 64-bit float. -/
def FloatClass.ofFloat (x : Float) : FloatClass := FloatFormat.double.decode x.toBits.toNat

/-- The value class of a 32-bit float. -/
def FloatClass.ofFloat32 (x : Float32) : FloatClass := FloatFormat.single.decode x.toBits.toNat

end LowRankTuner
