import LowRankTuner.Lora.Config
import LowRankTuner.Sampling.ChaCha
import LowRankTuner.Tensor.Basic
/-!
# Adapter matrices

A low-rank adapter on a projection `W : [out, in]` is a pair `A : [rank, in]`,
`B : [out, rank]`; it adds `((x Aᵀ) Bᵀ) · scaling` to the projection of `x`.  `B` starts at
zero, so a fresh adapter changes nothing, and `A` starts uniform on `[-b, b]` with
`b = 1 / √in` (Kaiming's bound for a gain of `√5`), drawn row by row from the generator.

`UniformSingle` draws singles over a closed interval: a word's top 23 bits make a value
`u ∈ [0, 1)`, and the draw is `u · scale + low`.  The scale is `(high - low) / (1 - 2⁻²³)`,
lowered one step at a time while the largest draw would pass `high`.
-/

namespace LowRankTuner

/-- Uniform draws of singles over a closed interval. -/
structure UniformSingle where
  low : Float32
  scale : Float32

namespace UniformSingle

/-- The largest unit value a draw can produce, `1 - 2⁻²³`. -/
def maxUnit : Float32 := Float32.ofBits 0x3FFFFFFF - 1

/-- Lowers the scale while the largest draw passes `high`; each step moves to the next
smaller single, and a handful of steps always suffice. -/
def fitScale (low high : Float32) : Nat → Float32 → Float32
  | 0, s => s
  | fuel + 1, s => if s * maxUnit + low > high then fitScale low high fuel (Float32.ofBits (s.toBits - 1)) else s

/-- The draws over `[low, high]`; bounds out of order or not finite are refused with the
generator's words. -/
def closed (low high : Float32) : Except Failure UniformSingle :=
  if !(low ≤ high) then .error (.aborted "Uniform::new_inclusive called with `low > high`")
  else if !(low.isFinite && high.isFinite) then
    .error (.aborted "Uniform::new_inclusive called with non-finite boundaries")
  else
    let s := (high - low) / maxUnit
    if !s.isFinite then .error (.aborted "Uniform::new_inclusive: range overflow")
    else .ok ⟨low, fitScale low high 64 s⟩

/-- One draw. -/
def sample (u : UniformSingle) (r : StdRng) : Float32 × StdRng :=
  let (w, r) := r.nextU32
  let unit := Float32.ofBits ((w >>> 9) ||| ((127 : UInt32) <<< 23)) - 1
  (unit * u.scale + u.low, r)

/-- `n` more draws in order, after those already made. -/
def samples (u : UniformSingle) : Nat → StdRng → Array Float32 → Array Float32 × StdRng
  | 0, r, acc => (acc, r)
  | n + 1, r, acc =>
    let (x, r) := u.sample r
    u.samples n r (acc.push x)

end UniformSingle

/-- The trainable matrices of one adapted projection, under its parameter-name prefix. -/
structure Adapter where
  /-- The name prefix of the adapted module, such as
  `base_model.model.model.layers.0.self_attn.q_proj`. -/
  prefixName : String
  /-- `[rank, in]`. -/
  a : Tensor
  /-- `[out, rank]`. -/
  b : Tensor
  scaling : Float
  dropout : Float32

namespace Adapter

/-- The parameter name of `A`. -/
def nameA (ad : Adapter) : String := ad.prefixName ++ ".lora_A.default.weight"

/-- The parameter name of `B`. -/
def nameB (ad : Adapter) : String := ad.prefixName ++ ".lora_B.default.weight"

/-- A fresh adapter for a projection from `inFeatures` to `outFeatures`, with `A` drawn
from the generator and `B` zero.  The number of draws is counted in 64 bits, and a count
whose singles would pass the largest allocation is refused as a capacity overflow. -/
def init (prefixName : String) (inFeatures outFeatures : Nat) (c : LoRAConfig) (dtype : DType)
    (r : StdRng) : Except Failure (Adapter × StdRng) := do
  let bound := 1 / Float32.sqrt (float32OfRatio false inFeatures 1)
  let u ← UniformSingle.closed (-bound) bound
  let count := c.rank * inFeatures % Nat.pow 2 64
  if count ≥ Nat.pow 2 61 then throw (.aborted "capacity overflow")
  let (xs, r) := u.samples count r #[]
  let a : Tensor := (⟨.f32, [c.rank, inFeatures], xs⟩ : Tensor).convert dtype
  pure (⟨prefixName, a, Tensor.zeros dtype [outFeatures, c.rank], c.scaling, c.dropout⟩, r)

end Adapter

end LowRankTuner
