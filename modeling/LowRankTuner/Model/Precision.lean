import LowRankTuner.Tensor.Element
/-!
# Precision

A model runs its frozen base weights and activations in one element format and keeps its
adapters, the attention softmax and the loss in single precision.  Mixed precision, with
a half-precision base, is for accelerators: on the processor every mode runs in single
precision.
-/

namespace LowRankTuner

/-- How a model spends precision. -/
inductive PrecisionMode where
  /-- Half-precision base with single-precision adapters and loss. -/
  | mixedHalf
  /-- Single precision everywhere. -/
  | fullSingle
  deriving DecidableEq, Repr

/-- The element formats of the parts of a model. -/
structure PrecisionConfig where
  mode : PrecisionMode
  /-- Base weights and activations. -/
  base : DType
  /-- Adapter weights, never below single precision. -/
  adapter : DType
  /-- Attention softmax and loss. -/
  compute : DType
  deriving DecidableEq, Repr

namespace PrecisionConfig

/-- The formats of a mode. -/
def ofMode : PrecisionMode → PrecisionConfig
  | .mixedHalf => ⟨.mixedHalf, .f16, .f32, .f32⟩
  | .fullSingle => ⟨.fullSingle, .f32, .f32, .f32⟩

/-- The formats on the processor: single precision whether or not mixed precision is asked
for. -/
def forProcessor (_mixed : Bool) : PrecisionConfig := ofMode .fullSingle

/-- Whether the base runs in half precision. -/
def isMixed (p : PrecisionConfig) : Bool := p.mode == .mixedHalf

/-- The report of the formats, as `base=F32 adapter=F32 compute=F32`. -/
def text (p : PrecisionConfig) : String :=
  "base=" ++ p.base.name ++ " adapter=" ++ p.adapter.name ++ " compute=" ++ p.compute.name

end PrecisionConfig

end LowRankTuner
