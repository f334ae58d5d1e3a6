/-
  LowRankTuner/Lora/Config.lean
  =============================
  The description of a low-rank adapter: its rank, the scale numerator `alpha`, the dropout
  on its input while training, and the projections it adapts.

  The adapter adds `(alpha / rank) · B A x` to a frozen projection, so `scaling` is
  `alpha / rank`.  A usable adapter has a positive rank, a positive finite `alpha`, a
  dropout in [0, 1) and at least one target.  The adapter's metadata document, written
  next to its weights, names the base model and repeats these settings.
-/
import LowRankTuner.Json.Value
import LowRankTuner.Decimal.Binary
import LowRankTuner.Decimal.Layout
import LowRankTuner.Failure

namespace LowRankTuner

/-- The projections adapted by default: the four attention projections. -/
def defaultTargetModules : List String := ["q_proj", "v_proj", "k_proj", "o_proj"]

/-- Which bias terms are trained with the adapter: none. -/
inductive LoraBias where
  | none
  deriving DecidableEq, Repr

/-- The name of a bias setting in documents. -/
def LoraBias.name : LoraBias → String
  | .none => "none"

/-- The adapter dropout when none is configured: `0.05` as a 32-bit float. -/
def defaultLoraDropout : Float32 := float32OfRatio false 1 20

/-- The description of a low-rank adapter. -/
structure LoRAConfig where
  rank : Nat := 16
  alpha : Float := 32.0
  dropout : Float32 := defaultLoraDropout
  targetModules : List String := defaultTargetModules
  bias : LoraBias := .none

namespace LoRAConfig

/-- The factor of the adapter's output. -/
def scaling (c : LoRAConfig) : Float := c.alpha / floatOfRatio false c.rank 1

/-- Whether the projection called `module` gets an adapter. -/
def targets (c : LoRAConfig) (module : String) : Bool := c.targetModules.contains module

/-- Checks the settings. -/
def validate (c : LoRAConfig) : Except Failure Unit :=
  if c.rank == 0 then .error (.invalidConfig "LoRA rank must be positive")
  else if !(!c.alpha.isNaN && !c.alpha.isInf && c.alpha > 0.0) then
    .error (.invalidConfig ("LoRA alpha must be positive, got " ++ Decimal.Layout.plain.text64 c.alpha))
  else if !(0.0 ≤ c.dropout && c.dropout < 1.0) then
    .error (.invalidConfig ("LoRA dropout must be in [0, 1), got " ++ Decimal.Layout.plain.text32 c.dropout))
  else if c.targetModules.isEmpty then .error (.invalidConfig "LoRA needs at least one target module")
  else .ok ()

end LoRAConfig

/-- The adapter metadata document. -/
structure PeftAdapterConfig where
  peftType : String
  taskType : String
  baseModelNameOrPath : String
  r : Nat
  loraAlpha : Float
  loraDropout : Float32
  targetModules : List String
  bias : LoraBias
  inferenceMode : Bool

/-- The metadata document of an adapter on a base model. -/
def LoRAConfig.toPeftConfig (c : LoRAConfig) (baseModel : String) : PeftAdapterConfig :=
  { peftType := "LORA", taskType := "CAUSAL_LM", baseModelNameOrPath := baseModel, r := c.rank,
    loraAlpha := c.alpha, loraDropout := c.dropout, targetModules := c.targetModules,
    bias := c.bias, inferenceMode := false }

/-- The metadata document as JSON, fields in record order. -/
def PeftAdapterConfig.toJson (p : PeftAdapterConfig) : Json :=
  .obj [("peft_type", .str p.peftType), ("task_type", .str p.taskType),
    ("base_model_name_or_path", .str p.baseModelNameOrPath), ("r", Json.ofNat p.r),
    ("lora_alpha", Json.ofFloat p.loraAlpha), ("lora_dropout", Json.ofFloat32 p.loraDropout),
    ("target_modules", .arr (p.targetModules.map Json.str)), ("bias", .str p.bias.name),
    ("inference_mode", .bool p.inferenceMode)]

end LowRankTuner
