import LowRankTuner.Lora.Adapter
import LowRankTuner.Model.Weights
import LowRankTuner.Model.Precision
import LowRankTuner.Text.Quote
/-!
# Decoder-only language models with adapters

A model is a stack of decoder layers over a token embedding: each layer normalises its
input, attends over the sequence with rotary positions and grouped key/value heads, adds
the result back, then normalises again and runs a gated MLP whose output is added back
too.  A final norm and a projection onto the vocabulary, by default the embedding itself,
give the logits.

The base weights are frozen.  The projections named by the adapter configuration carry a
trainable `Adapter`; those are the only parameters that change in training.  Parameters
are named as the wrapped model of an adapter library names them: every name starts with
`base_model.model.`, and an adapted projection's own weight moves under `base_layer`.

`CausalLM.build` takes the tensors out of a weight map in the layout's order, drawing each
adapter's `A` from one generator as it goes, and refuses a map that lacks a tensor,
a projection that is not a matrix, and a configuration whose targets name no projection.
-/

namespace LowRankTuner

/-- A frozen linear map `x Wᵀ + b`, optionally with an adapter. -/
structure Projection where
  /-- `[out, in]`. -/
  weight : Tensor
  bias : Option Tensor
  adapter : Option Adapter

/-- Root-mean-square normalisation with a learned scale. -/
structure RmsNorm where
  weight : Tensor
  eps : Float

/-- Multi-head self-attention with grouped key/value heads. -/
structure Attention where
  q : Projection
  k : Projection
  v : Projection
  o : Projection
  heads : Nat
  kvHeads : Nat
  headDim : Nat

/-- The gated MLP `down(silu(gate x) · up x)`. -/
structure Mlp where
  gate : Projection
  up : Projection
  down : Projection

/-- One decoder layer. -/
structure DecoderLayer where
  inputNorm : RmsNorm
  attention : Attention
  postNorm : RmsNorm
  mlp : Mlp

/-- A decoder-only language model with adapters. -/
structure CausalLM where
  config : ModelConfig
  lora : LoRAConfig
  precision : PrecisionConfig
  embedTokens : Tensor
  layers : List DecoderLayer
  norm : RmsNorm
  /-- `none` when the output projection is the embedding. -/
  lmHead : Option Tensor
  /-- The rotary frequencies `θ^(-2i/d)` for `i < d/2`. -/
  invFreq : List Float32

/-- The prefix of every parameter name. -/
def parameterPrefix : String := "base_model.model"

/-- The rotary frequencies of a head size and base. -/
def rotaryFrequencies (headDim : Nat) (theta : Float) : List Float32 :=
  (List.range (headDim / 2)).map fun i =>
    (1.0 / Float.pow theta (2.0 * i.toFloat / headDim.toFloat)).toFloat32

/-! ## Building from a weight map -/

/-- What building a model consumes: the tensors not yet taken and the generator of
adapter initialisations. -/
structure Loader where
  remaining : WeightMap
  rng : StdRng

/-- Building steps that may refuse the weight map. -/
abbrev LoadM := StateT Loader (Except Failure)

namespace Loader

/-- Takes a tensor out of the weight map, in the base format, if it is there. -/
def takeOptional (p : PrecisionConfig) (name : String) : LoadM (Option Tensor) := do
  let l ← get
  match l.remaining.find? name with
  | none => pure none
  | some t =>
    set { l with remaining := l.remaining.erase name }
    pure (some (t.convert p.base))

/-- Takes a tensor out of the weight map, refusing a map without it. -/
def take (p : PrecisionConfig) (name : String) : LoadM Tensor := do
  match ← takeOptional p name with
  | some t => pure t
  | none => throw (.invalidConfig ("base model checkpoint is missing tensor " ++ name))

/-- A norm at a path. -/
def norm (p : PrecisionConfig) (path : String) (eps : Float) : LoadM RmsNorm := do
  pure ⟨← take p (path ++ ".weight"), eps⟩

/-- The last dot-separated part of a path: the characters after its last dot. -/
def moduleName (path : String) : String :=
  String.ofList (path.toList.reverse.takeWhile (· != '.')).reverse

/-- A projection at a path, with an adapter when its module is a target. -/
def projection (p : PrecisionConfig) (lora : LoRAConfig) (path : String) : LoadM Projection := do
  let weight ← take p (path ++ ".weight")
  let bias ← takeOptional p (path ++ ".bias")
  let adapter ← if lora.targets (moduleName path) then do
      if weight.rank != 2 then
        throw (.tensor (ShapeFault.rank 2 weight.rank weight.shape).message)
      let l ← get
      match Adapter.init (parameterPrefix ++ "." ++ path) (weight.dim 1) (weight.dim 0) lora
          p.adapter l.rng with
      | .error e => throw e
      | .ok (ad, rng) =>
        set { l with rng }
        pure (some ad)
    else pure none
  if weight.rank != 2 then
    throw (.invalidConfig ("linear weight must be 2D, got shape " ++ weight.shape.text))
  pure ⟨weight, bias, adapter⟩

/-- Decoder layer `i`. -/
def layer (c : ModelConfig) (p : PrecisionConfig) (lora : LoRAConfig) (i : Nat) :
    LoadM DecoderLayer := do
  let path := "model.layers." ++ toString i
  let inputNorm ← norm p (path ++ ".input_layernorm") c.rmsNormEps
  let q ← projection p lora (path ++ ".self_attn.q_proj")
  let k ← projection p lora (path ++ ".self_attn.k_proj")
  let v ← projection p lora (path ++ ".self_attn.v_proj")
  let o ← projection p lora (path ++ ".self_attn.o_proj")
  let postNorm ← norm p (path ++ ".post_attention_layernorm") c.rmsNormEps
  let gate ← projection p lora (path ++ ".mlp.gate_proj")
  let up ← projection p lora (path ++ ".mlp.up_proj")
  let down ← projection p lora (path ++ ".mlp.down_proj")
  pure ⟨inputNorm, ⟨q, k, v, o, c.numAttentionHeads, c.numKvHeads, c.headSize⟩, postNorm,
    ⟨gate, up, down⟩⟩

end Loader

namespace DecoderLayer

/-- The projections of a layer with their module paths, in the layout's order. -/
def projections (l : DecoderLayer) : List (String × Projection) :=
  [("self_attn.q_proj", l.attention.q), ("self_attn.k_proj", l.attention.k),
   ("self_attn.v_proj", l.attention.v), ("self_attn.o_proj", l.attention.o),
   ("mlp.gate_proj", l.mlp.gate), ("mlp.up_proj", l.mlp.up), ("mlp.down_proj", l.mlp.down)]

/-- The layer with every projection changed by `f`. -/
def mapProjections (l : DecoderLayer) (f : Projection → Projection) : DecoderLayer :=
  { l with
    attention := { l.attention with
      q := f l.attention.q, k := f l.attention.k, v := f l.attention.v, o := f l.attention.o }
    mlp := ⟨f l.mlp.gate, f l.mlp.up, f l.mlp.down⟩ }

end DecoderLayer

namespace CausalLM

/-- Builds a model from a weight map: the configurations are validated, then the tensors
are taken in the layout's order, adapters drawn from `StdRng.seedFromU64 seed`.  The
result has the number of tensors of the map left untaken. -/
def assemble (c : ModelConfig) (weights : WeightMap) (lora : LoRAConfig) (p : PrecisionConfig)
    (seed : UInt64) : Except Failure (CausalLM × Nat) := do
  c.validate
  lora.validate
  let load : LoadM CausalLM := do
    let embed ← Loader.take p "model.embed_tokens.weight"
    let layers ← (List.range c.numHiddenLayers).mapM (Loader.layer c p lora)
    let norm ← Loader.norm p "model.norm" c.rmsNormEps
    let lmHead ← if c.tieWordEmbeddings then pure none else some <$> Loader.take p "lm_head.weight"
    pure ⟨c, lora, p, embed, layers, norm, lmHead, rotaryFrequencies c.headSize c.ropeTheta⟩
  let (m, rest) ← load.run ⟨weights, StdRng.seedFromU64 seed⟩
  pure (m, rest.remaining.size)

/-- The model itself, refused when no target module of its adapters exists in it. -/
def checkAdapters (m : CausalLM) : Except Failure CausalLM :=
  if (m.layers.flatMap fun l => l.projections.filterMap (·.2.adapter)).isEmpty then
    throw (.invalidConfig ("none of the LoRA target modules " ++ debugList m.lora.targetModules ++
      " exist in the model"))
  else pure m
where
  /-- A list of names as a bracketed list of quoted strings. -/
  debugList (names : List String) : String :=
    "[" ++ ", ".intercalate (names.map Text.quoted) ++ "]"

/-- Builds a model with adapters from a weight map, the adapters drawn from the seed. -/
def build (c : ModelConfig) (weights : WeightMap) (lora : LoRAConfig) (p : PrecisionConfig)
    (seed : UInt64) : Except Failure CausalLM := do
  let (m, _) ← assemble c weights lora p seed
  checkAdapters m

/-- The adapters of a model, in the layout's order. -/
def adapters (m : CausalLM) : List Adapter :=
  m.layers.flatMap fun l => l.projections.filterMap (·.2.adapter)

/-- The model with every adapter changed by `f`. -/
def mapAdapters (m : CausalLM) (f : Adapter → Adapter) : CausalLM :=
  { m with layers := m.layers.map fun l => l.mapProjections fun pr => { pr with adapter := pr.adapter.map f } }

/-- The trainable parameters by name: `A` and `B` of every adapter. -/
def trainableParameters (m : CausalLM) : List (String × Tensor) :=
  m.adapters.flatMap fun ad => [(ad.nameA, ad.a), (ad.nameB, ad.b)]

/-- Every parameter by name, sorted by name. -/
def namedParameters (m : CausalLM) : List (String × Tensor) :=
  let name := fun (stem : String) => parameterPrefix ++ "." ++ stem
  let layerParams := fun (il : Nat × DecoderLayer) =>
    let (i, l) := il
    let path := "model.layers." ++ toString i
    [(name (path ++ ".input_layernorm.weight"), l.inputNorm.weight),
     (name (path ++ ".post_attention_layernorm.weight"), l.postNorm.weight)] ++
    l.projections.flatMap fun (module, pr) =>
      let stem := path ++ "." ++ module ++ (if pr.adapter.isSome then ".base_layer" else "")
      [(name (stem ++ ".weight"), pr.weight)] ++
        (match pr.bias with | some b => [(name (stem ++ ".bias"), b)] | none => [])
  let base := [(name "model.embed_tokens.weight", m.embedTokens)] ++
    (m.layers.zipIdx.map fun (l, i) => (i, l)).flatMap layerParams ++
    [(name "model.norm.weight", m.norm.weight)] ++
    (match m.lmHead with | some t => [(name "lm_head.weight", t)] | none => [])
  (base ++ m.trainableParameters).mergeSort fun a b => decide (a.1 ≤ b.1)

/-- The number of trainable parameters and of all parameters. -/
def parameterCounts (m : CausalLM) : Nat × Nat :=
  ((m.trainableParameters.map (·.2.numel)).foldr (· + ·) 0,
    (m.namedParameters.map (·.2.numel)).foldr (· + ·) 0)

end CausalLM

end LowRankTuner
