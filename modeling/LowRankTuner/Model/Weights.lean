import LowRankTuner.Model.Config
import LowRankTuner.Tensor.Basic
/-!
# Weight maps

A weight map is a set of named tensors, as a base model's weight files hold them, under
the names of the Qwen2/Llama layout (`model.layers.0.self_attn.q_proj.weight`, …).
Building a model takes each tensor it needs out of the map.

`WeightMap.pattern` is a weight map of fixed, easily recognised weights for a
configuration: tensors in the layout's order, the `k`-th of them filled by a periodic
pattern of its position `i` and of `k`, so that every tensor differs from the others and no
file is needed:

| tensor | element `i` of tensor `k` |
|---|---|
| matrix | `((7i + 5k) mod 23 - 11) / 32` |
| norm weight | `1 + ((i + k) mod 5 - 2) / 8` |
| bias | `((3i + k) mod 7 - 3) / 16` |
-/

namespace LowRankTuner

/-- Named tensors, each name at most once. -/
structure WeightMap where
  entries : List (String × Tensor) := []

namespace WeightMap

/-- The tensor of a name. -/
def find? (c : WeightMap) (name : String) : Option Tensor := c.entries.lookup name

/-- The map without a name. -/
def erase (c : WeightMap) (name : String) : WeightMap :=
  ⟨c.entries.filter fun e => e.1 != name⟩

/-- The map with a name given a tensor, replacing any tensor it had. -/
def insert (c : WeightMap) (name : String) (t : Tensor) : WeightMap :=
  if (c.find? name).isSome then ⟨c.entries.map fun e => if e.1 == name then (name, t) else e⟩
  else ⟨c.entries ++ [(name, t)]⟩

/-- The number of tensors. -/
def size (c : WeightMap) : Nat := c.entries.length

/-! ## The pattern map -/

/-- The kinds of tensor in a pattern map, by the pattern that fills them. -/
inductive Kind where
  | matrix
  | norm
  | bias
  deriving DecidableEq, Repr

/-- The single `n / d`. -/
def patternRatio (n : Int) (d : Nat) : Float32 := float32OfRatio (n < 0) n.natAbs d

/-- Element `i` of the `k`-th tensor of a kind, as an exact quotient. -/
def Kind.element : Kind → Nat → Nat → Float32
  | .matrix, i, k => patternRatio (((i * 7 + k * 5) % 23 : Int) - 11) 32
  | .norm, i, k => patternRatio (8 + (((i + k) % 5 : Int) - 2)) 8
  | .bias, i, k => patternRatio (((i * 3 + k) % 7 : Int) - 3) 16

/-- The names, shapes and kinds of the tensors of a configuration, in the layout's order. -/
def layout (c : ModelConfig) (qkvBias : Bool) : List (String × Shape × Kind) :=
  let h := c.hiddenSize
  let hd := c.headSize
  let q := c.numAttentionHeads * hd
  let kv := c.numKvHeads * hd
  let inter := c.intermediateSize
  let projection := fun (p : String) (rows cols : Nat) (biased : Bool) =>
    [(p ++ ".weight", [rows, cols], Kind.matrix)] ++
      (if biased then [(p ++ ".bias", [rows], Kind.bias)] else [])
  let layer := fun (l : Nat) =>
    let p := "model.layers." ++ toString l
    [(p ++ ".input_layernorm.weight", [h], Kind.norm)] ++
    projection (p ++ ".self_attn.q_proj") q h qkvBias ++
    projection (p ++ ".self_attn.k_proj") kv h qkvBias ++
    projection (p ++ ".self_attn.v_proj") kv h qkvBias ++
    projection (p ++ ".self_attn.o_proj") h q false ++
    [(p ++ ".post_attention_layernorm.weight", [h], Kind.norm)] ++
    projection (p ++ ".mlp.gate_proj") inter h false ++
    projection (p ++ ".mlp.up_proj") inter h false ++
    projection (p ++ ".mlp.down_proj") h inter false
  [("model.embed_tokens.weight", [c.vocabSize, h], Kind.matrix)] ++
    (List.range c.numHiddenLayers).flatMap layer ++
    [("model.norm.weight", [h], Kind.norm)] ++
    (if c.tieWordEmbeddings then [] else [("lm_head.weight", [c.vocabSize, h], Kind.matrix)])

/-- The pattern map of a configuration, optionally with biases on the query, key
and value projections. -/
def pattern (c : ModelConfig) (qkvBias : Bool) : WeightMap :=
  ⟨(layout c qkvBias).zipIdx.map fun ((name, shape, kind), k) =>
    (name, Tensor.generate .f32 shape fun i => kind.element i k)⟩

end WeightMap

end LowRankTuner
