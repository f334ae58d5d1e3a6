import Mathlib
import LowRankTuner.Model.CausalLM
/-!
# Which models abort while they are built

`ModelConfig.validate` refuses a configuration without a layer or a head, one whose heads do
not group over its key/value heads, an odd head size and an activation other than SiLU, each
as an invalid configuration.  The grouping check takes the number of heads modulo the number
of key/value heads before anything checks that this number is positive, so zero key/value
heads, with a head and a layer present, abort the check with a remainder by zero
(`ModelConfig.validate_aborts_iff`); nothing else aborts it.  A model is built only from a
configuration that passes, so every build from such a configuration aborts the same way
(`CausalLM.build_aborts_of_zero_kvHeads`).

An adapter's `A` is drawn uniformly from `[-b, b]` with `b = 1/√in`.  For a projection with no
input features `b` is infinite, and the uniform distribution refuses its bounds by aborting
(`Adapter.init_of_zero_inFeatures`); a hidden size of zero passes validation, since a head size
of zero is even, and leads there.
-/

namespace LowRankTuner

namespace ModelConfig

/-- Validation passes, refuses the configuration as invalid, or aborts; it aborts only on
zero key/value heads after the head and layer checks pass. -/
theorem validate_cases (c : ModelConfig) :
    c.validate = .ok () ∨ (∃ msg, c.validate = .error (.invalidConfig msg)) ∨
      (c.numAttentionHeads ≠ 0 ∧ c.numHiddenLayers ≠ 0 ∧ c.numKvHeads = 0 ∧
        c.validate = .error (.aborted remainderByZero)) := by
  unfold validate
  split
  · exact .inr (.inl ⟨_, rfl⟩)
  · rename_i hpresent
    simp only [Bool.or_eq_true, beq_iff_eq, not_or] at hpresent
    split
    · rename_i hkv
      exact .inr (.inr ⟨hpresent.1, hpresent.2, by simpa using hkv, rfl⟩)
    · -- the remaining checks only refuse
      split
      · exact .inr (.inl ⟨_, rfl⟩)
      · split
        · exact .inr (.inl ⟨_, rfl⟩)
        · split
          · exact .inr (.inl ⟨_, rfl⟩)
          · exact .inl rfl

/-- With a head and a layer, zero key/value heads reach the grouping check, which takes a
remainder by zero. -/
theorem validate_of_zero_kvHeads {c : ModelConfig} (hh : c.numAttentionHeads ≠ 0)
    (hl : c.numHiddenLayers ≠ 0) (hkv : c.numKvHeads = 0) :
    c.validate = .error (.aborted remainderByZero) := by
  unfold validate
  rw [if_neg (by simp [hh, hl]), if_pos (by simp [hkv])]

/-- **Validation aborts exactly on zero key/value heads**, once a head and a layer are
present, and then with a remainder by zero. -/
theorem validate_aborts_iff (c : ModelConfig) (m : String) :
    c.validate = .error (.aborted m) ↔
      c.numAttentionHeads ≠ 0 ∧ c.numHiddenLayers ≠ 0 ∧ c.numKvHeads = 0 ∧
        m = remainderByZero := by
  constructor
  · intro h
    rcases validate_cases c with hv | ⟨msg, hv⟩ | ⟨hh, hl, hkv, hv⟩
    · rw [hv] at h
      cases h
    · rw [hv] at h
      cases h
    · rw [hv] at h
      cases h
      exact ⟨hh, hl, hkv, rfl⟩
  · rintro ⟨hh, hl, hkv, rfl⟩
    exact validate_of_zero_kvHeads hh hl hkv

/-- With at least one head, the count of key/value heads is zero exactly when the
configuration sets it to zero; an absent count means one per head. -/
theorem numKvHeads_eq_zero_iff (c : ModelConfig) (hh : c.numAttentionHeads ≠ 0) :
    c.numKvHeads = 0 ↔ c.numKeyValueHeads = some 0 := by
  unfold numKvHeads
  cases c.numKeyValueHeads with
  | none => simpa using hh
  | some k => simp

end ModelConfig

namespace CausalLM

/-- A build fails as soon as the configuration fails validation. -/
theorem build_of_validate_error {c : ModelConfig} {e : Failure} (h : c.validate = .error e)
    (weights : WeightMap) (lora : LoRAConfig) (p : PrecisionConfig) (seed : UInt64) :
    build c weights lora p seed = .error e := by
  simp only [build, assemble, h]
  rfl

/-- **A model with zero key/value heads aborts while it is built**, whatever its weights,
adapters, precision and seed, instead of being refused as an invalid configuration. -/
theorem build_aborts_of_zero_kvHeads {c : ModelConfig} (hh : c.numAttentionHeads ≠ 0)
    (hl : c.numHiddenLayers ≠ 0) (hkv : c.numKeyValueHeads = some 0)
    (weights : WeightMap) (lora : LoRAConfig) (p : PrecisionConfig) (seed : UInt64) :
    build c weights lora p seed = .error (.aborted remainderByZero) :=
  build_of_validate_error (ModelConfig.validate_of_zero_kvHeads hh hl
    ((ModelConfig.numKvHeads_eq_zero_iff c hh).mpr hkv)) weights lora p seed

end CausalLM

/-- An adapter for a projection with no input features aborts: its bound `1/√0` is
infinite, and a uniform distribution over infinite bounds is refused. -/
theorem Adapter.init_of_zero_inFeatures (prefixName : String) (outFeatures : Nat)
    (c : LoRAConfig) (dtype : DType) (r : StdRng) :
    Adapter.init prefixName 0 outFeatures c dtype r =
      .error (.aborted "Uniform::new_inclusive called with non-finite boundaries") := by
  unfold Adapter.init
  rfl

end LowRankTuner
