import Mathlib
import LowRankTuner.Settings.TrainConfig
import LowRankTuner.Proofs.Accumulation
import LowRankTuner.Proofs.PaddedBatches
/-!
# The arithmetic of a training run is guarded

A training run divides by the batch size and the accumulation count to count its steps,
takes the step count modulo the logging and saving intervals and the micro-batch index
modulo the accumulation count, and cuts each sample order into pieces of the batch size.
Each of these needs a positive divisor, and validation supplies it: hyperparameters either
pass `TrainingArguments.validate`, and then every such count is positive, or they are refused
with an invalid-configuration failure, never with an arithmetic fault
(`trainer_arithmetic_is_guarded`).  The other divisors of a run (the warm-up length,
the micro-batches of a logging window and of the run) are raised to at least one where they
are used, and an epoch of a nonempty dataset has at least one micro-batch.

The micro-batches are pieces of a sample order, and the sampler only draws indices below
the number of its weights: `rank` counts running sums, of which there is one fewer than
weights.  A dataset has one weight per example, so every micro-batch is collated without
an index out of range.

What validation does not bound is the product of the steps per epoch and the epochs: the
planned total is taken modulo `2^64` and wraps, without a failure, once the product reaches
it (`totalSteps_wraps_for_valid_arguments`).
-/

namespace LowRankTuner

/-! ## Validation refuses, it does not abort -/

namespace TrainingArguments

/-- Validation either passes or names an invalid configuration. -/
theorem validate_ok_or_invalidConfig (a : TrainingArguments) :
    a.validate = .ok () ∨ ∃ msg, a.validate = .error (.invalidConfig msg) := by
  unfold validate
  split
  · exact .inr ⟨_, rfl⟩
  · split
    · exact .inr ⟨_, rfl⟩
    · split
      · exact .inr ⟨_, rfl⟩
      · exact .inl rfl

/-- A zero count is refused as an invalid configuration. -/
theorem validate_of_zero_count {a : TrainingArguments}
    (h : a.batchSize = 0 ∨ a.gradientAccumulationSteps = 0 ∨ a.loggingSteps = 0 ∨
      a.saveSteps = 0) :
    ∃ msg, a.validate = .error (.invalidConfig msg) := by
  refine (validate_ok_or_invalidConfig a).resolve_left fun hv => ?_
  obtain ⟨-, hb, hg, hl, hs, -⟩ := LoRATrainer.validate_counts_pos hv
  omega

/-- With a positive batch size and accumulation count, the counts of an epoch and of the
run are computed without a fault; the run's total is their product modulo `2^64`. -/
theorem counts_of_pos {a : TrainingArguments} (hb : 0 < a.batchSize)
    (hg : 0 < a.gradientAccumulationSteps) (n : Nat) :
    let B := (n + a.batchSize - 1) / a.batchSize
    let S := (B + a.gradientAccumulationSteps - 1) / a.gradientAccumulationSteps
    a.batchesPerEpoch n = .ok B ∧ a.stepsPerEpoch n = .ok S ∧
      a.totalSteps n = .ok (S * a.epochs % sizeModulus) := by
  intro B S
  have hB : a.batchesPerEpoch n = .ok B := LoRATrainer.divCeil_of_ne_zero (Nat.ne_of_gt hb)
  refine ⟨hB, ?_, LoRATrainer.totalSteps_of_ne_zero n (Nat.ne_of_gt hb) (Nat.ne_of_gt hg)⟩
  simp only [stepsPerEpoch, hB]
  exact LoRATrainer.divCeil_of_ne_zero (Nat.ne_of_gt hg)

end TrainingArguments

/-- Settings that pass validation have hyperparameters that pass it. -/
theorem TrainConfig.validate_training {c : TrainConfig} (h : c.validate = .ok ()) :
    c.training.validate = .ok () := by
  unfold TrainConfig.validate at h
  cases hl : c.lora.validate with
  | error e =>
    rw [hl] at h
    cases h
  | ok u =>
    rw [hl] at h
    exact h

namespace LoRATrainer

/-- A trainer is made exactly from hyperparameters that pass validation. -/
theorem new_eq_ok_iff {args : TrainingArguments} {dir : String} {t : LoRATrainer} :
    new args dir = .ok t ↔ args.validate = .ok () ∧ t = ⟨args, dir, none⟩ := by
  unfold new
  cases hv : args.validate with
  | error e =>
    constructor
    · intro h
      cases h
    · rintro ⟨h, -⟩
      cases h
  | ok u =>
    constructor
    · intro h
      cases h
      exact ⟨rfl, rfl⟩
    · rintro ⟨-, rfl⟩
      rfl

/-- Making a trainer fails exactly as validation does. -/
theorem new_eq_error_iff {args : TrainingArguments} {dir : String} {e : Failure} :
    new args dir = .error e ↔ args.validate = .error e := by
  unfold new
  cases hv : args.validate with
  | error e' =>
    show (Except.error e' : Except Failure LoRATrainer) = _ ↔ _
    simp only [Except.error.injEq]
  | ok u =>
    constructor
    · intro h
      cases h
    · intro h
      cases h

end LoRATrainer

/-! ## Drawn indices stay inside the dataset -/

namespace WeightedIndex

theorem length_sums : ∀ {ws : List Float} {t : Float} {cs : List Float} {total : Float},
    sums ws t = some (cs, total) → cs.length = ws.length
  | [], t, cs, total, h => by
    simp only [sums, Option.some.injEq, Prod.mk.injEq] at h
    rw [← h.1]
  | w :: ws, t, cs, total, h => by
    simp only [sums] at h
    split at h
    · obtain ⟨⟨cs', total'⟩, hrest, heq⟩ := Option.map_eq_some_iff.mp h
      simp only [Prod.mk.injEq] at heq
      rw [← heq.1, List.length_cons, List.length_cons, length_sums hrest]
    · cases h

theorem rank_le_size (cs : Array Float) (x : Float) : rank cs x ≤ cs.size := by
  unfold rank
  exact (List.length_filter_le _ _).trans (le_of_eq (Array.length_toList))

/-- A draw is the index of one of the weights: there is one running sum fewer than
weights, and a draw counts running sums. -/
theorem sample_lt {ws : List Float} {wi : WeightedIndex} (h : WeightedIndex.new ws = .ok wi)
    (r : StdRng) : (wi.sample r).1 < ws.length := by
  unfold WeightedIndex.new at h
  split at h
  · cases h
  · rename_i w rest
    split at h
    · cases h
    · split at h
      · cases h
      · rename_i cs total hsums
        split at h
        · cases h
        · cases h
          have hlen : cs.length = rest.length := length_sums hsums
          have hrank := rank_le_size cs.toArray ((r.nextUnit).1 * uniformScale total 64 total + 0.0)
          simp only [sample, List.length_cons, List.size_toArray, hlen] at hrank ⊢
          omega

end WeightedIndex

namespace WeightedSampler

/-- Every index of a sample order is the index of one of the sampler's weights. -/
theorem mem_sample_lt {ws : List Float} {n : Nat} {s : WeightedSampler}
    (h : WeightedSampler.new ws n = .ok s) (r : StdRng) :
    ∀ i ∈ (s.sample r).1, i < ws.length := by
  unfold WeightedSampler.new at h
  extract_lets m scaled total at h
  have hscaled : scaled.length = ws.length := by
    simp only [scaled]
    split <;> simp
  split at h
  · cases h
  · split at h
    · rename_i wi hwi
      cases h
      -- the order grows by one draw at a time, each below the number of weights
      have hstep : ∀ (l : List Nat) (acc : List Nat × StdRng), (∀ i ∈ acc.1, i < ws.length) →
          ∀ i ∈ (l.foldl (fun (acc : List Nat × StdRng) _ =>
            (acc.1 ++ [(wi.sample acc.2).1], (wi.sample acc.2).2)) acc).1, i < ws.length := by
        intro l
        induction l with
        | nil => exact fun acc hacc => hacc
        | cons x l ih =>
          intro acc hacc
          rw [List.foldl_cons]
          refine ih _ fun i hi => ?_
          rcases List.mem_append.mp hi with hi | hi
          · exact hacc i hi
          · rw [List.mem_singleton.mp hi, ← hscaled]
            exact WeightedIndex.sample_lt hwi acc.2
      exact hstep _ ([], r) fun i hi => absurd hi List.not_mem_nil
    · cases h

end WeightedSampler

/-- Every piece of a list cut into pieces holds elements of the list. -/
theorem mem_of_mem_chunks {α : Type} {n : Nat} {xs piece : List α} {x : α}
    (h : piece ∈ chunks n xs) (hx : x ∈ piece) : x ∈ xs := by
  simp only [chunks, List.mem_map, List.mem_range] at h
  obtain ⟨c, -, rfl⟩ := h
  exact List.mem_of_mem_drop (List.mem_of_mem_take hx)

/-- A dataset with one weight per example draws only indices of its examples, so every
micro-batch cut from a sample order is collated. -/
theorem WeightedDataset.collate_of_mem_chunks {d : WeightedDataset}
    (hw : d.weights.length = d.len) {s : WeightedSampler} (hs : d.sampler = .ok s)
    (r : StdRng) (b : Nat) {piece : List Nat} (hpiece : piece ∈ chunks b (s.sample r).1) :
    (∀ i ∈ piece, i < d.len) ∧ ∃ batch, d.collate piece = .ok batch := by
  have hin : ∀ i ∈ piece, i < d.len := fun i hi =>
    hw ▸ WeightedSampler.mem_sample_lt hs r i (mem_of_mem_chunks hpiece hi)
  exact ⟨hin, _, WeightedDataset.collate_eq_ok hin⟩

/-! ## The whole run -/

/-- **The arithmetic of a training run is guarded.**  Hyperparameters either make a trainer
or are refused as an invalid configuration, and a zero batch size, accumulation count,
logging or saving interval is always refused.  For a trainer that is made:
* the batch size, accumulation count and both intervals are positive, so every remainder the
  run takes and the cut of each sample order have positive divisors;
* for every dataset size `n` the micro-batches per epoch `B = ⌈n / batchSize⌉` and steps per
  epoch `S = ⌈B / gas⌉` are computed without a fault, with `B ≥ 1` when `n ≥ 1`; but the
  planned total is `S · epochs` modulo `2^64`, which no check keeps from wrapping;
* every micro-batch of every epoch, drawn from a dataset with one weight per example, holds
  indices of examples only and is collated.
Settings that pass validation, as handed to a run, have a planned total that is computed
without a fault, before the trainer is made. -/
theorem trainer_arithmetic_is_guarded (args : TrainingArguments) (dir : String) :
    ((∃ t, LoRATrainer.new args dir = .ok t) ∨
      ∃ msg, LoRATrainer.new args dir = .error (.invalidConfig msg)) ∧
    (args.batchSize = 0 ∨ args.gradientAccumulationSteps = 0 ∨ args.loggingSteps = 0 ∨
      args.saveSteps = 0 → ∃ msg, LoRATrainer.new args dir = .error (.invalidConfig msg)) ∧
    (∀ t, LoRATrainer.new args dir = .ok t →
      let b := t.args.batchSize
      let g := t.args.gradientAccumulationSteps
      0 < b ∧ 0 < g ∧ 0 < t.args.loggingSteps ∧ 0 < t.args.saveSteps ∧
      (∀ n, t.args.batchesPerEpoch n = .ok ((n + b - 1) / b) ∧
        t.args.stepsPerEpoch n = .ok (((n + b - 1) / b + g - 1) / g) ∧
        t.args.totalSteps n = .ok ((((n + b - 1) / b + g - 1) / g) * t.args.epochs % sizeModulus) ∧
        (0 < n → 0 < (n + b - 1) / b)) ∧
      (∀ dataset : WeightedDataset, dataset.weights.length = dataset.len →
        ∀ sampler, dataset.sampler = .ok sampler → ∀ rng, ∀ piece ∈ chunks b (sampler.sample rng).1,
          (∀ i ∈ piece, i < dataset.len) ∧ ∃ batch, dataset.collate piece = .ok batch)) ∧
    (∀ c : TrainConfig, c.validate = .ok () → ∀ n, ∃ total, c.training.totalSteps n = .ok total) := by
  refine ⟨?_, fun hzero => ?_, fun t ht => ?_, fun c hc n => ?_⟩
  · rcases TrainingArguments.validate_ok_or_invalidConfig args with hv | ⟨msg, hv⟩
    · exact .inl ⟨_, LoRATrainer.new_eq_ok_iff.mpr ⟨hv, rfl⟩⟩
    · exact .inr ⟨msg, LoRATrainer.new_eq_error_iff.mpr hv⟩
  · obtain ⟨msg, hv⟩ := TrainingArguments.validate_of_zero_count hzero
    exact ⟨msg, LoRATrainer.new_eq_error_iff.mpr hv⟩
  · obtain ⟨hv, rfl⟩ := LoRATrainer.new_eq_ok_iff.mp ht
    obtain ⟨-, hb, hg, hl, hs, -⟩ := LoRATrainer.validate_counts_pos hv
    refine ⟨hb, hg, hl, hs, fun n => ?_, fun dataset hw sampler hsampler rng piece hpiece =>
      WeightedDataset.collate_of_mem_chunks hw hsampler rng _ hpiece⟩
    obtain ⟨hB, hS, hT⟩ := TrainingArguments.counts_of_pos hb hg n
    exact ⟨hB, hS, hT, fun hn => Nat.div_pos (by omega) hb⟩
  · obtain ⟨-, hb, hg, -⟩ := LoRATrainer.validate_counts_pos (TrainConfig.validate_training hc)
    exact ⟨_, (TrainingArguments.counts_of_pos hb hg n).2.2⟩

/-- Validation accepts `2^64 - 1` epochs of batches of one, and with two examples the
planned total of `2 · (2^64 - 1)` steps wraps to `2^64 - 2`. -/
theorem totalSteps_wraps_for_valid_arguments :
    let a : TrainingArguments := { epochs := 2 ^ 64 - 1, batchSize := 1 }
    a.validate = .ok () ∧ a.stepsPerEpoch 2 = .ok 2 ∧ a.totalSteps 2 = .ok (2 ^ 64 - 2) ∧
      2 * a.epochs ≠ 2 ^ 64 - 2 :=
  ⟨rfl, rfl, rfl, by decide⟩

end LowRankTuner
