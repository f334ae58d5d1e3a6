import Mathlib
import LowRankTuner.Proofs.Accumulation
/-!
# The cadence of optimiser steps

A run cuts every epoch into `B` micro-batches and takes an optimiser step after every
`g`-th micro-batch of an epoch and after its last one, so `S = ⌈B / g⌉` steps an epoch.
Counting the micro-batches of the whole run `0, 1, 2, …` and its steps `1, 2, …`, this
module gives the two clocks in closed form: the steps that the first `k` micro-batches
complete (`Cadence.stepsAfter`) and the micro-batches that the first `j` steps consume
(`Cadence.consumed`).  Each micro-batch moves the first clock by one exactly when it closes a
step (`Cadence.stepsAfter_succ`), and the micro-batch that closes step `j + 1` is the last of
the `consumed (j + 1)` micro-batches (`Cadence.consumed_closing`).

The fractional epoch at which a step is taken is read off the micro-batch that closes it:
its epoch plus its position in the epoch over `B` (`Cadence.epochAt`), in any number type.
Read exactly, it is `consumed j / B`, so it increases strictly from step to step and is the
number of epochs at the last step.
-/

namespace LowRankTuner

/-- The shape of a run's epochs: micro-batches per epoch and micro-batches per optimiser step,
both positive. -/
structure Cadence where
  batches : Nat
  accum : Nat
  batches_pos : 0 < batches
  accum_pos : 0 < accum

namespace Cadence

variable (c : Cadence)

/-- Optimiser steps per epoch. -/
def perEpoch : Nat := (c.batches + c.accum - 1) / c.accum

/-- The steps that the first `k` micro-batches of a run complete. -/
def stepsAfter (k : Nat) : Nat := k / c.batches * c.perEpoch + k % c.batches / c.accum

/-- The micro-batches that the first `j` steps of a run consume. -/
def consumed (j : Nat) : Nat := j / c.perEpoch * c.batches + j % c.perEpoch * c.accum

/-- Whether micro-batch `k` of a run closes a step. -/
def closes (k : Nat) : Bool := LoRATrainer.endsStep c.accum c.batches (k % c.batches)

/-- The fractional epoch of step `j`, with sizes read by `ofSize`: the epoch of the
micro-batch that closes the step, plus that micro-batch's position in its epoch over the
epoch's length. -/
def epochAt {α : Type} [Add α] [Div α] (ofSize : Nat → α) (j : Nat) : α :=
  let m := c.consumed j - 1
  ofSize (m / c.batches) + ofSize (m % c.batches + 1) / ofSize c.batches

variable {c}

/-! ## Steps per epoch -/

theorem perEpoch_eq : c.perEpoch = (c.batches - 1) / c.accum + 1 := by
  unfold perEpoch
  rw [show c.batches + c.accum - 1 = c.batches - 1 + c.accum by have := c.batches_pos; omega,
    Nat.add_div_right _ c.accum_pos]

theorem perEpoch_pos : 0 < c.perEpoch := by
  rw [perEpoch_eq]
  exact Nat.succ_pos _

/-- All steps of an epoch but the last take a full `accum` micro-batches, and leave at least
one for the last. -/
theorem pred_perEpoch_mul_lt : (c.perEpoch - 1) * c.accum < c.batches := by
  rw [perEpoch_eq, Nat.add_sub_cancel]
  have := Nat.div_mul_le_self (c.batches - 1) c.accum
  have := c.batches_pos
  omega

/-! ## The two clocks inside an epoch -/

theorem stepsAfter_mul_add (e : Nat) {i : Nat} (hi : i < c.batches) :
    c.stepsAfter (e * c.batches + i) = e * c.perEpoch + i / c.accum := by
  unfold stepsAfter
  rw [Nat.mul_comm e, Nat.mul_add_div c.batches_pos, Nat.div_eq_of_lt hi, Nat.add_zero,
    Nat.mul_add_mod, Nat.mod_eq_of_lt hi]

theorem consumed_mul_add (e : Nat) {r : Nat} (hr : r < c.perEpoch) :
    c.consumed (e * c.perEpoch + r) = e * c.batches + r * c.accum := by
  unfold consumed
  rw [Nat.mul_comm e, Nat.mul_add_div perEpoch_pos, Nat.div_eq_of_lt hr, Nat.add_zero,
    Nat.mul_add_mod, Nat.mod_eq_of_lt hr]

theorem exists_mul_add (k : Nat) : ∃ e i, i < c.batches ∧ k = e * c.batches + i :=
  ⟨k / c.batches, k % c.batches, Nat.mod_lt _ c.batches_pos, by rw [Nat.div_add_mod']⟩

theorem closes_mul_add (e : Nat) {i : Nat} (hi : i < c.batches) :
    c.closes (e * c.batches + i) = LoRATrainer.endsStep c.accum c.batches i := by
  rw [closes, Nat.mul_comm e, Nat.mul_add_mod, Nat.mod_eq_of_lt hi]

theorem div_accum_lt_perEpoch {i : Nat} (hi : i < c.batches) : i / c.accum < c.perEpoch := by
  rw [perEpoch_eq]
  exact Nat.lt_succ_of_le (Nat.div_le_div_right (by omega))

/-! ## One micro-batch at a time -/

/-- **A micro-batch completes a step exactly when it closes one.** -/
theorem stepsAfter_succ (k : Nat) :
    c.stepsAfter (k + 1) = c.stepsAfter k + if c.closes k then 1 else 0 := by
  obtain ⟨e, i, hi, rfl⟩ := exists_mul_add (c := c) k
  rw [closes_mul_add e hi, stepsAfter_mul_add e hi, Nat.add_assoc]
  rcases Nat.lt_or_ge (i + 1) c.batches with hlt | hge
  · -- inside the epoch the micro-batch closes a step when its count is a multiple of `accum`
    have hend : LoRATrainer.endsStep c.accum c.batches i = decide (c.accum ∣ i + 1) := by
      have hne : (i + 1 == c.batches) = false := beq_false_of_ne (Nat.ne_of_lt hlt)
      rw [Bool.eq_iff_iff]
      simp [LoRATrainer.endsStep, Nat.dvd_iff_mod_eq_zero, hne]
    rw [stepsAfter_mul_add e hlt, Nat.succ_div, hend, Nat.add_assoc]
    simp
  · -- the last micro-batch of the epoch closes its last step
    have hlast : i + 1 = c.batches := by omega
    have hS : i / c.accum + 1 = c.perEpoch := by
      rw [perEpoch_eq, show i = c.batches - 1 by omega]
    rw [hlast, ← Nat.succ_mul, ← Nat.add_zero ((e + 1) * c.batches),
      stepsAfter_mul_add (e + 1) c.batches_pos, LoRATrainer.endsStep_last hlast, if_pos rfl,
      Nat.zero_div, Nat.add_zero, Nat.add_assoc, hS, Nat.succ_mul]

/-- The micro-batch that closes a step is the last one that the steps so far consume. -/
theorem consumed_closing {k : Nat} (hk : c.closes k = true) :
    c.consumed (c.stepsAfter k + 1) = k + 1 := by
  obtain ⟨e, i, hi, rfl⟩ := exists_mul_add (c := c) k
  rw [closes_mul_add e hi] at hk
  rw [stepsAfter_mul_add e hi, Nat.add_assoc]
  rcases Nat.lt_or_ge (i + 1) c.batches with hlt | hge
  · -- inside the epoch: the step ends at a multiple of `accum`
    have hdvd : c.accum ∣ i + 1 := by
      have hne : (i + 1 == c.batches) = false := beq_false_of_ne (Nat.ne_of_lt hlt)
      simpa [LoRATrainer.endsStep, Nat.dvd_iff_mod_eq_zero, hne] using hk
    have hsucc : i / c.accum + 1 = (i + 1) / c.accum := by
      rw [Nat.succ_div, if_pos hdvd]
    rw [hsucc, consumed_mul_add e (div_accum_lt_perEpoch hlt), Nat.div_mul_cancel hdvd,
      Nat.add_assoc]
  · -- at the end of the epoch: the step is the epoch's last
    have hS : i / c.accum + 1 = c.perEpoch := by
      rw [perEpoch_eq, show i = c.batches - 1 by omega]
    rw [hS, ← Nat.add_zero (e * c.perEpoch + c.perEpoch), ← Nat.succ_mul,
      consumed_mul_add (e + 1) perEpoch_pos, Nat.zero_mul, Nat.add_zero, Nat.succ_mul]
    omega

theorem consumed_lt_succ (j : Nat) : c.consumed j < c.consumed (j + 1) := by
  obtain ⟨e, r, hr, rfl⟩ : ∃ e r, r < c.perEpoch ∧ j = e * c.perEpoch + r :=
    ⟨j / c.perEpoch, j % c.perEpoch, Nat.mod_lt _ perEpoch_pos, by rw [Nat.div_add_mod']⟩
  rw [consumed_mul_add e hr, Nat.add_assoc]
  rcases Nat.lt_or_ge (r + 1) c.perEpoch with hlt | hge
  · rw [consumed_mul_add e hlt, Nat.succ_mul]
    have := c.accum_pos
    omega
  · -- the last step of an epoch consumes what its earlier steps left
    have hlast : r + 1 = c.perEpoch := by omega
    rw [hlast, ← Nat.add_zero (e * c.perEpoch + c.perEpoch), ← Nat.succ_mul,
      consumed_mul_add (e + 1) perEpoch_pos, Nat.zero_mul, Nat.add_zero, Nat.succ_mul]
    have := pred_perEpoch_mul_lt (c := c)
    rw [show c.perEpoch - 1 = r by omega] at this
    omega

theorem consumed_strictMono : StrictMono c.consumed :=
  strictMono_nat_of_lt_succ consumed_lt_succ

@[simp] theorem consumed_zero : c.consumed 0 = 0 := by
  simp [consumed]

theorem stepsAfter_epochs (E : Nat) : c.stepsAfter (E * c.batches) = E * c.perEpoch := by
  rw [← Nat.add_zero (E * c.batches), stepsAfter_mul_add E c.batches_pos, Nat.zero_div,
    Nat.add_zero]

theorem consumed_epochs (E : Nat) : c.consumed (E * c.perEpoch) = E * c.batches := by
  rw [← Nat.add_zero (E * c.perEpoch), consumed_mul_add E perEpoch_pos, Nat.zero_mul,
    Nat.add_zero]

/-! ## The fractional epoch -/

/-- The fractional epoch of the step that micro-batch `k` closes is its epoch plus its
position over the epoch's length, as the loop computes it. -/
theorem epochAt_closing {α : Type} [Add α] [Div α] (ofSize : Nat → α) {k : Nat}
    (hk : c.closes k = true) :
    c.epochAt ofSize (c.stepsAfter k + 1) =
      ofSize (k / c.batches) + ofSize (k % c.batches + 1) / ofSize c.batches := by
  simp only [epochAt, consumed_closing hk, Nat.add_sub_cancel]

/-- Read exactly, the fractional epoch of a step is the share of the run's epochs that its
micro-batches make up. -/
theorem epochAt_exact {j : Nat} (hj : 0 < j) :
    c.epochAt (fun n => (n : ℚ)) j = (c.consumed j : ℚ) / c.batches := by
  have hpos : 0 < c.consumed j := by
    have := consumed_strictMono (c := c) hj
    rwa [consumed_zero] at this
  have hB : (c.batches : ℚ) ≠ 0 := by exact_mod_cast c.batches_pos.ne'
  have hsplit : (c.consumed j : ℚ) =
      (((c.consumed j - 1) / c.batches : ℕ) : ℚ) * c.batches + (((c.consumed j - 1) % c.batches + 1 : ℕ) : ℚ) := by
    have := Nat.div_add_mod' (c.consumed j - 1) c.batches
    rw [← Nat.cast_mul]
    push_cast
    exact_mod_cast (by omega : c.consumed j = (c.consumed j - 1) / c.batches * c.batches +
      ((c.consumed j - 1) % c.batches + 1))
  simp only [epochAt]
  rw [hsplit, add_div, mul_div_cancel_right₀ _ hB]

theorem epochAt_exact_strictMonoOn :
    StrictMonoOn (c.epochAt fun n => (n : ℚ)) (Set.Ici 1) := by
  intro j hj j' hj' hlt
  rw [epochAt_exact hj, epochAt_exact hj']
  have hB : (0 : ℚ) < c.batches := by exact_mod_cast c.batches_pos
  exact div_lt_div_of_pos_right (by exact_mod_cast consumed_strictMono hlt) hB

theorem epochAt_exact_epochs {E : Nat} (hE : 0 < E) :
    c.epochAt (fun n => (n : ℚ)) (E * c.perEpoch) = E := by
  have hB : (c.batches : ℚ) ≠ 0 := by exact_mod_cast c.batches_pos.ne'
  rw [epochAt_exact (Nat.mul_pos hE perEpoch_pos), consumed_epochs, Nat.cast_mul,
    mul_div_cancel_right₀ _ hB]

end Cadence

end LowRankTuner
