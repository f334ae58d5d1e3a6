import Mathlib
import LowRankTuner.Training.Arguments
/-!
# The learning-rate schedule, read exactly

`TrainingArguments.lrAt` multiplies the learning rate by `scheduleFactor`, which rises
linearly from zero over the warm-up steps and then falls linearly to zero at the last step.
The factor is written once for any number type; read with sizes as rationals and every
quotient and product exact (`exactRate`), the schedule obeys the laws one expects of it
(`exactRate_follows_schedule`):

* it stays between zero and the full rate;
* it rises through the warm-up and falls after it;
* it is zero from the later of the warm-up's end and the last step on, and it is the full
  rate when a warm-up shorter than the run ends;
* of the steps a run takes, only the first can get a rate of zero, and only after a
  warm-up of at least one step.

The floating-point schedule differs from this reading by rounding only, but rounding
matters at the edges: a rate of a few units in the last place, times a fraction, can round
to zero in the middle of a run.
-/

namespace LowRankTuner.TrainingArguments

/-- The schedule's factor with sizes read as rationals. -/
def exactFactor (warmup step total : Nat) : ℚ :=
  scheduleFactor (fun n => (n : ℚ)) warmup step total

/-- The learning rate `rate` as the schedule gives it, in exact arithmetic. -/
def exactRate (rate : ℚ) (warmup step total : Nat) : ℚ := rate * exactFactor warmup step total

variable {W T s s' : Nat}

/-! ## The two phases -/

/-- While warming up, the factor is the share of the warm-up done. -/
theorem exactFactor_of_lt (h : s < W) : exactFactor W s T = (s : ℚ) / W := by
  simp only [exactFactor, scheduleFactor, if_pos h, Nat.max_eq_left (by omega : 1 ≤ W)]

/-- After the warm-up, the factor is the share of the steps after the warm-up still to
come; the guard against a negative share never fires. -/
theorem exactFactor_of_le (h : W ≤ s) :
    exactFactor W s T = ((T - s : ℕ) : ℚ) / ((max (T - W) 1 : ℕ) : ℚ) := by
  have hq : ¬ ((T - s : ℕ) : ℚ) / ((max (T - W) 1 : ℕ) : ℚ) < 0 := not_lt.mpr (by positivity)
  simp only [exactFactor, scheduleFactor, if_neg (Nat.not_lt.mpr h), if_neg hq]

/-! ## Bounds -/

theorem exactFactor_nonneg : 0 ≤ exactFactor W s T := by
  by_cases h : s < W
  · rw [exactFactor_of_lt h]
    positivity
  · rw [exactFactor_of_le (Nat.le_of_not_lt h)]
    positivity

theorem exactFactor_le_one : exactFactor W s T ≤ 1 := by
  by_cases h : s < W
  · rw [exactFactor_of_lt h]
    exact div_le_one_of_le₀ (by exact_mod_cast h.le) (Nat.cast_nonneg W)
  · -- after the warm-up, fewer steps are left than came after it
    have hle : T - s ≤ max (T - W) 1 := le_max_of_le_left (by omega)
    rw [exactFactor_of_le (Nat.le_of_not_lt h)]
    exact div_le_one_of_le₀ (by exact_mod_cast hle) (Nat.cast_nonneg _)

/-! ## Shape -/

theorem exactFactor_mono_of_lt (hss' : s ≤ s') (hs' : s' < W) :
    exactFactor W s T ≤ exactFactor W s' T := by
  rw [exactFactor_of_lt (lt_of_le_of_lt hss' hs'), exactFactor_of_lt hs']
  gcongr

theorem exactFactor_anti_of_le (hs : W ≤ s) (hss' : s ≤ s') :
    exactFactor W s' T ≤ exactFactor W s T := by
  rw [exactFactor_of_le (hs.trans hss'), exactFactor_of_le hs]
  gcongr

theorem exactFactor_eq_zero_of_le (h : max W T ≤ s) : exactFactor W s T = 0 := by
  rw [exactFactor_of_le (le_of_max_le_left h), Nat.sub_eq_zero_of_le (le_of_max_le_right h),
    Nat.cast_zero, zero_div]

/-- A warm-up shorter than the run ends at the full rate. -/
theorem exactFactor_warmup_end (h : W < T) : exactFactor W W T = 1 := by
  rw [exactFactor_of_le le_rfl, Nat.max_eq_left (by omega : 1 ≤ T - W)]
  exact div_self (by exact_mod_cast (by omega : T - W ≠ 0))

/-- Before the last step the factor vanishes only at the first step of a warm-up. -/
theorem exactFactor_eq_zero_iff (h : s < T) : exactFactor W s T = 0 ↔ s = 0 ∧ 0 < W := by
  by_cases hw : s < W
  · rw [exactFactor_of_lt hw, div_eq_zero_iff]
    constructor
    · rintro (hs | hW)
      · exact ⟨by exact_mod_cast hs, by omega⟩
      · exact absurd (by exact_mod_cast hW) (by omega : W ≠ 0)
    · rintro ⟨rfl, -⟩
      exact .inl Nat.cast_zero
  · -- after the warm-up some steps are left, so the share is positive
    have hpos : 0 < ((T - s : ℕ) : ℚ) / ((max (T - W) 1 : ℕ) : ℚ) :=
      div_pos (by exact_mod_cast (by omega : 0 < T - s)) (by positivity)
    rw [exactFactor_of_le (Nat.le_of_not_lt hw)]
    constructor
    · intro hz
      exact absurd hz hpos.ne'
    · rintro ⟨rfl, hW⟩
      exact absurd hW hw

/-! ## The scheduled rate -/

/-- **The learning-rate schedule.**  Read exactly, the rate of every step lies between zero
and the learning rate; it rises through the warm-up and falls after it; it is zero once both
the warm-up and the run are over, and full when a warm-up shorter than the run ends.  Of the
steps `0 ≤ s < total` that a run takes, only `s = 0` gets a rate of zero, and only when
there is a warm-up. -/
theorem exactRate_follows_schedule (rate : ℚ) (hrate : 0 < rate) (warmup total : Nat) :
    (∀ s, 0 ≤ exactRate rate warmup s total ∧ exactRate rate warmup s total ≤ rate) ∧
    MonotoneOn (fun s => exactRate rate warmup s total) (Set.Iio warmup) ∧
    AntitoneOn (fun s => exactRate rate warmup s total) (Set.Ici warmup) ∧
    (∀ s, max warmup total ≤ s → exactRate rate warmup s total = 0) ∧
    (warmup < total → exactRate rate warmup warmup total = rate) ∧
    (∀ s < total, exactRate rate warmup s total = 0 ↔ s = 0 ∧ 0 < warmup) := by
  refine ⟨fun s => ⟨?_, ?_⟩, fun s _ s' hs' hss' => ?_, fun s hs s' _ hss' => ?_,
    fun s hs => ?_, fun hw => ?_, fun s hs => ?_⟩
  · exact mul_nonneg hrate.le exactFactor_nonneg
  · exact mul_le_of_le_one_right hrate.le exactFactor_le_one
  · exact mul_le_mul_of_nonneg_left (exactFactor_mono_of_lt hss' hs') hrate.le
  · exact mul_le_mul_of_nonneg_left (exactFactor_anti_of_le hs hss') hrate.le
  · rw [exactRate, exactFactor_eq_zero_of_le hs, mul_zero]
  · rw [exactRate, exactFactor_warmup_end hw, mul_one]
  · rw [exactRate, mul_eq_zero, or_iff_right hrate.ne', exactFactor_eq_zero_iff hs]

/-- The schedule of the default learning rate over a warm-up of ten steps and a run of 110. -/
theorem exactRate_follows_schedule_at_defaults :
    (0 : ℚ) < 1 / 10000 ∧
    ((∀ s, 0 ≤ exactRate (1 / 10000) 10 s 110 ∧ exactRate (1 / 10000) 10 s 110 ≤ 1 / 10000) ∧
    MonotoneOn (fun s => exactRate (1 / 10000) 10 s 110) (Set.Iio 10) ∧
    AntitoneOn (fun s => exactRate (1 / 10000) 10 s 110) (Set.Ici 10) ∧
    (∀ s, max 10 110 ≤ s → exactRate (1 / 10000) 10 s 110 = 0) ∧
    (10 < 110 → exactRate (1 / 10000) 10 10 110 = 1 / 10000) ∧
    (∀ s < 110, exactRate (1 / 10000) 10 s 110 = 0 ↔ s = 0 ∧ 0 < 10)) :=
  ⟨by norm_num, exactRate_follows_schedule _ (by norm_num) 10 110⟩

end LowRankTuner.TrainingArguments
