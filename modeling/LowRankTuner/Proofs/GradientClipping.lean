import Mathlib
import LowRankTuner.Training.Loss
/-!
# Clipping gradients by their joint norm

Clipping reads the gradients of a list of parameters from a store, measures them by the square
root of the sum of their squared entries, and, when that norm passes the bound, scales each of
those gradients by `bound / (norm + 10⁻⁶)`.  The steps are written once over an arithmetic
(`ClipArith`); the trainer runs them in floating point.

* In every arithmetic, the floating-point one included, the gradients of tensors that are not
  among the parameters are never changed, a norm within the bound leaves the store as it was,
  and past the bound each listed parameter's gradient is scaled once when the list has no
  repeats (`ClipArith.scaleAll_apply`, `ClipArith.clip_snd_of_not_mem`).
* In exact arithmetic (`exactClip`, gradients as lists of reals) the norm is the Euclidean norm
  of all the parameters' gradients together, a parameter without a gradient counting zero; the
  factor is positive, so no gradient changes direction, and the clipped gradients have joint
  norm `norm · bound / (norm + 10⁻⁶)`, strictly below the bound
  (`clip_scales_below_maxNorm`).
-/

namespace LowRankTuner

namespace ClipArith

section Scaling

variable {R G K : Type} [DecidableEq K] (c : ClipArith R G)

/-- Scaling one parameter's gradient changes that entry of the store only. -/
theorem scaleOne_apply (s : R) (st : K → Option G) (v k : K) :
    c.scaleOne s st v k = if k = v then (st v).map (c.scale s) else st k := by
  unfold scaleOne
  cases hv : st v with
  | none =>
    by_cases hk : k = v
    · subst hk; simp [hv]
    · simp [hk]
  | some g => simp

theorem scaleAll_cons (s : R) (grads : K → Option G) (v : K) (vs : List K) :
    c.scaleAll s grads (v :: vs) = c.scaleAll s (c.scaleOne s grads v) vs := rfl

/-- Scaling never touches a gradient outside the listed parameters. -/
theorem scaleAll_of_not_mem (s : R) {k : K} :
    ∀ (vars : List K) (grads : K → Option G), k ∉ vars → c.scaleAll s grads vars k = grads k
  | [], _, _ => rfl
  | v :: vs, grads, hk => by
    have hkv : k ≠ v := fun h => hk (h ▸ List.mem_cons_self)
    rw [scaleAll_cons, scaleAll_of_not_mem s vs _ fun h => hk (List.mem_cons_of_mem v h),
      scaleOne_apply, if_neg hkv]

/-- With no parameter listed twice, scaling multiplies each listed parameter's gradient once
and leaves the rest. -/
theorem scaleAll_apply (s : R) (k : K) :
    ∀ {vars : List K} (grads : K → Option G), vars.Nodup →
      c.scaleAll s grads vars k = if k ∈ vars then (grads k).map (c.scale s) else grads k
  | [], _, _ => by simp [scaleAll]
  | v :: vs, grads, hnd => by
    have hv : v ∉ vs := (List.nodup_cons.mp hnd).1
    rw [scaleAll_cons, scaleAll_apply s k _ (List.nodup_cons.mp hnd).2, scaleOne_apply]
    -- a parameter of the rest is not the one scaled first
    by_cases hk : k ∈ vs
    · have hkv : k ≠ v := fun h => hv (h ▸ hk)
      simp [hk, hkv]
    · by_cases hkv : k = v <;> simp [hk, hkv, hv]

end Scaling

variable {R G K : Type} [Add R] [Div R] [LT R] [DecidableLT R] [OfNat R 0] [DecidableEq K]
variable (c : ClipArith R G)

theorem clip_fst (grads : K → Option G) (vars : List K) (m : R) :
    (c.clip grads vars m).1 = c.sqrt (c.squaredTotal grads vars) := by
  simp only [clip]
  split <;> rfl

theorem clip_snd_of_lt {grads : K → Option G} {vars : List K} {m : R}
    (h : m < c.sqrt (c.squaredTotal grads vars)) :
    (c.clip grads vars m).2 =
      c.scaleAll (m / (c.sqrt (c.squaredTotal grads vars) + c.margin)) grads vars := by
  simp [clip, h]

/-- A norm within the bound leaves the gradients as they were. -/
theorem clip_snd_of_not_lt {grads : K → Option G} {vars : List K} {m : R}
    (h : ¬ m < c.sqrt (c.squaredTotal grads vars)) : (c.clip grads vars m).2 = grads := by
  simp [clip, h]

/-- Clipping never changes the gradient of a tensor that is not among the parameters. -/
theorem clip_snd_of_not_mem (grads : K → Option G) {vars : List K} (m : R) {k : K}
    (hk : k ∉ vars) : (c.clip grads vars m).2 k = grads k := by
  by_cases h : m < c.sqrt (c.squaredTotal grads vars)
  · rw [clip_snd_of_lt c h, scaleAll_of_not_mem c _ vars grads hk]
  · rw [clip_snd_of_not_lt c h]

end ClipArith

/-- The trainer's clipping leaves the gradient of every tensor that is not a trainable
parameter as it was. -/
theorem clipGradNorm_of_not_mem {K : Type} [DecidableEq K] (grads : K → Option Tensor)
    {vars : List K} (maxNorm : Float) {k : K} (hk : k ∉ vars) :
    (clipGradNorm grads vars maxNorm).2 k = grads k :=
  floatClip.clip_snd_of_not_mem grads maxNorm hk

/-! ## Exact arithmetic -/

/-- Clipping in exact arithmetic: a gradient is the list of its entries, real numbers. -/
noncomputable def exactClip : ClipArith ℝ (List ℝ) where
  sqrt := Real.sqrt
  margin := 1 / 1000000
  squares g := (g.map (· ^ 2)).sum
  scale s g := g.map (s * ·)

/-- The sum of the squared entries of the parameters' gradients taken together; a parameter
without a gradient counts zero. -/
def jointSquares {K : Type} (grads : K → Option (List ℝ)) (vars : List K) : ℝ :=
  (vars.map fun v => (((grads v).getD []).map (· ^ 2)).sum).sum

/-- The Euclidean norm of the parameters' gradients taken together. -/
noncomputable def jointNorm {K : Type} (grads : K → Option (List ℝ)) (vars : List K) : ℝ :=
  Real.sqrt (jointSquares grads vars)

section Exact

variable {K : Type} (grads : K → Option (List ℝ))

/-- The running sum of squares is the joint sum of squares. -/
theorem exactClip_squaredTotal (vars : List K) :
    exactClip.squaredTotal grads vars = jointSquares grads vars := by
  -- the sum runs from any starting value
  suffices h : ∀ (acc : ℝ) (vars : List K),
      vars.foldl (exactClip.addSquares grads) acc = acc + jointSquares grads vars by
    rw [ClipArith.squaredTotal, h 0 vars, zero_add]
  intro acc vars
  induction vars generalizing acc with
  | nil => simp [jointSquares]
  | cons v vs ih =>
    rw [List.foldl_cons, ih]
    cases hv : grads v with
    | none => simp [ClipArith.addSquares, jointSquares, hv]
    | some g => simp [ClipArith.addSquares, jointSquares, hv, exactClip]; ring

/-- Scaling every parameter's gradient by `s` scales their joint sum of squares by `s²`. -/
theorem jointSquares_scaleAll [DecidableEq K] {vars : List K} (hnd : vars.Nodup) (s : ℝ) :
    jointSquares (exactClip.scaleAll s grads vars) vars = s ^ 2 * jointSquares grads vars := by
  unfold jointSquares
  rw [← List.sum_map_mul_left]
  refine congrArg List.sum (List.map_congr_left fun v hv => ?_)
  rw [exactClip.scaleAll_apply s v grads hnd, if_pos hv]
  cases grads v with
  | none => simp
  | some g =>
    simp only [Option.map_some, Option.getD_some, exactClip, List.map_map]
    rw [← List.sum_map_mul_left]
    exact congrArg List.sum (List.map_congr_left fun x _ => by simp; ring)

/-- The clipped norm is below the bound: `N · (m / (N + ε)) < m` for `N ≥ 0`, `ε, m > 0`. -/
theorem mul_div_add_lt {N m ε : ℝ} (hN : 0 ≤ N) (hm : 0 < m) (hε : 0 < ε) :
    N * (m / (N + ε)) < m := by
  have hpos : 0 < N + ε := by linarith
  rw [mul_div_assoc', div_lt_iff₀ hpos]
  nlinarith

end Exact

/-- **Clipping in exact arithmetic.**  Take any gradients, keyed by tensor, any list of distinct
parameters and any bound `m > 0`.  Clipping returns `N`, the square root of the sum of the
squared entries of the parameters' gradients, a parameter without a gradient counting zero.  If
`N ≤ m` the gradients are left as they were.  Otherwise each parameter's gradient is multiplied
by `s = m / (N + 10⁻⁶) > 0`, so it keeps its direction, and the clipped gradients have joint norm
`N · s < m`.  The gradient of a tensor that is not a listed parameter is never changed. -/
theorem clip_scales_below_maxNorm {K : Type} [DecidableEq K] (grads : K → Option (List ℝ))
    (vars : List K) (hvars : vars.Nodup) (m : ℝ) (hm : 0 < m) :
    (exactClip.clip grads vars m).1 = jointNorm grads vars ∧
    (jointNorm grads vars ≤ m → (exactClip.clip grads vars m).2 = grads) ∧
    (m < jointNorm grads vars →
      0 < m / (jointNorm grads vars + 1 / 1000000) ∧
      (∀ v ∈ vars, (exactClip.clip grads vars m).2 v =
        (grads v).map (List.map ((m / (jointNorm grads vars + 1 / 1000000)) * ·))) ∧
      jointNorm (exactClip.clip grads vars m).2 vars =
        jointNorm grads vars * (m / (jointNorm grads vars + 1 / 1000000)) ∧
      jointNorm grads vars * (m / (jointNorm grads vars + 1 / 1000000)) < m) ∧
    ∀ k ∉ vars, (exactClip.clip grads vars m).2 k = grads k := by
  have hnorm : exactClip.sqrt (exactClip.squaredTotal grads vars) = jointNorm grads vars := by
    rw [exactClip_squaredTotal]; rfl
  have hN : 0 ≤ jointNorm grads vars := Real.sqrt_nonneg _
  refine ⟨by rw [ClipArith.clip_fst, hnorm], fun hle => ?_, fun hlt => ?_,
    fun k hk => exactClip.clip_snd_of_not_mem grads m hk⟩
  · exact exactClip.clip_snd_of_not_lt (by rw [hnorm]; exact not_lt.mpr hle)
  · set s := m / (jointNorm grads vars + 1 / 1000000) with hs_def
    have hs : 0 < s := div_pos hm (by positivity)
    have hclip : (exactClip.clip grads vars m).2 = exactClip.scaleAll s grads vars := by
      rw [exactClip.clip_snd_of_lt (by rw [hnorm]; exact hlt), hnorm]
      rfl
    refine ⟨hs, fun v hv => ?_, ?_, mul_div_add_lt hN hm (by norm_num)⟩
    · rw [hclip, exactClip.scaleAll_apply s v grads hvars, if_pos hv]
      rfl
    · -- the joint norm scales with the factor, which is positive
      rw [hclip, jointNorm, jointSquares_scaleAll grads hvars,
        Real.sqrt_mul (sq_nonneg s), Real.sqrt_sq hs.le, mul_comm]
      rfl

/-- Two parameters, one with the gradient `(3, 4)` and one without, clipped to norm `1`. -/
theorem clip_scales_below_maxNorm_on_two_parameters :
    [0, 1].Nodup ∧ (0 : ℝ) < 1 ∧
      (exactClip.clip (fun k : Nat => if k = 0 then some [3, 4] else none) [0, 1] 1).1 =
        jointNorm (fun k : Nat => if k = 0 then some [3, 4] else none) [0, 1] ∧
      (jointNorm (fun k : Nat => if k = 0 then some [3, 4] else none) [0, 1] ≤ 1 →
        (exactClip.clip (fun k : Nat => if k = 0 then some [3, 4] else none) [0, 1] 1).2 =
          fun k : Nat => if k = 0 then some [3, 4] else none) ∧
      (1 < jointNorm (fun k : Nat => if k = 0 then some [3, 4] else none) [0, 1] →
        0 < 1 / (jointNorm (fun k : Nat => if k = 0 then some [3, 4] else none) [0, 1] +
          1 / 1000000) ∧
        (∀ v ∈ [0, 1],
          (exactClip.clip (fun k : Nat => if k = 0 then some [3, 4] else none) [0, 1] 1).2 v =
            ((fun k : Nat => if k = 0 then some [3, 4] else none) v).map (List.map
              ((1 / (jointNorm (fun k : Nat => if k = 0 then some [3, 4] else none) [0, 1] +
                1 / 1000000)) * ·))) ∧
        jointNorm (exactClip.clip (fun k : Nat => if k = 0 then some [3, 4] else none) [0, 1] 1).2
            [0, 1] =
          jointNorm (fun k : Nat => if k = 0 then some [3, 4] else none) [0, 1] *
            (1 / (jointNorm (fun k : Nat => if k = 0 then some [3, 4] else none) [0, 1] +
              1 / 1000000)) ∧
        jointNorm (fun k : Nat => if k = 0 then some [3, 4] else none) [0, 1] *
            (1 / (jointNorm (fun k : Nat => if k = 0 then some [3, 4] else none) [0, 1] +
              1 / 1000000)) < 1) ∧
      ∀ k ∉ [0, 1],
        (exactClip.clip (fun k : Nat => if k = 0 then some [3, 4] else none) [0, 1] 1).2 k =
          (fun k : Nat => if k = 0 then some [3, 4] else none) k :=
  ⟨by decide, one_pos, clip_scales_below_maxNorm _ [0, 1] (by decide) 1 one_pos⟩

end LowRankTuner
