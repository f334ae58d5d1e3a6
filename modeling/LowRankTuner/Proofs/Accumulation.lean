import LowRankTuner.Proofs.Outcomes
/-
  LowRankTuner/Proofs/Accumulation.lean
  =====================================
  **Gradient accumulation: which micro-batches go into which optimiser step.**

  An epoch cuts its sample order into micro-batches of `batchSize` and walks them one by
  one.  Each micro-batch's gradients are added to a running sum; the walk applies the sum
  and empties it when `endsStep` holds, that is at every `gas`-th micro-batch and at the
  last one of the epoch, and otherwise goes on to the next micro-batch.

  The main result here, `runEpoch_eq_groups`, removes that `continue`: an epoch is a loop
  over the groups `chunks gas` of its micro-batches, and each group starts from an empty
  sum, adds the gradients of each of its micro-batches once, and ends in exactly one
  optimiser step (`groupStep`).  So no micro-batch's gradients are dropped, carried over to
  another step or epoch, or counted twice.  The sizes of the pieces come from
  `map_length_chunks`, and counting one step per group gives the number of steps of a
  whole run (`train_globalStep`).
-/

namespace LowRankTuner

/-! ### Cutting a list into pieces -/

section Chunks

variable {α : Type}

@[simp] theorem length_chunks (n : Nat) (xs : List α) :
    (chunks n xs).length = (xs.length + n - 1) / n := by
  simp [chunks]

@[simp] theorem chunks_nil (n : Nat) : chunks n ([] : List α) = [] := by
  simp only [chunks, List.length_nil, Nat.zero_add, List.map_eq_nil_iff, List.range_eq_nil]
  rcases n with _ | n
  · rfl
  · simp

/-- Taking one piece off a nonempty list takes one off the count of pieces. -/
theorem chunkCount_eq_succ {n len : Nat} (hn : 0 < n) (hlen : 0 < len) :
    (len + n - 1) / n = (len - n + n - 1) / n + 1 := by
  by_cases hle : n ≤ len
  · rw [show len - n + n - 1 = len - 1 by omega,
      show len + n - 1 = len - 1 + n * 1 by omega, Nat.add_mul_div_left _ _ hn]
  · have hone : (len + n - 1) / n = 1 := Nat.div_eq_of_lt_le (by omega) (by omega)
    rw [show len - n + n - 1 = n - 1 by omega, Nat.div_eq_of_lt (by omega : n - 1 < n), hone]

/-- A nonempty list is cut into its first piece and the pieces of the rest. -/
theorem chunks_of_ne_nil {n : Nat} {xs : List α} (hn : 0 < n) (hxs : xs ≠ []) :
    chunks n xs = xs.take n :: chunks n (xs.drop n) := by
  have hcount := chunkCount_eq_succ hn (List.length_pos_iff.mpr hxs)
  rw [← List.length_drop] at hcount
  simp only [chunks, hcount, List.range_succ_eq_map, List.map_cons, List.map_map]
  simp [Function.comp_def, List.drop_drop, Nat.succ_mul, Nat.add_comm]

/-- The pieces, joined, give the list back. -/
theorem flatten_chunks {n : Nat} (hn : 0 < n) : ∀ xs : List α, (chunks n xs).flatten = xs
  | [] => by simp
  | x :: rest => by
    rw [chunks_of_ne_nil hn (List.cons_ne_nil x rest), List.flatten_cons,
      flatten_chunks hn ((x :: rest).drop n), List.take_append_drop]
termination_by xs => xs.length
decreasing_by simp only [List.length_drop, List.length_cons]; omega

/-- **The sizes of the pieces.**  Every piece has `n` elements but the last, which has
what is left: the length less `n` for each earlier piece. -/
theorem map_length_chunks {n : Nat} (hn : 0 < n) : ∀ xs : List α, xs ≠ [] →
    (chunks n xs).map List.length =
      List.replicate ((xs.length + n - 1) / n - 1) n ++
        [xs.length - ((xs.length + n - 1) / n - 1) * n]
  | [], h => absurd rfl h
  | x :: rest, _ => by
    have hcount := chunkCount_eq_succ hn (List.length_pos_iff.mpr (List.cons_ne_nil x rest))
    rw [chunks_of_ne_nil hn (List.cons_ne_nil x rest), List.map_cons]
    by_cases hshort : (x :: rest).length ≤ n
    · -- a single piece holds the whole list
      have hdrop : (x :: rest).drop n = [] := List.drop_eq_nil_of_le hshort
      have hone : ((x :: rest).length + n - 1) / n = 1 := by
        rw [hcount, show (x :: rest).length - n + n - 1 = n - 1 by omega,
          Nat.div_eq_of_lt (by omega : n - 1 < n)]
      rw [hdrop, chunks_nil, hone, List.take_of_length_le hshort]
      simp
    · -- a full first piece, then the pieces of the rest
      have hne : (x :: rest).drop n ≠ [] := by
        simp only [ne_eq, List.drop_eq_nil_iff]; omega
      rw [map_length_chunks hn ((x :: rest).drop n) hne, List.length_drop, List.length_take,
        Nat.min_eq_left (by omega), hcount]
      have hpos : 0 < ((x :: rest).length - n + n - 1) / n :=
        Nat.div_pos (by omega) hn
      obtain ⟨k, hk⟩ : ∃ k, ((x :: rest).length - n + n - 1) / n = k + 1 :=
        ⟨_, (Nat.succ_pred_eq_of_pos hpos).symm⟩
      rw [hk, Nat.add_sub_cancel, Nat.add_sub_cancel, List.replicate_succ, List.cons_append,
        Nat.sub_sub, Nat.succ_mul, Nat.add_comm n]
termination_by xs => xs.length
decreasing_by simp only [List.length_drop, List.length_cons]; omega

/-- No piece is empty. -/
theorem ne_nil_of_mem_chunks {n : Nat} (hn : 0 < n) {xs piece : List α}
    (h : piece ∈ chunks n xs) : piece ≠ [] := by
  simp only [chunks, List.mem_map, List.mem_range] at h
  obtain ⟨c, hc, rfl⟩ := h
  -- piece `c` starts before the end: `(c + 1) · n ≤ length + n - 1`
  have hstart : c * n < xs.length := by
    have := (Nat.le_div_iff_mul_le hn).mp hc
    rw [Nat.succ_mul] at this
    omega
  simp only [ne_eq, List.take_eq_nil_iff, List.drop_eq_nil_iff]
  omega

theorem take_zipIdx (g : Nat) : ∀ (l : List α) (s : Nat),
    (l.zipIdx s).take g = (l.take g).zipIdx s
  | [], _ => by simp
  | x :: l, s => by
    cases g with
    | zero => simp
    | succ g => simp [take_zipIdx g l (s + 1)]

theorem drop_zipIdx (g : Nat) : ∀ (l : List α) (s : Nat),
    (l.zipIdx s).drop g = (l.drop g).zipIdx (s + g)
  | [], _ => by simp
  | x :: l, s => by
    cases g with
    | zero => simp
    | succ g => simp [drop_zipIdx g l (s + 1), Nat.add_assoc, Nat.add_comm 1 g]

end Chunks

namespace LoRATrainer

/-! ### Where an optimiser step closes -/

section Boundaries

variable {gas batchesPerEpoch s i : Nat}

/-- A micro-batch strictly inside a group of `gas` that starts at a multiple of `gas`, and
before the last of the epoch, closes no step. -/
theorem endsStep_inside (hs : s % gas = 0) (hi : i + 1 < gas) (hB : s + i + 1 < batchesPerEpoch) :
    endsStep gas batchesPerEpoch (s + i) = false := by
  have hmod : (s + i + 1) % gas = i + 1 := by
    rw [Nat.add_assoc, Nat.add_mod, hs, Nat.zero_add, Nat.mod_mod, Nat.mod_eq_of_lt hi]
  simp only [endsStep, hmod, Bool.or_eq_false_iff, beq_eq_false_iff_ne, ne_eq]
  omega

/-- The `gas`-th micro-batch of a group that starts at a multiple of `gas` closes a step. -/
theorem endsStep_groupEnd (hgas : 0 < gas) (hs : s % gas = 0) :
    endsStep gas batchesPerEpoch (s + (gas - 1)) = true := by
  have hmod : (s + (gas - 1) + 1) % gas = 0 := by
    rw [Nat.add_assoc, Nat.sub_add_cancel hgas, Nat.add_mod_right, hs]
  simp [endsStep, hmod]

/-- The last micro-batch of an epoch closes a step. -/
theorem endsStep_last (h : i + 1 = batchesPerEpoch) : endsStep gas batchesPerEpoch i = true := by
  simp [endsStep, h]

end Boundaries

/-! ### One optimiser step as a group of micro-batches -/

section Groups

variable (t : LoRATrainer) (dataset : WeightedDataset) (ckpt : CheckpointManager)
  (amb : Ambient) (batchesPerEpoch total epoch : Nat)

/-- A micro-batch's gradients added to the running sum, which the progress then carries. -/
def absorbInto (p : Progress) (item : List Nat × Nat) : DiskM Progress := do
  let (p, grads) ← t.absorb dataset amb epoch p item.1
  pure { p with accumulated := some grads }

/-- The micro-batches of one optimiser step: from an empty running sum, each adds its
gradients to it once, and the sum is applied in one step after the last. -/
def groupStep (p : Progress) (group : List (List Nat × Nat)) : DiskM Progress := do
  let p ← group.foldlM (t.absorbInto dataset amb epoch) { p with accumulated := none }
  match p.accumulated, group.getLast? with
  | some grads, some (_, bi) =>
    t.applyStep ckpt amb batchesPerEpoch total epoch bi { p with accumulated := none } grads
  | _, _ => pure p

variable {t dataset ckpt amb batchesPerEpoch total epoch}

theorem batch_of_not_endsStep {p : Progress} {indices : List Nat} {bi : Nat}
    (h : endsStep t.args.gradientAccumulationSteps batchesPerEpoch bi = false) :
    t.batch dataset ckpt amb batchesPerEpoch total epoch p (indices, bi) =
      t.absorbInto dataset amb epoch p (indices, bi) := by
  simp only [batch, absorbInto, h]
  rfl

theorem batch_of_endsStep {p : Progress} {indices : List Nat} {bi : Nat}
    (h : endsStep t.args.gradientAccumulationSteps batchesPerEpoch bi = true) :
    t.batch dataset ckpt amb batchesPerEpoch total epoch p (indices, bi) =
      t.absorb dataset amb epoch p indices >>= fun r =>
        t.applyStep ckpt amb batchesPerEpoch total epoch bi
          { r.1 with accumulated := none } r.2 := by
  simp only [batch, h]
  rfl

open DiskM

theorem absorb_ensures (p : Progress) (indices : List Nat) :
    (t.absorb dataset amb epoch p indices).Ensures (fun r => r.1.globalStep = p.globalStep) := by
  unfold absorb
  refine ensures_bind_any fun b => ensures_bind_any fun r => ?_
  exact ensures_bind_any fun grads => ensures_pure rfl

@[simp] theorem optimise_globalStep (p : Progress) (grads : List (String × Tensor)) (total : Nat) :
    (t.optimise p grads total).1.globalStep = p.globalStep + 1 := rfl

@[simp] theorem optimise_accumulated (p : Progress) (grads : List (String × Tensor)) (total : Nat) :
    (t.optimise p grads total).1.accumulated = p.accumulated := rfl

/-- Logging and saving change neither the step count nor the running sum. -/
theorem record_ensures (p : Progress) (norm : Float32) (lr epochProgress : Float) :
    (t.record ckpt amb total p norm lr epochProgress).Ensures
      (fun p' => p'.globalStep = p.globalStep ∧ p'.accumulated = p.accumulated) := by
  unfold record
  dsimp only
  -- the outer test is the checkpoint, the inner one the log entry
  split
  · refine ensures_bind_any fun r => ensures_pure ⟨?_, ?_⟩
    · split <;> rfl
    · split <;> rfl
  · refine ensures_pure ⟨?_, ?_⟩
    · split <;> rfl
    · split <;> rfl

theorem applyStep_ensures (bi : Nat) (p : Progress) (grads : List (String × Tensor)) :
    (t.applyStep ckpt amb batchesPerEpoch total epoch bi p grads).Ensures
      (fun p' => p'.globalStep = p.globalStep + 1 ∧ p'.accumulated = p.accumulated) := by
  unfold applyStep
  have hg := optimise_globalStep (t := t) p grads total
  have ha := optimise_accumulated (t := t) p grads total
  rcases hopt : t.optimise p grads total with ⟨q, norm, lr⟩
  rw [hopt] at hg ha
  exact (record_ensures q norm lr _).mono fun p' ⟨h1, h2⟩ => ⟨h1.trans hg, h2.trans ha⟩

theorem absorbInto_ensures (p : Progress) (item : List Nat × Nat) :
    (t.absorbInto dataset amb epoch p item).Ensures
      (fun p' => p'.globalStep = p.globalStep ∧ p'.accumulated.isSome) := by
  unfold absorbInto
  exact ensures_bind (absorb_ensures p item.1) fun r hr => ensures_pure ⟨hr, rfl⟩

/-- A nonempty group takes exactly one step and leaves the running sum empty. -/
theorem groupStep_ensures {p : Progress} {group : List (List Nat × Nat)} (hgroup : group ≠ []) :
    (t.groupStep dataset ckpt amb batchesPerEpoch total epoch p group).Ensures
      (fun p' => p'.globalStep = p.globalStep + 1 ∧ p'.accumulated = none) := by
  unfold groupStep
  -- after `k` micro-batches the step count is unchanged, and the sum is set once `k > 0`
  have hfold := ensures_foldlM (f := t.absorbInto dataset amb epoch) group
    (fun k q => q.globalStep = p.globalStep ∧ (0 < k → q.accumulated.isSome))
    (s := { p with accumulated := none })
    (fun k q item _ ⟨hq, _⟩ => (absorbInto_ensures q item).mono fun q' ⟨h1, h2⟩ =>
      ⟨h1.trans hq, fun _ => h2⟩)
    ⟨rfl, fun h => absurd h (Nat.lt_irrefl 0)⟩
  refine ensures_bind hfold fun q ⟨hq, hsome⟩ => ?_
  obtain ⟨grads, hgrads⟩ := Option.isSome_iff_exists.mp (hsome (List.length_pos_iff.mpr hgroup))
  rw [hgrads, List.getLast?_eq_some_getLast hgroup]
  exact (applyStep_ensures _ _ grads).mono fun p' ⟨h1, h2⟩ => ⟨h1.trans (by rw [hq]), h2⟩

theorem foldlM_congr_mem {σ β : Type} {l : List β} {f g : σ → β → DiskM σ} (s : σ)
    (h : ∀ b ∈ l, ∀ s, f s b = g s b) : l.foldlM f s = l.foldlM g s := by
  induction l generalizing s with
  | nil => rfl
  | cons b l ih =>
    simp only [List.foldlM_cons, h b (List.mem_cons_self ..)]
    congr 1
    funext s'
    exact ih s' fun b' hb' => h b' (List.mem_cons_of_mem b hb')

/-- The micro-batches of a group that close no step only add to the running sum, and the
last one closes the step: walking the group is one `groupStep`. -/
theorem foldlM_batch_group {N : List (List Nat)} {s : Nat} {p : Progress}
    (hp : p.accumulated = none) (hN : N ≠ [])
    (hinner : ∀ i, i + 1 < N.length →
      endsStep t.args.gradientAccumulationSteps batchesPerEpoch (s + i) = false)
    (hlast : endsStep t.args.gradientAccumulationSteps batchesPerEpoch (s + (N.length - 1)) = true) :
    (N.zipIdx s).foldlM (t.batch dataset ckpt amb batchesPerEpoch total epoch) p =
      t.groupStep dataset ckpt amb batchesPerEpoch total epoch p (N.zipIdx s) := by
  obtain ⟨M, x, rfl⟩ := (List.eq_nil_or_concat N).resolve_left hN
  simp only [List.concat_eq_append] at hinner hlast ⊢
  have hsplit : (M ++ [x]).zipIdx s = M.zipIdx s ++ [(x, s + M.length)] := by
    simp [List.zipIdx_append]
  have hstart : { p with accumulated := none } = p := by
    cases p
    simp only at hp
    rw [hp]
  have hfront : (M.zipIdx s).foldlM (t.batch dataset ckpt amb batchesPerEpoch total epoch) p =
      (M.zipIdx s).foldlM (t.absorbInto dataset amb epoch) p := by
    refine foldlM_congr_mem p fun ⟨ix, bi⟩ hmem q => ?_
    obtain ⟨hle, hlt, -⟩ := List.mem_zipIdx hmem
    have hin := hinner (bi - s) (by simp only [List.length_append, List.length_singleton]; omega)
    rw [show s + (bi - s) = bi by omega] at hin
    exact batch_of_not_endsStep hin
  have hend : endsStep t.args.gradientAccumulationSteps batchesPerEpoch (s + M.length) = true := by
    simpa using hlast
  unfold groupStep
  rw [hsplit, List.foldlM_append, List.foldlM_append, hfront, hstart, bind_assoc]
  congr 1
  funext q
  simp only [List.foldlM_cons, List.foldlM_nil, bind_pure, batch_of_endsStep hend, absorbInto,
    bind_assoc, pure_bind, List.getLast?_concat]

/-- **An epoch's walk is a walk over groups.**  Starting at a multiple of `gas` with an
empty running sum, the micro-batches up to the end of the epoch are processed exactly as
their groups of `gas` are, each by one `groupStep`.  The recursion takes one group off the
front: its inner micro-batches close no step (`endsStep_inside`) and its last one does,
either as the `gas`-th of the group or as the last of the epoch. -/
theorem foldlM_batch_eq_groups (hgas : 0 < t.args.gradientAccumulationSteps) :
    ∀ (M : List (List Nat)) (s : Nat) (p : Progress), p.accumulated = none →
      s % t.args.gradientAccumulationSteps = 0 → s + M.length = batchesPerEpoch →
      (M.zipIdx s).foldlM (t.batch dataset ckpt amb batchesPerEpoch total epoch) p =
        (chunks t.args.gradientAccumulationSteps (M.zipIdx s)).foldlM
          (t.groupStep dataset ckpt amb batchesPerEpoch total epoch) p
  | [], s, p, _, _, _ => by simp
  | x :: rest, s, p, hp, hs, hlen => by
    have hne : (x :: rest).zipIdx s ≠ [] := by simp
    have hsplit : (x :: rest).zipIdx s =
        ((x :: rest).take t.args.gradientAccumulationSteps).zipIdx s ++
          ((x :: rest).drop t.args.gradientAccumulationSteps).zipIdx
            (s + t.args.gradientAccumulationSteps) := by
      rw [← take_zipIdx, ← drop_zipIdx, List.take_append_drop]
    have hgroup : ((x :: rest).take t.args.gradientAccumulationSteps) ≠ [] := by
      simp only [ne_eq, List.take_eq_nil_iff, List.cons_ne_nil, or_false]; omega
    have hfirst : (((x :: rest).take t.args.gradientAccumulationSteps).zipIdx s).foldlM
        (t.batch dataset ckpt amb batchesPerEpoch total epoch) p =
          t.groupStep dataset ckpt amb batchesPerEpoch total epoch p
            (((x :: rest).take t.args.gradientAccumulationSteps).zipIdx s) :=
      foldlM_batch_group hp hgroup
      (fun i hi => by
        simp only [List.length_take] at hi
        exact endsStep_inside hs (by omega) (by omega))
      (by
        simp only [List.length_take]
        by_cases hshort : (x :: rest).length ≤ t.args.gradientAccumulationSteps
        · rw [Nat.min_eq_right hshort]
          exact endsStep_last (by simp only [List.length_cons] at hlen ⊢; omega)
        · rw [Nat.min_eq_left (by omega)]
          exact endsStep_groupEnd hgas hs)
    rw [chunks_of_ne_nil hgas hne, take_zipIdx, drop_zipIdx, List.foldlM_cons, hsplit,
      List.foldlM_append, hfirst]
    by_cases hshort : (x :: rest).length ≤ t.args.gradientAccumulationSteps
    · -- the group was the last one of the epoch
      rw [List.drop_eq_nil_of_le hshort]
      simp
    · -- the remaining micro-batches start a new group with an empty running sum
      have hgroup' : ((x :: rest).take t.args.gradientAccumulationSteps).zipIdx s ≠ [] :=
        fun h => hgroup (List.zipIdx_eq_nil_iff.mp h)
      refine bind_congr (groupStep_ensures hgroup') fun q ⟨_, hq⟩ => ?_
      refine foldlM_batch_eq_groups hgas _ _ q hq ?_ ?_
      · rw [Nat.add_mod_right, hs]
      · simp only [List.length_drop] at hlen ⊢
        omega
termination_by M => M.length
decreasing_by simp only [List.length_drop, List.length_cons]; omega

/-- **An epoch as groups of micro-batches.**  An epoch draws its order, cuts it into
micro-batches of `batchSize`, and runs the groups of `gas` consecutive micro-batches one
after the other, each from an empty running sum to one optimiser step. -/
theorem runEpoch_eq_groups (sampler : WeightedSampler) (p : Progress)
    (hgas : 0 < t.args.gradientAccumulationSteps)
    (hB : (chunks t.args.batchSize (sampler.sample p.rng).1).length = batchesPerEpoch) :
    t.runEpoch dataset ckpt sampler amb batchesPerEpoch total p epoch =
      (chunks t.args.gradientAccumulationSteps
          (chunks t.args.batchSize (sampler.sample p.rng).1).zipIdx).foldlM
        (t.groupStep dataset ckpt amb batchesPerEpoch total epoch)
        { p with rng := (sampler.sample p.rng).2, accumulated := none } := by
  unfold runEpoch
  rcases hdraw : sampler.sample p.rng with ⟨order, rng⟩
  rw [hdraw] at hB
  exact foldlM_batch_eq_groups hgas _ 0 _ rfl (Nat.zero_mod _) (by simpa using hB)

/-- An epoch of `B` micro-batches takes `⌈B / gas⌉` optimiser steps. -/
theorem runEpoch_ensures (sampler : WeightedSampler) (p : Progress)
    (hgas : 0 < t.args.gradientAccumulationSteps)
    (hB : (chunks t.args.batchSize (sampler.sample p.rng).1).length = batchesPerEpoch) :
    (t.runEpoch dataset ckpt sampler amb batchesPerEpoch total p epoch).Ensures
      (fun p' => p'.globalStep = p.globalStep +
        (batchesPerEpoch + t.args.gradientAccumulationSteps - 1) / t.args.gradientAccumulationSteps) := by
  rw [runEpoch_eq_groups sampler p hgas hB]
  have hsteps := ensures_foldlM (f := t.groupStep dataset ckpt amb batchesPerEpoch total epoch)
    (chunks t.args.gradientAccumulationSteps (chunks t.args.batchSize (sampler.sample p.rng).1).zipIdx)
    (fun k q => q.globalStep = p.globalStep + k)
    (s := { p with rng := (sampler.sample p.rng).2, accumulated := none })
    (fun k q group hmem hq => (groupStep_ensures (ne_nil_of_mem_chunks hgas hmem)).mono
      fun q' ⟨h1, _⟩ => by rw [h1, hq, Nat.add_assoc])
    rfl
  simpa [hB] using hsteps

end Groups

/-! ### A run -/

section Run

open DiskM

variable {t : LoRATrainer}

theorem divCeil_zero (a : Nat) : divCeil a 0 = .error (.aborted divisionByZero) := rfl

theorem divCeil_of_ne_zero {a b : Nat} (hb : b ≠ 0) : divCeil a b = .ok ((a + b - 1) / b) := by
  unfold divCeil
  rw [if_neg (by simpa using hb)]

/-- Dividing up to the next whole number succeeds exactly for a nonzero divisor. -/
theorem divCeil_eq_ok {a b c : Nat} : divCeil a b = .ok c ↔ b ≠ 0 ∧ c = (a + b - 1) / b := by
  by_cases hb : b = 0
  · subst hb
    rw [divCeil_zero]
    constructor
    · intro h
      cases h
    · intro h
      exact absurd rfl h.1
  · rw [divCeil_of_ne_zero hb]
    constructor
    · intro h
      cases h
      exact ⟨hb, rfl⟩
    · rintro ⟨-, rfl⟩
      rfl

/-- Every count that must be positive is positive in hyperparameters that pass validation. -/
theorem validate_counts_pos {a : TrainingArguments} (h : a.validate = .ok ()) :
    0 < a.epochs ∧ 0 < a.batchSize ∧ 0 < a.gradientAccumulationSteps ∧ 0 < a.loggingSteps ∧
      0 < a.saveSteps ∧ 0 < a.maxLength := by
  unfold TrainingArguments.validate at h
  split at h
  · cases h
  · rename_i hnone
    simp only [TrainingArguments.zeroSetting?, Option.map_eq_none_iff, List.find?_eq_none,
      List.mem_cons, List.mem_nil_iff, or_false, beq_iff_eq, forall_eq_or_imp, forall_eq] at hnone
    omega

/-- One epoch's order has an index for each of the sampler's samples. -/
theorem WeightedSampler.length_sample (s : WeightedSampler) (r : StdRng) :
    (s.sample r).1.length = s.numSamples := by
  unfold WeightedSampler.sample
  have hstep : ∀ (f : List Nat × StdRng → Nat → List Nat × StdRng),
      (∀ x i, (f x i).1.length = x.1.length + 1) →
      ∀ (l : List Nat) (x : List Nat × StdRng), (l.foldl f x).1.length = x.1.length + l.length := by
    intro f hf l
    induction l with
    | nil => simp
    | cons i l ih =>
      intro x
      rw [List.foldl_cons, ih, hf, List.length_cons]
      omega
  rw [hstep]
  · simp
  -- each draw appends one index, whatever the generator's state
  · rintro ⟨acc, r⟩ _
    simp

/-- A sampler draws the number of samples it was made with. -/
theorem WeightedSampler.numSamples_new {ws : List Float} {n : Nat} {s : WeightedSampler}
    (h : WeightedSampler.new ws n = .ok s) : s.numSamples = n := by
  unfold WeightedSampler.new at h
  extract_lets m scaled total at h
  split at h
  · cases h
  · split at h
    · cases h
      rfl
    · cases h

/-- A dataset's sampler draws as many indices as the dataset has examples. -/
theorem WeightedDataset.sampler_numSamples {d : WeightedDataset} {s : WeightedSampler}
    (h : d.sampler = .ok s) : s.numSamples = d.len :=
  WeightedSampler.numSamples_new h

/-- With a nonzero batch size and accumulation count, the run's planned step count is the
number of steps of an epoch times the epochs, in 64 bits. -/
theorem totalSteps_of_ne_zero {a : TrainingArguments} (n : Nat) (hb : a.batchSize ≠ 0)
    (hg : a.gradientAccumulationSteps ≠ 0) :
    a.totalSteps n = .ok (((n + a.batchSize - 1) / a.batchSize + a.gradientAccumulationSteps - 1) /
      a.gradientAccumulationSteps * a.epochs % sizeModulus) := by
  simp only [TrainingArguments.totalSteps, TrainingArguments.stepsPerEpoch,
    TrainingArguments.batchesPerEpoch, divCeil_of_ne_zero hb, divCeil_of_ne_zero hg]
  rfl

/-- The planned step count can only be computed with a nonzero accumulation count. -/
theorem gas_ne_zero_of_totalSteps {a : TrainingArguments} {n total : Nat}
    (h : a.totalSteps n = .ok total) : a.gradientAccumulationSteps ≠ 0 := by
  intro hg
  simp only [TrainingArguments.totalSteps, TrainingArguments.stepsPerEpoch,
    TrainingArguments.batchesPerEpoch, hg, divCeil_zero] at h
  by_cases hb : a.batchSize = 0
  · rw [hb, divCeil_zero] at h
    cases h
  · rw [divCeil_of_ne_zero hb] at h
    cases h

theorem ensures_throw_bind {α β : Type} {e : Failure} {f : α → DiskM β} {P : β → Prop} :
    (throw e >>= f).Ensures P :=
  ensures_bind (Q := fun _ => False) ensures_throw fun _ h => h.elim

theorem train_globalStep (model : CausalLM) (dataset : WeightedDataset) (amb : Ambient) :
    (t.train model dataset amb).Ensures (fun r => r.1.globalStep = t.args.epochs *
      (((dataset.len + t.args.batchSize - 1) / t.args.batchSize +
        t.args.gradientAccumulationSteps - 1) / t.args.gradientAccumulationSteps)) := by
  unfold train
  dsimp only
  split
  · exact ensures_throw_bind
  split
  · exact ensures_throw_bind
  refine ensures_bind (ensures_liftExcept fun s hs => WeightedDataset.sampler_numSamples hs)
    fun sampler hn => ?_
  refine ensures_bind (ensures_liftExcept fun B hB => divCeil_eq_ok.mp hB) fun B ⟨hb, hB⟩ => ?_
  refine ensures_bind (ensures_liftExcept fun total ht => gas_ne_zero_of_totalSteps ht)
    fun total hg => ?_
  -- each epoch adds the steps of one epoch to the count
  refine ensures_bind (ensures_foldlM (List.range t.args.epochs)
    (fun k q => q.globalStep = k * ((B + t.args.gradientAccumulationSteps - 1) /
      t.args.gradientAccumulationSteps))
    (fun k q e _ hq => (runEpoch_ensures sampler q (Nat.pos_of_ne_zero hg)
      (by rw [length_chunks, WeightedSampler.length_sample, hn, hB])).mono
        fun q' h => by rw [h, hq, Nat.succ_mul])
    (by simp)) fun p hp => ensures_pure ?_
  simp only [List.length_range] at hp
  rw [hp, hB, Nat.mul_comm]

/-- **The optimiser steps of a training run.**  Take hyperparameters that pass validation
and a dataset of `n ≥ 1` examples, and let `B = ⌈n / batchSize⌉` and `S = ⌈B / gas⌉`.
* A run that returns has taken `epochs · S` steps, which is the planned total (in 64 bits).
* Every epoch's order has `n` indices, cut in order into `B` micro-batches, all of
  `batchSize` but the last, which holds the rest.
* The steps of an epoch take its micro-batches in consecutive groups of `gas`, the last
  group holding the rest, and each group adds each of its micro-batches' gradients, taken
  of the loss over `gas`, to a sum that starts empty, and applies the sum in one step. -/
theorem train_steps_accumulate_in_groups (t : LoRATrainer) (model : CausalLM)
    (dataset : WeightedDataset) (amb : Ambient)
    (hv : t.args.validate = .ok ()) (hn : 0 < dataset.len) :
    let n := dataset.len
    let b := t.args.batchSize
    let gas := t.args.gradientAccumulationSteps
    let B := (n + b - 1) / b
    let S := (B + gas - 1) / gas
    (t.train model dataset amb).Ensures (fun r => r.1.globalStep = t.args.epochs * S) ∧
    t.args.totalSteps n = .ok (t.args.epochs * S % sizeModulus) ∧
    (∀ sampler, dataset.sampler = .ok sampler → ∀ rng, (sampler.sample rng).1.length = n) ∧
    (∀ order : List Nat, order.length = n →
      (chunks b order).flatten = order ∧
      (chunks b order).map List.length = List.replicate (B - 1) b ++ [n - (B - 1) * b]) ∧
    (∀ micro : List (List Nat), micro.length = B →
      (chunks gas micro.zipIdx).flatten = micro.zipIdx ∧
      (chunks gas micro.zipIdx).map List.length =
        List.replicate (S - 1) gas ++ [B - (S - 1) * gas]) ∧
    (∀ ckpt sampler total p epoch, sampler.numSamples = n →
      t.runEpoch dataset ckpt sampler amb B total p epoch =
        (chunks gas (chunks b (sampler.sample p.rng).1).zipIdx).foldlM
          (t.groupStep dataset ckpt amb B total epoch)
          { p with rng := (sampler.sample p.rng).2, accumulated := none }) := by
  intro n b gas B S
  obtain ⟨-, hb, hgas, -⟩ := validate_counts_pos hv
  have hB : 0 < B := Nat.div_pos (by omega) hb
  refine ⟨train_globalStep model dataset amb, ?_, ?_, ?_, ?_, ?_⟩
  · rw [totalSteps_of_ne_zero n (Nat.ne_of_gt hb) (Nat.ne_of_gt hgas), Nat.mul_comm]
  · intro sampler hs rng
    rw [WeightedSampler.length_sample, WeightedDataset.sampler_numSamples hs]
  · intro order horder
    have hne : order ≠ [] := List.ne_nil_of_length_pos (by omega)
    refine ⟨flatten_chunks hb order, ?_⟩
    rw [map_length_chunks hb order hne, horder]
  · intro micro hmicro
    have hne : micro.zipIdx ≠ [] := List.ne_nil_of_length_pos (by simp; omega)
    refine ⟨flatten_chunks hgas micro.zipIdx, ?_⟩
    rw [map_length_chunks hgas micro.zipIdx hne, List.length_zipIdx, hmicro]
  · intro ckpt sampler total p epoch hs
    exact runEpoch_eq_groups sampler p hgas
      (by rw [length_chunks, WeightedSampler.length_sample, hs])

/-- The steps of a run at the default hyperparameters, on one example of two tokens and a
model without layers. -/
theorem train_steps_accumulate_in_groups_at_defaults :
    let t : LoRATrainer := ⟨{}, "out", none⟩
    let dataset : WeightedDataset := ⟨[TokenizedExample.ofTokenIds [1, 2] 2 0], [1.0], 2, 0⟩
    let config : ModelConfig :=
      { vocabSize := 3, hiddenSize := 1, intermediateSize := 1, numHiddenLayers := 0
        numAttentionHeads := 1 }
    let model : CausalLM := ⟨config, {}, PrecisionConfig.ofMode .fullSingle,
      Tensor.zeros .f32 [3, 1], [], ⟨Tensor.zeros .f32 [1], 1e-6⟩, none, []⟩
    let amb : Ambient := ⟨fun _ _ _ => 0.5, fun _ => "1970-01-01T00:00:00Z"⟩
    t.args.validate = .ok () ∧ 0 < dataset.len ∧
    let n := dataset.len
    let b := t.args.batchSize
    let gas := t.args.gradientAccumulationSteps
    let B := (n + b - 1) / b
    let S := (B + gas - 1) / gas
    (t.train model dataset amb).Ensures
      (fun r => r.1.globalStep = t.args.epochs * S) ∧
    t.args.totalSteps n = .ok (t.args.epochs * S % sizeModulus) ∧
    (∀ sampler, dataset.sampler = .ok sampler → ∀ rng, (sampler.sample rng).1.length = n) ∧
    (∀ order : List Nat, order.length = n →
      (chunks b order).flatten = order ∧
      (chunks b order).map List.length = List.replicate (B - 1) b ++ [n - (B - 1) * b]) ∧
    (∀ micro : List (List Nat), micro.length = B →
      (chunks gas micro.zipIdx).flatten = micro.zipIdx ∧
      (chunks gas micro.zipIdx).map List.length =
        List.replicate (S - 1) gas ++ [B - (S - 1) * gas]) ∧
    (∀ ckpt sampler total p epoch, sampler.numSamples = n →
      t.runEpoch dataset ckpt sampler amb B total p epoch =
        (chunks gas (chunks b (sampler.sample p.rng).1).zipIdx).foldlM
          (t.groupStep dataset ckpt amb B total epoch)
          { p with rng := (sampler.sample p.rng).2, accumulated := none }) :=
  ⟨rfl, by decide, train_steps_accumulate_in_groups _ _ _ _ rfl (by decide)⟩

end Run

end LoRATrainer

end LowRankTuner
