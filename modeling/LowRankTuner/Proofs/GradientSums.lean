import Mathlib
import LowRankTuner.Training.Trainer
import LowRankTuner.Proofs.TensorElements
/-!
# Summing gradients over micro-batches

Between two optimiser steps the trainer keeps a running sum of gradients, by parameter name:
each micro-batch's gradient set is added to it with `accumulate` (`gatherGrads` folds it over
the sets of consecutive micro-batches, from no sum).  For every trainable name, a gradient of
the new set is added onto the sum so far, and a name the new set lacks keeps its sum; the
new set's other entries are kept as they come, and an earlier set's other entries are dropped.

* `accumulate_lookup`: one call, name by name, when the names are distinct and the gradients
  of a name have one shape.
* `gatherGrads_lookup`: over any number of sets, every trainable name holds the sum of its
  gradients over the sets that have one (`gradSum`, the earliest first, each later one added
  onto the sum of those before it), and nothing when none has one; any other name holds what the
  last set holds.
* `accumulate_keys`: a name's entry is replaced in place or added when missing, so sets with
  one entry per name give a sum with one entry per name.
* `gatherGrads_sums_per_name` adds that gathering a prefix and then the rest gives the sums of
  the whole: the rest's gradients are added onto the prefix's sums.
-/

namespace LowRankTuner

/-! ## Sums of gradients -/

/-- A gradient added onto a running sum: element by element in the gradient's format, the
gradient on the left, as the trainer adds them; onto no sum it is the sum. -/
def addOnto (g : Tensor) : Option Tensor → Tensor
  | some s => Tensor.zipWith (g.dtype.lift₂ (· + ·)) g s
  | none => g

/-- The sum of gradients, the earliest first: each one added onto the sum of those before
it; no gradients have no sum. -/
def gradSum (gs : List Tensor) : Option Tensor := gs.foldl (fun s g => some (addOnto g s)) none

/-- A set's gradient for a name, if it has one, added onto the running sum. -/
def addGrad? (o : Option Tensor) (s : Option Tensor) : Option Tensor :=
  match o with
  | some g => some (addOnto g s)
  | none => s

@[simp] theorem addGrad?_none (s : Option Tensor) : addGrad? none s = s := rfl

@[simp] theorem addGrad?_some (g : Tensor) (s : Option Tensor) :
    addGrad? (some g) s = some (addOnto g s) := rfl

@[simp] theorem shape_addOnto (g : Tensor) (s : Option Tensor) : (addOnto g s).shape = g.shape := by
  cases s <;> rfl

@[simp] theorem gradSum_nil : gradSum [] = none := rfl

theorem gradSum_append (gs hs : List Tensor) :
    gradSum (gs ++ hs) = hs.foldl (fun s g => some (addOnto g s)) (gradSum gs) := by
  rw [gradSum, List.foldl_append]
  rfl

/-- Folding the optional gradients of a name over the sets is folding the gradients the sets
have. -/
theorem foldl_addGrad? (os : List (Option Tensor)) (s : Option Tensor) :
    os.foldl (fun s o => addGrad? o s) s = (os.filterMap id).foldl (fun s g => some (addOnto g s)) s := by
  induction os generalizing s with
  | nil => rfl
  | cons o os ih =>
    cases o with
    | none => simpa using ih s
    | some g => simpa using ih (some (addOnto g s))

/-- A name has a sum exactly when it has a gradient. -/
theorem gradSum_eq_none_iff (gs : List Tensor) : gradSum gs = none ↔ gs = [] := by
  cases gs using List.reverseRecOn with
  | nil => simp
  | append_singleton gs g =>
    rw [gradSum_append]
    simp

/-- Element by element, adding gradients of one format and shape onto a sum adds their
elements at each position, in the same order and in the format's arithmetic. -/
theorem foldl_addOnto_is {d : DType} {s : Shape} :
    ∀ (gs : List Tensor) {t : Tensor} {f : Nat → Float32}, t.Is d s f →
      (∀ g ∈ gs, g.Is d s g.get) →
      ∃ t', gs.foldl (fun s g => some (addOnto g s)) (some t) = some t' ∧
        t'.Is d s (fun i => gs.foldl (fun a g => d.lift₂ (· + ·) (g.get i) a) (f i))
  | [], t, _, ht, _ => ⟨t, rfl, ht⟩
  | g :: gs, t, f, ht, hgs => by
    have hg := hgs g List.mem_cons_self
    have hstep : (addOnto g (some t)).Is d s (fun i => d.lift₂ (· + ·) (g.get i) (f i)) := by
      rw [addOnto, hg.dtype_eq]
      exact hg.zipWith ht _
    exact foldl_addOnto_is gs hstep fun x hx => hgs x (List.mem_cons_of_mem g hx)

/-! ## Lookups in gradient sets -/

section Lookup

variable {n v k : String} {t x : Tensor}

theorem lookup_cons_ne (es : List (String × Tensor)) (hv : v ≠ k) :
    ((k, x) :: es).lookup v = es.lookup v := by
  simp [List.lookup_cons, beq_false_of_ne hv]

theorem lookup_map_replace (acc : List (String × Tensor)) (hv : v ≠ n) :
    (acc.map fun e => if e.1 == n then (n, t) else e).lookup v = acc.lookup v := by
  induction acc with
  | nil => rfl
  | cons e acc ih =>
    obtain ⟨k, x⟩ := e
    by_cases hk : k = n
    · subst hk
      simp only [List.map_cons, beq_self_eq_true, ↓reduceIte]
      rw [lookup_cons_ne _ hv, lookup_cons_ne _ hv, ih]
    · simp only [List.map_cons, beq_false_of_ne hk, Bool.false_eq_true, ↓reduceIte]
      by_cases hvk : v = k
      · subst hvk
        rw [List.lookup_cons_self, List.lookup_cons_self]
      · rw [lookup_cons_ne _ hvk, lookup_cons_ne _ hvk, ih]

theorem lookup_map_replace_self (acc : List (String × Tensor)) {g : Tensor}
    (h : acc.lookup n = some g) :
    (acc.map fun e => if e.1 == n then (n, t) else e).lookup n = some t := by
  induction acc with
  | nil => cases h
  | cons e acc ih =>
    obtain ⟨k, x⟩ := e
    by_cases hk : k = n
    · subst hk
      simp only [List.map_cons, beq_self_eq_true, ↓reduceIte, List.lookup_cons_self]
    · rw [lookup_cons_ne _ (Ne.symm hk)] at h
      simp only [List.map_cons, beq_false_of_ne hk, Bool.false_eq_true, ↓reduceIte]
      rw [lookup_cons_ne _ (Ne.symm hk), ih h]

theorem lookup_append_singleton (acc : List (String × Tensor)) (h : acc.lookup n = none) :
    (acc ++ [(n, t)]).lookup v = if v = n then some t else acc.lookup v := by
  induction acc with
  | nil =>
    by_cases hv : v = n
    · subst hv
      simp
    · simp [lookup_cons_ne _ hv, hv]
  | cons e acc ih =>
    obtain ⟨k, x⟩ := e
    have hk : n ≠ k := fun hk => by simp [hk] at h
    rw [lookup_cons_ne _ hk] at h
    by_cases hvk : v = k
    · subst hvk
      simp [Ne.symm hk]
    · rw [List.cons_append, lookup_cons_ne _ hvk, lookup_cons_ne _ hvk, ih h]

end Lookup

/-! ## One call of `accumulate` -/

section Accumulate

/-- The step of `accumulate` for one name: the previous sum's gradient for it, if any, added
to the incoming one, or kept when the incoming set has none. -/
abbrev accumulateName (prev : List (String × Tensor)) (acc : List (String × Tensor)) (name : String) :
    Except Failure (List (String × Tensor)) :=
  match prev.lookup name with
  | none => pure acc
  | some p =>
    match acc.lookup name with
    | some g => do
      let sum ← (g.add p).mapError (.tensor ·.message)
      pure (acc.map fun e => if e.1 == name then (name, sum) else e)
    | none => pure (acc ++ [(name, p)])

theorem accumulate_some (prev incoming : List (String × Tensor)) (names : List String) :
    accumulate (some prev) incoming names = names.foldlM (accumulateName prev) incoming := rfl

/-- **One name.**  Its entry becomes its gradient added onto the previous sum, and no other
entry changes. -/
theorem accumulateName_lookup {prev acc : List (String × Tensor)} {n : String}
    (hshape : ∀ g p, acc.lookup n = some g → prev.lookup n = some p → g.shape = p.shape) :
    ∃ acc', accumulateName prev acc n = .ok acc' ∧
      acc'.lookup n = addGrad? (acc.lookup n) (prev.lookup n) ∧
      ∀ v, v ≠ n → acc'.lookup v = acc.lookup v := by
  cases hp : prev.lookup n with
  | none =>
    refine ⟨acc, by simp [accumulateName, hp]; rfl, ?_, fun _ _ => rfl⟩
    cases acc.lookup n <;> rfl
  | some p =>
    cases hg : acc.lookup n with
    | none =>
      refine ⟨acc ++ [(n, p)], by simp [accumulateName, hp, hg]; rfl, ?_, fun v hv => ?_⟩
      · simp [lookup_append_singleton acc hg]
      · simp [lookup_append_singleton acc hg, hv]
    | some g =>
      -- the two gradients of one name have one shape, so they add
      have hadd : g.add p = .ok (Tensor.zipWith (g.dtype.lift₂ (· + ·)) g p) := by
        simp [Tensor.add, Tensor.binary, hshape g p hg hp]
      refine ⟨acc.map fun e => if e.1 == n then (n, Tensor.zipWith (g.dtype.lift₂ (· + ·)) g p) else e,
        by simp [accumulateName, hp, hg, hadd, Except.mapError],
        by rw [lookup_map_replace_self acc hg]; rfl, fun v hv => lookup_map_replace acc hv⟩

/-- **One call.**  With distinct trainable names whose gradients in the incoming set and in
the previous sum have one shape, every trainable name holds its incoming gradient added onto
its previous sum, and every other name what the incoming set holds. -/
theorem accumulate_lookup {prev : Option (List (String × Tensor))}
    {incoming : List (String × Tensor)} {names : List String} (hnd : names.Nodup)
    (hshape : ∀ v ∈ names, ∀ g p, incoming.lookup v = some g →
      prev.bind (·.lookup v) = some p → g.shape = p.shape) :
    ∃ acc, accumulate prev incoming names = .ok acc ∧
      ∀ v, acc.lookup v =
        if v ∈ names then addGrad? (incoming.lookup v) (prev.bind (·.lookup v)) else incoming.lookup v := by
  cases prev with
  | none =>
    refine ⟨incoming, rfl, fun v => ?_⟩
    split <;> cases incoming.lookup v <;> rfl
  | some prev =>
    rw [accumulate_some]
    simp only [Option.bind_some] at hshape ⊢
    -- induction over the names still to add, each changing its own entry only
    induction names generalizing incoming with
    | nil => exact ⟨incoming, rfl, fun v => by simp⟩
    | cons n rest ih =>
      obtain ⟨hn, hrest⟩ := List.nodup_cons.1 hnd
      obtain ⟨acc₁, h₁, hn₁, hother₁⟩ := accumulateName_lookup (hshape n List.mem_cons_self)
      have hshape₁ : ∀ v ∈ rest, ∀ g p, acc₁.lookup v = some g → prev.lookup v = some p →
          g.shape = p.shape := fun v hv g p hg hp => by
        rw [hother₁ v (fun h => hn (h ▸ hv))] at hg
        exact hshape v (List.mem_cons_of_mem n hv) g p hg hp
      obtain ⟨acc, h, hacc⟩ := ih hrest hshape₁
      refine ⟨acc, by rw [List.foldlM_cons, h₁]; exact h, fun v => ?_⟩
      rw [hacc v]
      by_cases hvn : v = n
      · subst hvn
        simp [hn, hn₁]
      · simp [hvn, hother₁ v hvn]

/-! ### One entry per name -/

theorem not_mem_keys_of_lookup {acc : List (String × Tensor)} {n : String}
    (h : acc.lookup n = none) : n ∉ acc.map (·.1) := by
  intro hmem
  obtain ⟨p, hp, rfl⟩ := List.mem_map.1 hmem
  simpa using List.lookup_eq_none_iff.1 h p hp

theorem keys_map_replace (acc : List (String × Tensor)) (n : String) (t : Tensor) :
    (acc.map fun e => if e.1 == n then (n, t) else e).map (·.1) = acc.map (·.1) := by
  rw [List.map_map]
  refine List.map_congr_left fun e _ => ?_
  by_cases h : e.1 = n <;> simp [h]

/-- A name's step replaces its entry in place or adds it when there is none, so the incoming
set's names stay distinct. -/
theorem accumulateName_keys {prev acc acc' : List (String × Tensor)} {n : String}
    (hacc : (acc.map (·.1)).Nodup) (h : accumulateName prev acc n = .ok acc') :
    (acc'.map (·.1)).Nodup := by
  cases hp : prev.lookup n with
  | none =>
    simp only [accumulateName, hp] at h
    cases h
    exact hacc
  | some p =>
    cases hg : acc.lookup n with
    | none =>
      simp only [accumulateName, hp, hg] at h
      cases h
      rw [List.map_append, List.nodup_append]
      refine ⟨hacc, List.nodup_singleton _, fun a ha b hb hab => ?_⟩
      -- the added name had no entry
      simp only [List.map_cons, List.map_nil, List.mem_singleton] at hb
      subst hab
      exact not_mem_keys_of_lookup hg (hb ▸ ha)
    | some g =>
      simp only [accumulateName, hp, hg] at h
      cases hadd : g.add p with
      | error e => simp [hadd, Except.mapError] at h
      | ok t =>
        simp only [hadd, Except.mapError] at h
        cases h
        rw [keys_map_replace]
        exact hacc

theorem accumulate_keys {prev : Option (List (String × Tensor))}
    {incoming acc : List (String × Tensor)} {names : List String}
    (hinc : (incoming.map (·.1)).Nodup) (h : accumulate prev incoming names = .ok acc) :
    (acc.map (·.1)).Nodup := by
  cases prev with
  | none =>
    cases h
    exact hinc
  | some prev =>
    rw [accumulate_some] at h
    -- each name's step keeps the names distinct
    induction names generalizing incoming with
    | nil =>
      cases h
      exact hinc
    | cons n rest ih =>
      rw [List.foldlM_cons] at h
      cases h₁ : accumulateName prev incoming n with
      | error e =>
        rw [h₁] at h
        cases h
      | ok acc₁ =>
        rw [h₁] at h
        exact ih (accumulateName_keys hinc h₁) h

end Accumulate

/-! ## Sums over many micro-batches -/

/-- The running sum `st` after the gradient sets of further micro-batches. -/
def gatherOnto (names : List String) (st : Option (List (String × Tensor)))
    (sets : List (List (String × Tensor))) : Except Failure (Option (List (String × Tensor))) :=
  sets.foldlM (fun acc g => some <$> accumulate acc g names) st

/-- The running sum after the gradient sets of consecutive micro-batches, from no sum, as
the trainer gathers them between two steps. -/
def gatherGrads (names : List String) (sets : List (List (String × Tensor))) :
    Except Failure (Option (List (String × Tensor))) :=
  gatherOnto names none sets

theorem gatherGrads_append (names : List String) (pre rest : List (List (String × Tensor))) :
    gatherGrads names (pre ++ rest) = gatherGrads names pre >>= fun st => gatherOnto names st rest :=
  List.foldlM_append

section Gather

variable {names : List String} {shapes : String → Shape}

/-- Every gradient of a trainable name has that name's shape. -/
def ShapedBy (names : List String) (shapes : String → Shape) (set : List (String × Tensor)) : Prop :=
  ∀ v ∈ names, ∀ g, set.lookup v = some g → g.shape = shapes v

/-- **The running sum, from any start.**  Folding over more sets adds each trainable name's
gradients onto its sum so far, and leaves every other name with what the last set holds. -/
theorem gatherOnto_lookup (hnd : names.Nodup) :
    ∀ (sets : List (List (String × Tensor))) (st : Option (List (String × Tensor))),
      (∀ s ∈ sets, ShapedBy names shapes s) → (∀ acc, st = some acc → ShapedBy names shapes acc) →
      ∃ st', gatherOnto names st sets = .ok st' ∧
        (∀ v ∈ names, st'.bind (·.lookup v) =
          (sets.map (·.lookup v)).foldl (fun s o => addGrad? o s) (st.bind (·.lookup v))) ∧
        (∀ v, v ∉ names → sets ≠ [] → st'.bind (·.lookup v) = (sets.getLast?.bind (·.lookup v))) ∧
        (sets ≠ [] → st'.isSome)
  | [], st, _, _ => ⟨st, rfl, fun _ _ => rfl, fun _ _ h => absurd rfl h, fun h => absurd rfl h⟩
  | g :: sets, st, hsets, hst => by
    have hg := hsets g List.mem_cons_self
    obtain ⟨acc, hacc, hlook⟩ := @accumulate_lookup st g names hnd fun v hv x p hx hp => by
      cases st with
      | none => cases hp
      | some s => rw [hg v hv x hx, hst s rfl v hv p (by simpa using hp)]
    -- the new sum keeps the shapes: a sum has the shape of the gradient added
    have hshaped : ShapedBy names shapes acc := fun v hv x hx => by
      rw [hlook v, if_pos hv] at hx
      cases hgv : g.lookup v with
      | none =>
        rw [hgv, addGrad?_none] at hx
        cases st with
        | none => cases hx
        | some s => exact hst s rfl v hv x (by simpa using hx)
      | some y =>
        rw [hgv, addGrad?_some, Option.some.injEq] at hx
        rw [← hx, shape_addOnto, hg v hv y hgv]
    obtain ⟨st', hrun, hnames, hothers, hsome⟩ := gatherOnto_lookup hnd sets (some acc)
      (fun s hs => hsets s (List.mem_cons_of_mem g hs)) (fun a ha => by cases ha; exact hshaped)
    -- a sum stays once there is one
    have hsome' : st'.isSome := by
      cases sets with
      | nil => cases hrun; rfl
      | cons _ _ => exact hsome (List.cons_ne_nil _ _)
    refine ⟨st', by rw [gatherOnto, List.foldlM_cons]; simp [hacc]; exact hrun, fun v hv => ?_, fun v hv _ => ?_,
      fun _ => hsome'⟩
    · rw [hnames v hv, List.map_cons, List.foldl_cons]
      simp [hlook v, hv]
    · cases sets with
      | nil =>
        cases hrun
        simp [hlook v, hv]
      | cons g' sets' =>
        rw [hothers v hv (List.cons_ne_nil _ _)]
        simp

/-- Sets with distinct names each leave a running sum with distinct names. -/
theorem gatherOnto_keys : ∀ (sets : List (List (String × Tensor)))
    (st st' : Option (List (String × Tensor))), (∀ s ∈ sets, (s.map (·.1)).Nodup) →
    (∀ a, st = some a → (a.map (·.1)).Nodup) → gatherOnto names st sets = .ok st' →
    ∀ a, st' = some a → (a.map (·.1)).Nodup
  | [], st, st', _, hst, h => by
    cases h
    exact hst
  | g :: sets, st, st', hsets, _, h => by
    rw [gatherOnto, List.foldlM_cons] at h
    cases hacc : accumulate st g names with
    | error e =>
      rw [hacc] at h
      cases h
    | ok acc =>
      rw [hacc] at h
      exact gatherOnto_keys sets (some acc) st' (fun s hs => hsets s (List.mem_cons_of_mem g hs))
        (fun a ha => by
          cases ha
          exact accumulate_keys (hsets g List.mem_cons_self) hacc) h

/-- **Gathering the gradient sets of micro-batches.**  With distinct trainable names, each of
whose gradients has the name's shape, gathering `k ≥ 1` sets gives a sum in which every
trainable name holds the sum of its gradients over the sets that have one, and nothing exactly
when none has; every other name holds what the last set holds, so an earlier set's entry of it
never enters a sum. -/
theorem gatherGrads_lookup (hnd : names.Nodup) {sets : List (List (String × Tensor))}
    (hsets : ∀ s ∈ sets, ShapedBy names shapes s) (hne : sets ≠ []) :
    ∃ acc, gatherGrads names sets = .ok (some acc) ∧
      (∀ v ∈ names, acc.lookup v = gradSum (sets.filterMap (·.lookup v))) ∧
      (∀ v ∈ names, acc.lookup v = none ↔ ∀ s ∈ sets, s.lookup v = none) ∧
      (∀ v, v ∉ names → acc.lookup v = (sets.getLast hne).lookup v) := by
  obtain ⟨st, hrun, hnames, hothers, hsome⟩ :=
    @gatherOnto_lookup names shapes hnd sets none hsets (fun _ h => by cases h)
  obtain ⟨acc, rfl⟩ := Option.isSome_iff_exists.1 (hsome hne)
  have hsum : ∀ v ∈ names, acc.lookup v = gradSum (sets.filterMap (·.lookup v)) := fun v hv => by
    have := hnames v hv
    simp only [Option.bind_some, Option.bind_none] at this
    rw [this, foldl_addGrad?, gradSum, List.filterMap_map]
    rfl
  refine ⟨acc, hrun, hsum, fun v hv => ?_, fun v hv => ?_⟩
  · rw [hsum v hv, gradSum_eq_none_iff, List.filterMap_eq_nil_iff]
  · simpa [List.getLast?_eq_some_getLast hne] using hothers v hv hne

/-- **Per-name sums, in any grouping.**  Gathering `k ≥ 1` gradient sets from no sum gives
every trainable name the sum of its gradients over the sets that have one, and no entry
exactly when none has; other names never enter a sum.  Cutting the sets into a non-empty
prefix and the rest, the prefix's running sum continued with the rest is the same store, and
every trainable name's sum is its later gradients added onto the prefix's sum. -/
theorem gatherGrads_sums_per_name (hnd : names.Nodup) {sets : List (List (String × Tensor))}
    (hsets : ∀ s ∈ sets, ShapedBy names shapes s) (hne : sets ≠ []) :
    ∃ acc, gatherGrads names sets = .ok (some acc) ∧
      (∀ v ∈ names, acc.lookup v = gradSum (sets.filterMap (·.lookup v))) ∧
      (∀ v ∈ names, acc.lookup v = none ↔ ∀ s ∈ sets, s.lookup v = none) ∧
      ((∀ s ∈ sets, (s.map (·.1)).Nodup) → (acc.map (·.1)).Nodup) ∧
      (∀ v, v ∉ names → acc.lookup v = (sets.getLast hne).lookup v) ∧
      ∀ pre rest, sets = pre ++ rest → pre ≠ [] →
        ∃ accPre, gatherGrads names pre = .ok (some accPre) ∧
          gatherOnto names (some accPre) rest = .ok (some acc) ∧
          ∀ v ∈ names, acc.lookup v =
            (rest.filterMap (·.lookup v)).foldl (fun s g => some (addOnto g s)) (accPre.lookup v) := by
  obtain ⟨acc, hrun, hsum, hnone, hother⟩ := gatherGrads_lookup hnd hsets hne
  refine ⟨acc, hrun, hsum, hnone,
    fun hkeys => gatherOnto_keys sets none (some acc) hkeys (fun _ h => by cases h) hrun acc rfl,
    hother, fun pre rest hsplit hpre => ?_⟩
  subst hsplit
  obtain ⟨accPre, hrunPre, hsumPre, -, -⟩ :=
    gatherGrads_lookup hnd (fun s hs => hsets s (List.mem_append_left rest hs)) hpre
  refine ⟨accPre, ?_, ?_, fun v hv => ?_⟩
  · exact hrunPre
  · rw [gatherGrads_append, hrunPre] at hrun
    exact hrun
  · rw [hsum v hv, hsumPre v hv, List.filterMap_append, gradSum_append]

/-- Two micro-batches, the first with a gradient for one of two trainable names only and a
gradient of an untrained tensor. -/
theorem gatherGrads_sums_two_batches :
    let a₁ : Tensor := ⟨.f32, [2], #[1, 2]⟩
    let a₂ : Tensor := ⟨.f32, [2], #[3, 4]⟩
    let b₂ : Tensor := ⟨.f32, [1], #[5]⟩
    let sets := [[("a", a₁), ("frozen", b₂)], [("b", b₂), ("a", a₂)]]
    let shapes : String → Shape := fun v => if v = "a" then [2] else [1]
    ["a", "b"].Nodup ∧ (∀ s ∈ sets, ShapedBy ["a", "b"] shapes s) ∧ sets ≠ [] ∧
      ∃ acc, gatherGrads ["a", "b"] sets = .ok (some acc) ∧
        (∀ v ∈ ["a", "b"], acc.lookup v = gradSum (sets.filterMap (·.lookup v))) ∧
        (∀ v ∈ ["a", "b"], acc.lookup v = none ↔ ∀ s ∈ sets, s.lookup v = none) ∧
        ((∀ s ∈ sets, (s.map (·.1)).Nodup) → (acc.map (·.1)).Nodup) ∧
        (∀ v, v ∉ ["a", "b"] → acc.lookup v = (sets.getLast (by simp)).lookup v) ∧
        ∀ pre rest, sets = pre ++ rest → pre ≠ [] →
          ∃ accPre, gatherGrads ["a", "b"] pre = .ok (some accPre) ∧
            gatherOnto ["a", "b"] (some accPre) rest = .ok (some acc) ∧
            ∀ v ∈ ["a", "b"], acc.lookup v =
              (rest.filterMap (·.lookup v)).foldl (fun s g => some (addOnto g s))
                (accPre.lookup v) := by
  intro a₁ a₂ b₂ sets shapes
  have hsets : ∀ s ∈ sets, ShapedBy ["a", "b"] shapes s := by
    intro s hs v hv g hg
    simp only [sets, List.mem_cons, List.not_mem_nil, or_false] at hs hv
    rcases hs with rfl | rfl <;> rcases hv with rfl | rfl <;>
      simp [List.lookup_cons] at hg <;> subst hg <;> rfl
  exact ⟨by decide, hsets, by simp [sets], gatherGrads_sums_per_name (by decide) hsets (by simp [sets])⟩

end Gather

end LowRankTuner
