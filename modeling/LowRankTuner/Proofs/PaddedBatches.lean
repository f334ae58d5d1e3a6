import Mathlib
import LowRankTuner.Dataset.Weighted
/-!
# Padded examples and stacked batches

A sequence of ids becomes an example of the dataset's length: its first `maxLength` ids, then
padding.  The attention mask is one over the ids kept and zero over the padding, and the labels
an example contributes to a batch are the ids kept followed by the ignored label.  A token id is
a natural number, so it is never the ignored label: a label is ignored exactly where the mask is
zero, and past the first position some label is kept exactly when two ids or more were kept.

`collate` fails exactly when an index is past the last example; otherwise row `r` of the batch
holds the example at the `r`-th index.
-/

namespace LowRankTuner

/-- Every element of a list past position `n` is `c` exactly when every position past `n`
holds `c`. -/
theorem forall_mem_drop_iff {l : List Int} {c : Int} {n : Nat} :
    (∀ x ∈ l.drop n, x = c) ↔ ∀ t, n ≤ t → t < l.length → l.getD t 0 = c := by
  constructor
  · intro h t hn ht
    have hmem : l[t] ∈ l.drop n := by
      rw [List.mem_iff_getElem]
      exact ⟨t - n, by simp; omega, by simp [Nat.add_sub_cancel' hn]⟩
    simpa [List.getD_eq_getElem?_getD, ht] using h _ hmem
  · intro h x hx
    obtain ⟨i, hi, rfl⟩ := List.mem_iff_getElem.mp hx
    have hi' : n + i < l.length := by simp at hi; omega
    simpa [List.getD_eq_getElem?_getD, hi'] using h (n + i) (Nat.le_add_right n i) hi'

namespace TokenizedExample

/-- Labels under a mask of ones are all kept. -/
theorem map_zip_replicate_one (l : List Int) :
    (l.zip (List.replicate l.length 1)).map
      (fun x => if x.snd = 1 then x.fst else ignoreIndex) = l := by
  induction l with
  | nil => rfl
  | cons x xs ih => simp [List.replicate_succ, ih]

section Padding

variable (ids : List Nat) (L p : Nat)

theorem maskedLabels_ofTokenIds :
    (ofTokenIds ids L p).maskedLabels =
      (ids.take L).map Int.ofNat ++ List.replicate (L - min ids.length L) ignoreIndex := by
  have hlen : (List.take L (List.map Int.ofNat ids)).length = min L ids.length := by simp
  simp [maskedLabels, ofTokenIds, List.zip_append]
  rw [← hlen, map_zip_replicate_one, hlen, Nat.min_comm]

theorem attentionMask_ofTokenIds :
    (ofTokenIds ids L p).attentionMask =
      List.replicate (min ids.length L) 1 ++ List.replicate (L - min ids.length L) 0 := by
  simp [ofTokenIds, Nat.min_comm]

theorem length_maskedLabels_ofTokenIds : (ofTokenIds ids L p).maskedLabels.length = L := by
  rw [maskedLabels_ofTokenIds, List.length_append, List.length_map, List.length_take,
    List.length_replicate]
  omega

theorem length_attentionMask_ofTokenIds : (ofTokenIds ids L p).attentionMask.length = L := by
  rw [attentionMask_ofTokenIds, List.length_append, List.length_replicate, List.length_replicate]
  omega

/-- The real tokens of a padded example are the ids it kept. -/
theorem realTokens_ofTokenIds : (ofTokenIds ids L p).realTokens = min ids.length L := by
  simp [realTokens, attentionMask_ofTokenIds, List.filter_append]

variable {ids L p} {t : Nat}

theorem getD_maskedLabels_ofTokenIds (ht : t < L) :
    (ofTokenIds ids L p).maskedLabels.getD t 0 =
      if t < min ids.length L then (ids.getD t 0 : Int) else ignoreIndex := by
  rw [maskedLabels_ofTokenIds, List.getD_eq_getElem?_getD]
  split
  · rename_i hk
    have hlen : t < ((ids.take L).map Int.ofNat).length := by simp; omega
    rw [List.getElem?_append_left hlen, List.getElem?_map, List.getElem?_take, if_pos ht,
      List.getD_eq_getElem?_getD, List.getElem?_eq_getElem (by omega)]
    rfl
  · rename_i hk
    have hlen : ((ids.take L).map Int.ofNat).length ≤ t := by simp; omega
    rw [List.getElem?_append_right hlen, List.getElem?_replicate, if_pos (by simp; omega)]
    rfl

theorem getD_attentionMask_ofTokenIds (ht : t < L) :
    (ofTokenIds ids L p).attentionMask.getD t 0 = if t < min ids.length L then 1 else 0 := by
  rw [attentionMask_ofTokenIds, List.getD_eq_getElem?_getD]
  split
  · rename_i hk
    have hlen : t < (List.replicate (min ids.length L) 1).length := by simpa using hk
    rw [List.getElem?_append_left hlen, List.getElem?_replicate, if_pos hk]
    rfl
  · rename_i hk
    have hlen : (List.replicate (min ids.length L) 1).length ≤ t := by simp; omega
    rw [List.getElem?_append_right hlen, List.getElem?_replicate, if_pos (by simp; omega)]
    rfl

/-- A label of a padded example is ignored exactly where no id was kept. -/
theorem maskedLabel_ignored_iff (ht : t < L) :
    (ofTokenIds ids L p).maskedLabels.getD t 0 = ignoreIndex ↔ min ids.length L ≤ t := by
  rw [getD_maskedLabels_ofTokenIds ht]
  split
  · rename_i hk
    -- an id is a natural number, never the negative ignored label
    simp only [ignoreIndex]
    omega
  · rename_i hk
    simp only [true_iff]
    omega

/-- A label of a padded example is ignored exactly where its mask is zero. -/
theorem maskedLabel_ignored_iff_mask_zero (ht : t < L) :
    (ofTokenIds ids L p).maskedLabels.getD t 0 = ignoreIndex ↔
      (ofTokenIds ids L p).attentionMask.getD t 0 = 0 := by
  rw [maskedLabel_ignored_iff ht, getD_attentionMask_ofTokenIds ht]
  split <;> omega

/-- Past the first position a label is kept exactly when two ids or more were kept. -/
theorem drop_one_maskedLabels_ignored_iff :
    (∀ x ∈ (ofTokenIds ids L p).maskedLabels.drop 1, x = ignoreIndex) ↔
      (ofTokenIds ids L p).realTokens ≤ 1 := by
  rw [forall_mem_drop_iff, length_maskedLabels_ofTokenIds, realTokens_ofTokenIds]
  constructor
  · intro h
    refine Nat.le_of_not_lt fun hk => ?_
    have hone := (maskedLabel_ignored_iff (t := 1) (by omega)).mp (h 1 (Nat.le_refl 1) (by omega))
    omega
  · intro hk t h1 ht
    exact (maskedLabel_ignored_iff ht).mpr (by omega)

end Padding

end TokenizedExample

/-- The rows of a list made of pieces of `L` elements each are the pieces. -/
theorem rowsOf_flatMap {α β : Type} (f : α → List β) {L : Nat} :
    ∀ {xs : List α}, (∀ x ∈ xs, (f x).length = L) → rowsOf xs.length L (xs.flatMap f) = xs.map f
  | [], _ => rfl
  | x :: xs, h => by
    have hx : (f x).length = L := h x List.mem_cons_self
    have ih := rowsOf_flatMap f fun y hy => h y (List.mem_cons_of_mem x hy)
    simp only [rowsOf, List.length_cons, List.range_succ_eq_map, List.map_cons, List.map_map,
      List.flatMap_cons] at ih ⊢
    -- row `0` is the first piece, and row `r + 1` is row `r` of the rest
    rw [List.cons.injEq]
    refine ⟨by simp [← hx], Eq.trans (List.map_congr_left fun r _ => ?_) ih⟩
    simp only [Function.comp_apply, Nat.succ_mul]
    rw [Nat.add_comm, ← List.drop_drop, ← hx, List.drop_left]

namespace WeightedDataset

/-- Every example is a sequence of ids cut and padded to the dataset's length. -/
def Padded (d : WeightedDataset) (pad : Nat) : Prop :=
  ∀ e ∈ d.examples, ∃ ids, e = TokenizedExample.ofTokenIds ids d.maxLength pad

/-- A step of `mapM` that succeeds where a lookup finds a value, with that value. -/
theorem mapM_eq_ok_filterMap {ε α : Type} (f : Nat → Except ε α) (look : Nat → Option α)
    (hf : ∀ i a, look i = some a → f i = .ok a) :
    ∀ {l : List Nat}, (∀ i ∈ l, (look i).isSome) → l.mapM f = .ok (l.filterMap look)
  | [], _ => rfl
  | i :: l, h => by
    obtain ⟨a, ha⟩ := Option.isSome_iff_exists.mp (h i List.mem_cons_self)
    have ih := mapM_eq_ok_filterMap f look hf fun j hj => h j (List.mem_cons_of_mem i hj)
    rw [List.mapM_cons, hf i a ha, ih, List.filterMap_cons, ha]
    rfl

/-- A step of `mapM` that fails where a lookup finds nothing makes the whole `mapM` fail. -/
theorem mapM_eq_error {ε α : Type} (f : Nat → Except ε α) (look : Nat → Option α)
    (hf : ∀ i a, look i = some a → f i = .ok a) (hnone : ∀ i, look i = none → ∃ e, f i = .error e) :
    ∀ {l : List Nat}, (∃ i ∈ l, look i = none) → ∃ e, l.mapM f = .error e
  | [], ⟨_, hi, _⟩ => absurd hi List.not_mem_nil
  | i :: l, ⟨j, hj, hlook⟩ => by
    rw [List.mapM_cons]
    cases hi : look i with
    | none =>
      obtain ⟨e, he⟩ := hnone i hi
      exact ⟨e, by rw [he]; rfl⟩
    | some a =>
      rcases List.mem_cons.mp hj with rfl | hj'
      · rw [hi] at hlook
        cases hlook
      · obtain ⟨e, he⟩ := mapM_eq_error f look hf hnone ⟨j, hj', hlook⟩
        exact ⟨e, by rw [hf i a hi, he]; rfl⟩

theorem get?_eq_none_iff (d : WeightedDataset) (i : Nat) : d.get? i = none ↔ d.len ≤ i := by
  simp [get?, len]

theorem exampleAt_of_get? {d : WeightedDataset} {i : Nat} {e : TokenizedExample}
    (h : d.get? i = some e) : d.exampleAt i = .ok e := by
  simp only [exampleAt, h]
  rfl

theorem exampleAt_of_get?_none {d : WeightedDataset} {i : Nat} (h : d.get? i = none) :
    ∃ err, d.exampleAt i = .error err :=
  ⟨_, by simp only [exampleAt, h]; rfl⟩

variable {d : WeightedDataset} {indices : List Nat}

/-- With every index inside the dataset, `collate` stacks the examples at the indices. -/
theorem collate_eq_ok (h : ∀ i ∈ indices, i < d.len) :
    d.collate indices = .ok
      { rows := indices.length
        cols := d.maxLength
        inputIds := (indices.filterMap d.get?).flatMap (·.inputIds)
        attentionMask := (indices.filterMap d.get?).flatMap (·.attentionMask)
        labels := (indices.filterMap d.get?).flatMap (·.maskedLabels) } := by
  unfold collate
  rw [mapM_eq_ok_filterMap d.exampleAt d.get? (fun _ _ => exampleAt_of_get?)
    (fun i hi => by simpa [Option.isSome_iff_ne_none, get?_eq_none_iff] using h i hi)]
  rfl

/-- `collate` fails exactly when an index is past the last example. -/
theorem collate_fails_iff (d : WeightedDataset) (indices : List Nat) :
    (∃ e, d.collate indices = .error e) ↔ ∃ i ∈ indices, d.len ≤ i := by
  constructor
  · rintro ⟨e, he⟩
    refine Decidable.byContradiction fun hall => ?_
    have hin : ∀ i ∈ indices, i < d.len := fun i hi =>
      Nat.lt_of_not_le fun hle => hall ⟨i, hi, hle⟩
    rw [collate_eq_ok hin] at he
    cases he
  · rintro ⟨i, hi, hle⟩
    unfold collate
    obtain ⟨e, he⟩ := mapM_eq_error d.exampleAt d.get? (fun _ _ => exampleAt_of_get?)
      (fun _ => exampleAt_of_get?_none) ⟨i, hi, (get?_eq_none_iff d i).mpr hle⟩
    exact ⟨e, by rw [he]; rfl⟩

theorem mem_examples_of_filterMap {e : TokenizedExample}
    (he : e ∈ indices.filterMap d.get?) : e ∈ d.examples := by
  obtain ⟨i, -, hi⟩ := List.mem_filterMap.mp he
  exact List.mem_of_getElem? hi

theorem length_filterMap_get? :
    ∀ {indices : List Nat}, (∀ i ∈ indices, i < d.len) →
      (indices.filterMap d.get?).length = indices.length
  | [], _ => rfl
  | i :: is, h => by
    obtain ⟨e, he⟩ : ∃ e, d.get? i = some e := Option.ne_none_iff_exists'.mp
      (fun hnone => Nat.not_le_of_lt (h i List.mem_cons_self) ((get?_eq_none_iff d i).mp hnone))
    simp only [List.filterMap_cons, he, List.length_cons,
      length_filterMap_get? fun j hj => h j (List.mem_cons_of_mem i hj)]

/-- Row `r` of a batch stacked from a padded dataset holds the labels and the mask of the example
at the `r`-th index. -/
theorem collate_rows {pad : Nat} (hpad : d.Padded pad) {b : Batch}
    (hb : d.collate indices = .ok b) :
    b.labelRows = (indices.filterMap d.get?).map (·.maskedLabels) ∧
      b.maskRows = (indices.filterMap d.get?).map (·.attentionMask) ∧
      b.rows = indices.length ∧ b.cols = d.maxLength := by
  have hin : ∀ i ∈ indices, i < d.len := fun i hi => Nat.lt_of_not_le fun hle =>
    absurd ((collate_fails_iff d indices).mpr ⟨i, hi, hle⟩) (by rw [hb]; simp)
  rw [collate_eq_ok hin] at hb
  cases hb
  have hsel := length_filterMap_get? hin
  refine ⟨?_, ?_, rfl, rfl⟩
  · show rowsOf indices.length d.maxLength _ = _
    rw [← hsel]
    refine rowsOf_flatMap _ fun e he => ?_
    obtain ⟨ids, rfl⟩ := hpad e (mem_examples_of_filterMap he)
    exact TokenizedExample.length_maskedLabels_ofTokenIds ..
  · show rowsOf indices.length d.maxLength _ = _
    rw [← hsel]
    refine rowsOf_flatMap _ fun e he => ?_
    obtain ⟨ids, rfl⟩ := hpad e (mem_examples_of_filterMap he)
    exact TokenizedExample.length_attentionMask_ofTokenIds ..

end WeightedDataset

end LowRankTuner
