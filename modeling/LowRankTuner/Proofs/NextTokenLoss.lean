import LowRankTuner.Training.Loss
import LowRankTuner.Dataset.Weighted
import LowRankTuner.Proofs.GraphSteps
import LowRankTuner.Proofs.SinglePrecision
import LowRankTuner.Proofs.PaddedBatches
/-!
# The next-token loss

`causalLmLoss` scores the logits at position `t` of every sequence against the label at `t + 1`.
This module gives the value it records as a formula, `nextTokenLoss`, of the logits' elements
and the labels, and proves when it fails.

* The loss fails exactly when the sequences are shorter than two tokens or every label after the
  first of every sequence is the ignored label (`causalLmLoss_fails_iff`); otherwise it records
  `nextTokenLoss` (`causalLmLoss_records`).
* Every target takes part in the sum, the ignored ones too: an ignored target adds the
  log-probability of token 0 times zero.  That product is a zero only when the log-probability
  is finite; when it is not, the product is NaN and so is the loss (`nextTokenLoss_isNaN`).
* The labels of a batch stacked from a built dataset are ignored exactly at the padding, and
  the loss of such a batch fails exactly when no example of it has two real tokens.
-/

namespace LowRankTuner

open SinglePrecision (countStep)

/-! ## The loss as a formula -/

/-- The labels the loss scores: those after the first of every row, `seq - 1` of them. -/
def nextTokenTargets (labels : List (List Int)) (seq : Nat) : List Int :=
  labels.flatMap fun row => (row.drop 1).take (seq - 1)

/-- The scores of the `r`-th target, from the formula `f` of logits `[batch, seq, vocab]`: the
logits at position `r % (seq - 1)` of sequence `r / (seq - 1)`. -/
def scoreRow (f : Nat → Float32) (seq vocab r : Nat) : List Float32 :=
  (List.range vocab).map fun j => f ((r / (seq - 1) * seq + r % (seq - 1)) * vocab + j)

/-- What a target adds to the sum: the log-probability of a kept target times one, and that of
token 0 times zero for an ignored one. -/
def nextTokenTerm (scores : List Float32) (target : Int) : Float32 :=
  let keep := target != ignoreIndex
  (logSoftmaxRow scores).getD (if keep then labelWord target else 0) 0 * (if keep then 1 else 0)

/-- Whether each target is kept. -/
def keepFlags (targets : List Int) : List Bool := targets.map (· != ignoreIndex)

/-- The index each target is scored at: itself when kept, token 0 when ignored. -/
def safeIndices (targets : List Int) : List Nat :=
  (targets.zip (keepFlags targets)).map fun (t, k) => if k then labelWord t else 0

/-- The number of kept targets, counted in single precision. -/
def keptCount (targets : List Int) : Float32 := (keepFlags targets).foldl countStep 0

/-- The loss of logits `f` of shape `[batch, seq, vocab]` against `labels`: the terms of all
targets added left to right from zero, scaled by `-1 / K` for the count `K` of kept ones. -/
def nextTokenLoss (f : Nat → Float32) (seq vocab : Nat) (labels : List (List Int)) : Float32 :=
  let targets := nextTokenTargets labels seq
  DType.f32.affine (-1 / (keptCount targets).toFloat) 0
    ((List.range targets.length).foldl
      (fun acc r => acc + nextTokenTerm (scoreRow f seq vocab r) (targets.getD r 0)) 0)

/-! ## Targets -/

section Targets

variable {labels : List (List Int)} {seq : Nat}

theorem nextTokenTargets_cons (row : List Int) (rest : List (List Int)) (seq : Nat) :
    nextTokenTargets (row :: rest) seq = (row.drop 1).take (seq - 1) ++ nextTokenTargets rest seq :=
  List.flatMap_cons

/-- In a row of `seq` labels the targets are all the labels after the first. -/
theorem take_drop_one_of_length {row : List Int} (hrow : row.length = seq) :
    (row.drop 1).take (seq - 1) = row.drop 1 :=
  List.take_of_length_le (by simp [hrow])

theorem length_nextTokenTargets (hrow : ∀ row ∈ labels, row.length = seq) :
    (nextTokenTargets labels seq).length = labels.length * (seq - 1) := by
  induction labels with
  | nil => simp [nextTokenTargets]
  | cons row rest ih =>
    have hrest : ∀ r ∈ rest, r.length = seq := fun r hr => hrow r (List.mem_cons_of_mem _ hr)
    rw [nextTokenTargets_cons, List.length_append, ih hrest,
      take_drop_one_of_length (hrow row List.mem_cons_self), List.length_drop,
      hrow row List.mem_cons_self, List.length_cons, Nat.succ_mul, Nat.add_comm]

theorem mem_nextTokenTargets (hrow : ∀ row ∈ labels, row.length = seq) {t : Int} :
    t ∈ nextTokenTargets labels seq ↔ ∃ row ∈ labels, t ∈ row.drop 1 := by
  simp only [nextTokenTargets, List.mem_flatMap]
  constructor
  · rintro ⟨row, hmem, ht⟩
    exact ⟨row, hmem, by rwa [take_drop_one_of_length (hrow row hmem)] at ht⟩
  · rintro ⟨row, hmem, ht⟩
    exact ⟨row, hmem, by rwa [take_drop_one_of_length (hrow row hmem)]⟩

/-- Counting in single precision finds no kept target exactly when there is none. -/
theorem keptCount_beq_zero (targets : List Int) :
    (keptCount targets == 0) = true ↔ ∀ t ∈ targets, t = ignoreIndex := by
  rw [keptCount, SinglePrecision.foldl_countStep_beq_zero]
  simp [keepFlags]

theorem getD_keepFlags {targets : List Int} {r : Nat} (hr : r < targets.length) :
    (keepFlags targets).getD r false = (targets.getD r 0 != ignoreIndex) := by
  simp [keepFlags, List.getD_eq_getElem?_getD, hr]

theorem safeIndices_eq_map (targets : List Int) :
    safeIndices targets = targets.map fun t => if t != ignoreIndex then labelWord t else 0 := by
  induction targets with
  | nil => rfl
  | cons t ts ih =>
    show (if t != ignoreIndex then labelWord t else 0) :: safeIndices ts = _
    rw [ih]
    rfl

theorem getD_safeIndices {targets : List Int} {r : Nat} (hr : r < targets.length) :
    (safeIndices targets).getD r 0 =
      if targets.getD r 0 != ignoreIndex then labelWord (targets.getD r 0) else 0 := by
  simp [safeIndices_eq_map, List.getD_eq_getElem?_getD, hr]

@[simp] theorem length_keepFlags (targets : List Int) :
    (keepFlags targets).length = targets.length := List.length_map _

@[simp] theorem length_safeIndices (targets : List Int) :
    (safeIndices targets).length = targets.length := by
  simp [safeIndices_eq_map]

theorem labelWord_of_nonneg {t : Int} (ht : 0 ≤ t) : (labelWord t : Int) = t := by
  simp [labelWord, Int.not_lt.mpr ht, Int.toNat_of_nonneg ht]

/-- Every index scored is inside the vocabulary when every kept target is. -/
theorem safeIndices_lt {targets : List Int} {v : Nat} (hv : 0 < v)
    (hvalid : ∀ t ∈ targets, t ≠ ignoreIndex → 0 ≤ t ∧ t < v) :
    ∀ i ∈ safeIndices targets, i < v := by
  intro i hi
  rw [safeIndices_eq_map, List.mem_map] at hi
  obtain ⟨t, ht, rfl⟩ := hi
  by_cases hkeep : t = ignoreIndex
  · simpa [hkeep] using hv
  · obtain ⟨hnonneg, hlt⟩ := hvalid t ht hkeep
    have hword := labelWord_of_nonneg hnonneg
    simp only [bne_iff_ne, ne_eq, hkeep, not_false_eq_true, if_true]
    omega

end Targets

/-! ## The graph the loss records -/

section Recorded

open LowRankTuner.Graph

variable {g : Graph} {d : DType} {f : Nat → Float32}

/-- The formula of the scores of logits `f` of shape `[batch, seq, vocab]`: row `r` holds the
logits at position `r % (seq - 1)` of sequence `r / (seq - 1)`. -/
def scoreAt (f : Nat → Float32) (seq vocab k : Nat) : Float32 :=
  f ((k / vocab / (seq - 1) * seq + k / vocab % (seq - 1)) * vocab + k % vocab)

theorem rowOf_scoreAt (f : Nat → Float32) (seq vocab r : Nat) :
    rowOf (scoreAt f seq vocab) vocab r = scoreRow f seq vocab r := by
  simp only [rowOf, scoreRow, scoreAt]
  refine List.map_congr_left fun j hj => ?_
  rw [Tensor.mul_add_div_of_lt r (List.mem_range.mp hj),
    Tensor.mul_add_mod_of_lt r (List.mem_range.mp hj)]

theorem records_nextTokenScores {L : NodeId} {b s v : Nat} (hL : L < g.nodes.size)
    (hv : (g.node L).value.Is d [b, s, v] f) (hs : 2 ≤ s) :
    Records (nextTokenScores L b s v) g (·.Is .f32 [b * (s - 1), v] (scoreAt f s v)) :=
  (records_convert_f32 hL hv).bind fun _ _ _ _ hl =>
    (records_narrow_middle hl (by omega)).bind fun _ _ _ _ hn =>
      records_reshape hn (by rw [Shape.numel_two, Shape.numel_three])

/-- The flags of the kept rows as a vector of ones and zeros. -/
theorem is_maskTensor (keep : List Bool) :
    Tensor.Is ⟨.f32, [keep.length], (keep.map fun k => if k then (1 : Float32) else 0).toArray⟩
      .f32 [keep.length] (fun r => if keep.getD r false then 1 else 0) := by
  refine ⟨rfl, rfl, by simp [Shape.numel], fun r hr => ?_⟩
  rw [Shape.numel_one] at hr
  simp [Tensor.get, Array.getD_eq_getD_getElem?, List.getD_eq_getElem?_getD, hr]

/-- The masked mean records the sum, left to right from zero, of every row's log-probability
at its index times the row's flag, scaled by `-1 / count`. -/
theorem records_maskedMeanLoss {sc rows w : Nat} {F : Nat → Float32} (hsc : sc < g.nodes.size)
    (hv : (g.node sc).value.Is .f32 [rows, w] F) (hrows : 0 < rows) (hw : 0 < w)
    {safe : List Nat} (hsafe : safe.length = rows) (hlt : ∀ i ∈ safe, i < w)
    {keep : List Bool} (hkeep : keep.length = rows) (count : Float32) :
    Records (maskedMeanLoss sc rows safe keep count) g
      (·.Is .f32 [] (fun _ => DType.f32.affine (-1 / count.toFloat) 0
        ((List.range rows).foldl (fun acc r => acc + (logSoftmaxRow (rowOf F w r)).getD
          (safe.getD r 0) 0 * (if keep.getD r false then 1 else 0)) 0))) := by
  refine (records_logSoftmaxLast hsc hv hrows hw).bind fun _ _ _ _ hlp => ?_
  refine (records_pick hlp safe hsafe hlt).bind fun _ _ _ _ hp => ?_
  have hsq := records_squeeze (i := 1) hp rfl (by
    show Shape.numel [rows] = _
    rw [Shape.numel_one, Shape.numel_two, Nat.mul_one])
  refine (hsq.mono fun t ht => (ht : t.Is .f32 [rows] _)).bind fun pk g₃ _ hpk hvpk => ?_
  have hmask := is_maskTensor keep
  rw [hkeep] at hmask
  refine (records_input (P := (·.Is .f32 [rows] _)) false hmask).bind fun m g₄ h₄ _ hvm => ?_
  rw [← h₄.node_eq hpk] at hvpk
  refine (records_binary hvpk hvm).bind fun _ _ _ _ hpr => ?_
  refine (records_sumAll_vector hpr).bind fun _ _ _ _ htot => ?_
  refine (records_affine htot _ _).mono fun t ht => ht.congr fun _ _ => ?_
  -- row `r` picks its own row of log-probabilities at its index, inside the row
  congr 1
  refine Tensor.foldl_congr_mem _ _ fun acc r hr => ?_
  have hr' : r < rows := List.mem_range.mp hr
  have hid : safe.getD r 0 < w :=
    hlt _ (by simp [List.getD_eq_getElem?_getD, hsafe, hr', List.getElem_mem])
  simp only [DType.f32_lift₂, Tensor.mul_add_div_of_lt r hid, Tensor.mul_add_mod_of_lt r hid]

end Recorded

/-! ## The loss program -/

section Program

open LowRankTuner.Graph

variable {g : Graph} {L : NodeId} {d : DType} {f : Nat → Float32} {b s v : Nat}
  {labels : List (List Int)}

theorem run_graphStep_value (g : Graph) (a : NodeId) :
    (graphStep (Graph.value a)).run g = .ok ((g.node a).value, g) := rfl

theorem run_bind_of_ok {α β : Type} {x : ModelM α} {k : α → ModelM β} {g g' : Graph} {a : α}
    (h : x.run g = .ok (a, g')) : (x >>= k).run g = (k a).run g' := by
  rw [StateT.run_bind, h]
  rfl

/-- A graph step that records runs as a model step that records. -/
theorem Graph.Records.run_graphStep {x : GraphM NodeId} {P : Tensor → Prop}
    (h : Records x g P) :
    ∃ i g', (graphStep x).run g = .ok (i, g') ∧ g.Extends g' ∧ i < g'.nodes.size ∧
      P (g'.node i).value := by
  obtain ⟨i, g', hrun, hrest⟩ := h
  refine ⟨i, g', ?_, hrest⟩
  simp only [StateT.run] at hrun ⊢
  simp [graphStep, hrun]

theorem causalLmLoss_short (hv : (g.node L).value.Is d [b, s, v] f) (hs : s < 2) :
    (causalLmLoss L labels).run g =
      .error (.training "sequences need at least two tokens for next-token loss") := by
  unfold causalLmLoss
  rw [run_bind_of_ok (run_graphStep_value g L), hv.shape_eq]
  dsimp only
  rw [if_pos hs]
  rfl

/-- Past its checks of shapes, the loss program records the scores and fails exactly when it
counts no kept target. -/
theorem run_causalLmLoss (hL : L < g.nodes.size) (hv : (g.node L).value.Is d [b, s, v] f)
    (hlen : labels.length = b) (hb : 0 < b) (hrow : ∀ row ∈ labels, row.length = s)
    (hs : 2 ≤ s) :
    ∃ sc g₁, g.Extends g₁ ∧ sc < g₁.nodes.size ∧
      (g₁.node sc).value.Is .f32 [b * (s - 1), v] (scoreAt f s v) ∧
      (causalLmLoss L labels).run g = (if keptCount (nextTokenTargets labels s) == 0 then
        .error (.training "batch has no target tokens") else
        (graphStep (maskedMeanLoss sc (b * (s - 1)) (safeIndices (nextTokenTargets labels s))
          (keepFlags (nextTokenTargets labels s)) (keptCount (nextTokenTargets labels s)))).run g₁) := by
  obtain ⟨sc, g₁, hrun₁, h₁, hsc, hvsc⟩ := (records_nextTokenScores hL hv hs).run_graphStep
  refine ⟨sc, g₁, h₁, hsc, hvsc, ?_⟩
  unfold causalLmLoss
  rw [run_bind_of_ok (run_graphStep_value g L), hv.shape_eq]
  dsimp only
  rw [if_neg (by omega), run_bind_of_ok hrun₁]
  obtain ⟨row, rest, rfl⟩ : ∃ row rest, labels = row :: rest :=
    List.exists_cons_of_ne_nil (by rintro rfl; simp at hlen; omega)
  -- the labels have `seq` columns, so the targets fit in them
  have hfault : Shape.narrowFault? [(row :: rest).length,
      (((row :: rest).head?).map List.length).getD 0] 1 1 (s - 1) = none := by
    simp only [Shape.narrowFault?, hrow row List.mem_cons_self, List.length_cons, List.head?_cons,
      Option.map_some, Option.getD_some, List.getD_cons_succ, List.getD_cons_zero]
    rw [if_neg (by omega), if_neg (by omega), if_neg (by omega)]
  have hsame : ((row :: rest).length * (s - 1) != b * (s - 1)) = false := by
    rw [hlen]
    exact bne_self_eq_false _
  rw [hfault]
  dsimp only
  rw [hsame, if_neg Bool.false_ne_true]
  show StateT.run (if (keptCount (nextTokenTargets (row :: rest) s) == 0) = true then _ else _) g₁
    = _
  split <;> rfl

/-- Without sequences the labels have no column to take targets from. -/
theorem causalLmLoss_nil (hL : L < g.nodes.size) (hv : (g.node L).value.Is d [b, s, v] f)
    (hs : 2 ≤ s) : ∃ e, (causalLmLoss L []).run g = .error e := by
  obtain ⟨sc, g₁, hrun₁, -⟩ := (records_nextTokenScores hL hv hs).run_graphStep
  unfold causalLmLoss
  rw [run_bind_of_ok (run_graphStep_value g L), hv.shape_eq]
  dsimp only
  rw [if_neg (by omega), run_bind_of_ok hrun₁]
  exact ⟨_, rfl⟩

theorem maskedMean_eq_nextTokenLoss (hrow : ∀ row ∈ labels, row.length = s)
    (hlen : labels.length = b) :
    DType.f32.affine (-1 / (keptCount (nextTokenTargets labels s)).toFloat) 0
      ((List.range (b * (s - 1))).foldl (fun acc r => acc +
        (logSoftmaxRow (rowOf (scoreAt f s v) v r)).getD
          ((safeIndices (nextTokenTargets labels s)).getD r 0) 0 *
        (if (keepFlags (nextTokenTargets labels s)).getD r false then 1 else 0)) 0) =
      nextTokenLoss f s v labels := by
  have hn : (nextTokenTargets labels s).length = b * (s - 1) := by
    rw [length_nextTokenTargets hrow, hlen]
  simp only [nextTokenLoss]
  rw [hn]
  congr 1
  refine Tensor.foldl_congr_mem _ _ fun acc r hr => ?_
  have hr' : r < (nextTokenTargets labels s).length := hn ▸ List.mem_range.mp hr
  rw [rowOf_scoreAt, getD_safeIndices hr', getD_keepFlags hr']
  rfl

/-- With sequences of at least two tokens and a kept target, the loss program records
`nextTokenLoss` of the logits. -/
theorem causalLmLoss_records (hL : L < g.nodes.size) (hv : (g.node L).value.Is d [b, s, v] f)
    (hlen : labels.length = b) (hrow : ∀ row ∈ labels, row.length = s)
    (hvalid : ∀ row ∈ labels, ∀ x ∈ row, (0 ≤ x ∧ x < v) ∨ x = ignoreIndex) (hs : 2 ≤ s)
    (hkept : ∃ row ∈ labels, ∃ x ∈ row.drop 1, x ≠ ignoreIndex) :
    ∃ i g', (causalLmLoss L labels).run g = .ok (i, g') ∧ g.Extends g' ∧
      (g'.node i).value.Is .f32 [] (fun _ => nextTokenLoss f s v labels) := by
  obtain ⟨row, hrowmem, x, hx, hxkept⟩ := hkept
  have hb : 0 < b := hlen ▸ List.length_pos_of_mem hrowmem
  have hvpos : 0 < v := by
    have := (hvalid row hrowmem x (List.mem_of_mem_drop hx)).resolve_right hxkept
    omega
  have htargets : ∀ t ∈ nextTokenTargets labels s, t ≠ ignoreIndex → 0 ≤ t ∧ t < v := by
    intro t ht hkeep
    obtain ⟨r, hr, htr⟩ := (mem_nextTokenTargets hrow).mp ht
    exact (hvalid r hr t (List.mem_of_mem_drop htr)).resolve_right hkeep
  have hcount : (keptCount (nextTokenTargets labels s) == 0) = false :=
    Bool.eq_false_iff.mpr fun h => hxkept ((keptCount_beq_zero _).mp h x
      ((mem_nextTokenTargets hrow).mpr ⟨row, hrowmem, hx⟩))
  have hn : (nextTokenTargets labels s).length = b * (s - 1) := by
    rw [length_nextTokenTargets hrow, hlen]
  obtain ⟨sc, g₁, h₁, hsc, hvsc, hrun⟩ := run_causalLmLoss hL hv hlen hb hrow hs
  obtain ⟨i, g', hrun', h', -, hvi⟩ := (records_maskedMeanLoss hsc hvsc
    (Nat.mul_pos hb (by omega)) hvpos (by rw [length_safeIndices, hn])
    (safeIndices_lt hvpos htargets) (by rw [length_keepFlags, hn]) _).run_graphStep
  refine ⟨i, g', ?_, h₁.trans h', ?_⟩
  · rw [hrun, hcount, if_neg Bool.false_ne_true]
    exact hrun'
  · rwa [maskedMean_eq_nextTokenLoss hrow hlen] at hvi

/-- The loss fails exactly when the sequences are shorter than two tokens or no label after the
first of a sequence is kept. -/
theorem causalLmLoss_fails_iff (hL : L < g.nodes.size) (hv : (g.node L).value.Is d [b, s, v] f)
    (hlen : labels.length = b) (hrow : ∀ row ∈ labels, row.length = s)
    (hvalid : ∀ row ∈ labels, ∀ x ∈ row, (0 ≤ x ∧ x < v) ∨ x = ignoreIndex) :
    (∃ e, (causalLmLoss L labels).run g = .error e) ↔
      s < 2 ∨ ∀ row ∈ labels, ∀ x ∈ row.drop 1, x = ignoreIndex := by
  constructor
  · rintro ⟨e, he⟩
    refine (Nat.lt_or_ge s 2).imp id fun hs row hr x hx => Decidable.byContradiction fun hxk => ?_
    obtain ⟨i, g', hok, -⟩ := causalLmLoss_records hL hv hlen hrow hvalid hs ⟨row, hr, x, hx, hxk⟩
    rw [hok] at he
    cases he
  · intro hfail
    by_cases hs : s < 2
    · exact ⟨_, causalLmLoss_short hv hs⟩
    have hall := hfail.resolve_left hs
    cases labels with
    | nil => exact causalLmLoss_nil hL hv (by omega)
    | cons row rest =>
      obtain ⟨sc, g₁, -, -, -, hrun⟩ :=
        run_causalLmLoss hL hv hlen (hlen ▸ Nat.succ_pos _) hrow (by omega)
      have hcount : (keptCount (nextTokenTargets (row :: rest) s) == 0) = true :=
        (keptCount_beq_zero _).mpr fun t ht => by
          obtain ⟨r, hr, htr⟩ := (mem_nextTokenTargets hrow).mp ht
          exact hall r hr t htr
      rw [hrun, if_pos hcount]
      exact ⟨_, rfl⟩

end Program

/-! ## What an ignored target adds -/

section Ignored

open SinglePrecision

theorem nextTokenTerm_ignored (scores : List Float32) :
    nextTokenTerm scores ignoreIndex = (logSoftmaxRow scores).getD 0 0 * 0 := rfl

/-- An ignored target adds a zero exactly when the log-probability of token 0 is finite. -/
theorem nextTokenTerm_ignored_beq_zero (scores : List Float32) :
    (nextTokenTerm scores ignoreIndex == 0) = ((logSoftmaxRow scores).getD 0 0).isFinite := by
  rw [nextTokenTerm_ignored, mul_zero_beq_zero]

/-- A sum, left to right, with a NaN term is NaN. -/
theorem foldl_add_isNaN {h : Nat → Float32} {r : Nat} (hnan : (h r).isNaN = true)
    (init : Float32) {n : Nat} (hr : r < n) :
    ((List.range n).foldl (fun acc i => acc + h i) init).isNaN = true := by
  induction n with
  | zero => exact absurd hr (Nat.not_lt_zero r)
  | succ n ih =>
    rw [List.range_succ, List.foldl_append, List.foldl_cons, List.foldl_nil]
    rcases Nat.lt_succ_iff_lt_or_eq.mp hr with hlt | rfl
    · exact isNaN_add_left _ (ih hlt)
    · exact isNaN_add_right _ hnan

theorem isNaN_f32_affine {x : Float32} (hx : x.isNaN = true) (mul add : Float) :
    (DType.f32.affine mul add x).isNaN = true :=
  isNaN_add_left _ (isNaN_mul_left _ hx)

/-- An ignored target whose log-probability of token 0 is not finite makes the whole loss NaN,
whatever the kept targets score. -/
theorem nextTokenLoss_isNaN {f : Nat → Float32} {s v : Nat} {labels : List (List Int)} {r : Nat}
    (hr : r < (nextTokenTargets labels s).length)
    (hign : (nextTokenTargets labels s).getD r 0 = ignoreIndex)
    (hinf : ((logSoftmaxRow (scoreRow f s v r)).getD 0 0).isFinite = false) :
    (nextTokenLoss f s v labels).isNaN = true := by
  have hterm : (nextTokenTerm (scoreRow f s v r) ((nextTokenTargets labels s).getD r 0)).isNaN =
      true := by
    rw [hign, nextTokenTerm_ignored, isNaN_mul_zero, hinf]
    rfl
  simp only [nextTokenLoss]
  exact isNaN_f32_affine (foldl_add_isNaN (h := fun i =>
    nextTokenTerm (scoreRow f s v i) ((nextTokenTargets labels s).getD i 0)) hterm 0 hr) _ _

end Ignored

/-! ## The loss of a stacked batch -/

section Batches

open WeightedDataset

variable {g : Graph} {L : NodeId} {d : DType} {f : Nat → Float32} {v : Nat}
  {ds : WeightedDataset} {pad : Nat} {indices : List Nat} {batch : Batch}

/-- The labels a padded example contributes are ids of the example or the ignored label. -/
theorem maskedLabels_valid {ids : List Nat} {len : Nat}
    (hids : ∀ x ∈ (TokenizedExample.ofTokenIds ids len pad).inputIds, x < v) :
    ∀ x ∈ (TokenizedExample.ofTokenIds ids len pad).maskedLabels,
      (0 ≤ x ∧ x < v) ∨ x = ignoreIndex := by
  intro x hx
  rw [TokenizedExample.maskedLabels_ofTokenIds, List.mem_append] at hx
  rcases hx with hx | hx
  · obtain ⟨i, hi, rfl⟩ := List.mem_map.mp hx
    have hlt := hids i (List.mem_append_left _ hi)
    exact .inl ⟨Int.natCast_nonneg i, Int.ofNat_lt.mpr hlt⟩
  · exact .inr (List.eq_of_mem_replicate hx)

/-- The loss of a batch stacked from a padded dataset fails exactly when no example of the
batch has two real tokens. -/
theorem causalLmLoss_collate_fails_iff (hpad : ds.Padded pad)
    (hids : ∀ e ∈ ds.examples, ∀ x ∈ e.inputIds, x < v) (hb : ds.collate indices = .ok batch)
    (hL : L < g.nodes.size) (hv : (g.node L).value.Is d [batch.rows, batch.cols, v] f) :
    (∃ e, (causalLmLoss L batch.labelRows).run g = .error e) ↔
      ∀ e ∈ indices.filterMap ds.get?, e.realTokens ≤ 1 := by
  obtain ⟨hlabels, -, hrows, hcols⟩ := collate_rows hpad hb
  have hin : ∀ i ∈ indices, i < ds.len := fun i hi => Nat.lt_of_not_le fun hle =>
    absurd ((collate_fails_iff ds indices).mpr ⟨i, hi, hle⟩) (by rw [hb]; simp)
  -- every row of labels is a padded example's
  have hpadded : ∀ e ∈ indices.filterMap ds.get?,
      ∃ ids, e = TokenizedExample.ofTokenIds ids ds.maxLength pad :=
    fun e he => hpad e (mem_examples_of_filterMap he)
  have hlen : batch.labelRows.length = batch.rows := by
    rw [hlabels, List.length_map, length_filterMap_get? hin, hrows]
  have hrow : ∀ row ∈ batch.labelRows, row.length = batch.cols := by
    intro row hr
    rw [hlabels, List.mem_map] at hr
    obtain ⟨e, he, rfl⟩ := hr
    obtain ⟨ids, rfl⟩ := hpadded e he
    rw [hcols, TokenizedExample.length_maskedLabels_ofTokenIds]
  have hvalid : ∀ row ∈ batch.labelRows, ∀ x ∈ row, (0 ≤ x ∧ x < v) ∨ x = ignoreIndex := by
    intro row hr
    rw [hlabels, List.mem_map] at hr
    obtain ⟨e, he, rfl⟩ := hr
    have hex := mem_examples_of_filterMap he
    obtain ⟨ids, rfl⟩ := hpadded e he
    exact maskedLabels_valid (hids _ hex)
  rw [causalLmLoss_fails_iff hL hv hlen hrow hvalid, hlabels, hcols]
  simp only [List.mem_map, forall_exists_index, and_imp, forall_apply_eq_imp_iff₂]
  -- with fewer than two columns no example has two real tokens either
  constructor
  · rintro (hshort | hall) e he
    · obtain ⟨ids, rfl⟩ := hpadded e he
      rw [TokenizedExample.realTokens_ofTokenIds]
      omega
    · obtain ⟨ids, rfl⟩ := hpadded e he
      exact (TokenizedExample.drop_one_maskedLabels_ignored_iff).mp (hall _ he)
  · intro hall
    refine .inr fun e he => ?_
    obtain ⟨ids, rfl⟩ := hpadded e he
    exact (TokenizedExample.drop_one_maskedLabels_ignored_iff).mpr (hall _ he)

end Batches

/-! ## The loss, in full -/

/-- The next-token loss scores every target position, the ignored ones included.

* For logits `[b, s, v]` and labels `[b, s]` whose entries lie in `[0, v)` or are ignored, the
  loss fails exactly when `s < 2` or no label after the first of a row is kept, and otherwise
  records `nextTokenLoss`: `-1/K` times the sum, left to right, of every target's
  log-probability times its flag, an ignored target being scored at token 0 with flag zero.
* So an ignored target adds a zero exactly when that log-probability is finite, and makes the
  loss NaN when it is not.
* `collate` fails exactly when an index is past the last example.  A batch stacked from a
  padded dataset has the labels and masks of the examples at the indices, a label is ignored
  exactly where the mask is zero, that is exactly at the positions past the ids kept, and the
  loss of the batch fails exactly when no example of it has two real tokens. -/
theorem causalLmLoss_scores_every_target (f : Nat → Float32) (s v : Nat)
    (labels : List (List Int)) :
    (∀ (g : Graph) (L : NodeId) (d : DType) (b : Nat),
      L < g.nodes.size → (g.node L).value.Is d [b, s, v] f →
      labels.length = b → (∀ row ∈ labels, row.length = s) →
      (∀ row ∈ labels, ∀ x ∈ row, (0 ≤ x ∧ x < v) ∨ x = ignoreIndex) →
      ((∃ e, (causalLmLoss L labels).run g = .error e) ↔
        s < 2 ∨ ∀ row ∈ labels, ∀ x ∈ row.drop 1, x = ignoreIndex) ∧
      (2 ≤ s → (∃ row ∈ labels, ∃ x ∈ row.drop 1, x ≠ ignoreIndex) →
        ∃ i g', (causalLmLoss L labels).run g = .ok (i, g') ∧
          (g'.node i).value.Is .f32 [] (fun _ => nextTokenLoss f s v labels))) ∧
    (∀ r : Nat, r < (nextTokenTargets labels s).length →
      (nextTokenTargets labels s).getD r 0 = ignoreIndex →
      (nextTokenTerm (scoreRow f s v r) ignoreIndex == 0) =
          ((logSoftmaxRow (scoreRow f s v r)).getD 0 0).isFinite ∧
        (((logSoftmaxRow (scoreRow f s v r)).getD 0 0).isFinite = false →
          (nextTokenLoss f s v labels).isNaN = true)) ∧
    (∀ (ds : WeightedDataset) (indices : List Nat),
      ((∃ e, ds.collate indices = .error e) ↔ ∃ i ∈ indices, ds.len ≤ i) ∧
      ∀ (pad : Nat) (batch : Batch), ds.Padded pad → ds.collate indices = .ok batch →
        batch.labelRows = (indices.filterMap ds.get?).map (·.maskedLabels) ∧
        batch.maskRows = (indices.filterMap ds.get?).map (·.attentionMask) ∧
        (∀ (ids : List Nat) (t : Nat), t < ds.maxLength →
          ((TokenizedExample.ofTokenIds ids ds.maxLength pad).maskedLabels.getD t 0 =
              ignoreIndex ↔
            (TokenizedExample.ofTokenIds ids ds.maxLength pad).attentionMask.getD t 0 = 0) ∧
          ((TokenizedExample.ofTokenIds ids ds.maxLength pad).maskedLabels.getD t 0 =
              ignoreIndex ↔ min ids.length ds.maxLength ≤ t)) ∧
        ∀ (g : Graph) (L : NodeId) (d : DType) (f : Nat → Float32) (v : Nat),
          (∀ e ∈ ds.examples, ∀ x ∈ e.inputIds, x < v) → L < g.nodes.size →
          (g.node L).value.Is d [batch.rows, batch.cols, v] f →
          ((∃ e, (causalLmLoss L batch.labelRows).run g = .error e) ↔
            ∀ e ∈ indices.filterMap ds.get?, e.realTokens ≤ 1)) := by
  refine ⟨fun g L d b hL hv hlen hrow hvalid => ⟨?_, ?_⟩, ?_, ?_⟩
  · exact causalLmLoss_fails_iff hL hv hlen hrow hvalid
  · intro hs hkept
    obtain ⟨i, g', hrun, -, hvi⟩ := causalLmLoss_records hL hv hlen hrow hvalid hs hkept
    exact ⟨i, g', hrun, hvi⟩
  · intro r hr hign
    exact ⟨nextTokenTerm_ignored_beq_zero _, nextTokenLoss_isNaN hr hign⟩
  · intro ds indices
    refine ⟨WeightedDataset.collate_fails_iff ds indices, fun pad batch hpad hb => ?_⟩
    obtain ⟨hlabels, hmasks, -⟩ := WeightedDataset.collate_rows hpad hb
    refine ⟨hlabels, hmasks, fun ids t ht => ?_, fun g L d f v hids hL hv => ?_⟩
    · exact ⟨TokenizedExample.maskedLabel_ignored_iff_mask_zero ht,
        TokenizedExample.maskedLabel_ignored_iff ht⟩
    · exact causalLmLoss_collate_fails_iff hpad hids hb hL hv

/-- One sequence of three tokens, with zero logits, scored against labels whose second position
is ignored. -/
theorem causalLmLoss_scores_every_target_on_one_sequence :
    ∃ i g', (causalLmLoss 0 [[0, -100, 1]]).run
        { nodes := #[⟨⟨.f32, [1, 3, 2], #[0, 0, 0, 0, 0, 0]⟩, .input false, false, [6, 2, 1]⟩] } =
        .ok (i, g') ∧
      (g'.node i).value.Is .f32 [] (fun _ =>
        nextTokenLoss (Tensor.get ⟨.f32, [1, 3, 2], #[0, 0, 0, 0, 0, 0]⟩) 3 2 [[0, -100, 1]]) :=
  ((causalLmLoss_scores_every_target _ 3 2 [[0, -100, 1]]).1 _ 0 .f32 1 (by decide)
    (Tensor.is_get _ rfl) rfl (by decide) (by decide)).2 (by decide)
    ⟨[0, -100, 1], List.mem_singleton_self _, 1, by decide, by decide⟩

/-! ## An ignored position that poisons the loss -/

/-- Logits of one sequence of three tokens over two words: `-2¹²⁷` and `2¹²⁷` at the first
position, zeros after it. -/
def extremeLogits : Tensor :=
  ⟨.f32, [1, 3, 2], #[Float32.ofBits 0xFF000000, Float32.ofBits 0x7F000000, 0, 0, 0, 0]⟩

/-- With the first target ignored, the loss of `extremeLogits` is NaN: the first position's
log-probability of token 0 is `-2¹²⁷ - 2¹²⁷`, which overflows to `-∞`, and `-∞ · 0` is NaN,
although the one kept target is scored by logits that are all zero. -/
theorem causalLmLoss_nan_from_ignored_position :
    ∃ i g', (do
        let L ← graphStep (Graph.input extremeLogits)
        causalLmLoss L [[0, -100, 1]]).run {} = .ok (i, g') ∧
      ((g'.node i).value.get 0).isNaN = true := by
  obtain ⟨L, g₀, hrun₀, -, hL, hv⟩ := (Graph.records_input (P := (·.Is .f32 [1, 3, 2]
    extremeLogits.get)) false (Tensor.is_get extremeLogits rfl)).run_graphStep
  obtain ⟨i, g', hrun, -, hvi⟩ := causalLmLoss_records hL hv rfl (by decide) (by decide)
    (by decide) ⟨[0, -100, 1], List.mem_singleton_self _, 1, by decide, by decide⟩
  refine ⟨i, g', by rw [run_bind_of_ok hrun₀]; exact hrun, ?_⟩
  rw [hvi.get_eq 0 (by decide)]
  -- the first position's maximum is `2¹²⁷`, and `-2¹²⁷ - 2¹²⁷` is `-∞`
  have hmax : rowMax (scoreRow extremeLogits.get 3 2 0) = Float32.ofBits 0x7F000000 := by
    decide
  have hdiff : SinglePrecision.unpacked (Float32.ofBits 0xFF000000 - Float32.ofBits 0x7F000000) =
      .infinity .negative := by
    rw [SinglePrecision.unpacked_sub]
    rfl
  refine nextTokenLoss_isNaN (r := 0) (by decide) (by decide) ?_
  rw [getD_logSoftmaxRow _ (by decide), hmax]
  exact SinglePrecision.isFinite_sub_of_negInfinity hdiff _

end LowRankTuner
