import LowRankTuner.Tensor.Graph
import LowRankTuner.Proofs.TensorElements
/-!
# What the steps of a computation graph record

A graph computation appends nodes and returns the position of the one holding its result.
`Graph.Records x g P` says that `x` succeeds on `g`, keeps every node already there
(`Graph.Extends`), and returns a node whose value satisfies `P`.  `Records.bind` chains two
steps; the lemmas after it give, for each step the next-token loss takes, the formula of its
value (`Tensor.Is`) from the formulas of its operands.

The composite step is the log-softmax along the last dimension of a matrix
(`records_logSoftmaxLast`): row `o` of its value is `logSoftmaxRow` of row `o` of its operand,
the maximum found from the first element, the differences exponentiated and summed left to
right from zero.
-/

namespace LowRankTuner

/-- The largest score of a row as the program finds it: from the first, moving to a later one
only when it is greater. -/
def rowMax (w : List Float32) : Float32 := w.foldl Tensor.keepGreater (w.headD 0)

/-- The log-softmax of a row of scores: each score less the largest, less the logarithm of the
sum of the exponentials of those differences, added left to right from zero. -/
def logSoftmaxRow (w : List Float32) : List Float32 :=
  let d := w.map (· - rowMax w)
  d.map (· - Float32.log (d.foldl (fun acc x => acc + Float32.exp x) 0))

theorem getD_logSoftmaxRow (w : List Float32) {j : Nat} (hj : j < w.length) :
    (logSoftmaxRow w).getD j 0 =
      (w.getD j 0 - rowMax w) -
        Float32.log ((w.map (· - rowMax w)).foldl (fun acc x => acc + Float32.exp x) 0) := by
  simp [logSoftmaxRow, hj]

namespace DType

@[simp] theorem f32_round (x : Float32) : DType.f32.round x = x := rfl

@[simp] theorem f32_lift (g : Float32 → Float32) (x : Float32) : DType.f32.lift g x = g x := rfl

@[simp] theorem f32_lift₂ (g : Float32 → Float32 → Float32) (x y : Float32) :
    DType.f32.lift₂ g x y = g x y := rfl

end DType

namespace Graph

/-- `g'` keeps every node of `g`, perhaps followed by more. -/
def Extends (g g' : Graph) : Prop :=
  g.nodes.size ≤ g'.nodes.size ∧ ∀ j < g.nodes.size, g'.node j = g.node j

theorem Extends.refl (g : Graph) : g.Extends g := ⟨Nat.le_refl _, fun _ _ => rfl⟩

theorem Extends.trans {g g' g'' : Graph} (h : g.Extends g') (h' : g'.Extends g'') :
    g.Extends g'' :=
  ⟨Nat.le_trans h.1 h'.1, fun j hj => (h'.2 j (Nat.lt_of_lt_of_le hj h.1)).trans (h.2 j hj)⟩

theorem Extends.node_eq {g g' : Graph} (h : g.Extends g') {j : Nat} (hj : j < g.nodes.size) :
    g'.node j = g.node j :=
  h.2 j hj

theorem Extends.lt_size {g g' : Graph} (h : g.Extends g') {j : Nat} (hj : j < g.nodes.size) :
    j < g'.nodes.size :=
  Nat.lt_of_lt_of_le hj h.1

/-- Appending a node keeps the others, and the new one sits at the old size. -/
theorem extends_push (g : Graph) (n : Node) :
    g.Extends { g with nodes := g.nodes.push n } ∧
      ({ g with nodes := g.nodes.push n } : Graph).node g.nodes.size = n := by
  refine ⟨⟨by simp, fun j hj => ?_⟩, ?_⟩
  · simp [node, Array.getD_eq_getD_getElem?, Array.getElem?_push, hj, Nat.ne_of_lt hj]
  · simp [node, Array.getD_eq_getD_getElem?]

/-- `x` succeeds on `g`, only appends nodes to it, and returns a node of the grown graph whose
value satisfies `P`. -/
def Records (x : GraphM NodeId) (g : Graph) (P : Tensor → Prop) : Prop :=
  ∃ i g', x.run g = .ok (i, g') ∧ g.Extends g' ∧ i < g'.nodes.size ∧ P (g'.node i).value

theorem Records.mono {x : GraphM NodeId} {g : Graph} {P Q : Tensor → Prop} (h : Records x g P)
    (hPQ : ∀ t, P t → Q t) : Records x g Q := by
  obtain ⟨i, g', hrun, hext, hi, hP⟩ := h
  exact ⟨i, g', hrun, hext, hi, hPQ _ hP⟩

/-- A step run on what an earlier step returned: the second step sees the grown graph and the
earlier node's value. -/
theorem Records.bind {x : GraphM NodeId} {f : NodeId → GraphM NodeId} {g : Graph}
    {P Q : Tensor → Prop} (hx : Records x g P)
    (hf : ∀ i g', g.Extends g' → i < g'.nodes.size → P (g'.node i).value → Records (f i) g' Q) :
    Records (x >>= f) g Q := by
  obtain ⟨i, g', hrun, hext, hi, hP⟩ := hx
  obtain ⟨j, g'', hrun', hext', hj, hQ⟩ := hf i g' hext hi hP
  refine ⟨j, g'', ?_, hext.trans hext', hj, hQ⟩
  rw [StateT.run_bind, hrun]
  exact hrun'

theorem records_pure {a : NodeId} {g : Graph} {P : Tensor → Prop} (ha : a < g.nodes.size)
    (hP : P (g.node a).value) : Records (pure a) g P :=
  ⟨a, g, rfl, Extends.refl g, ha, hP⟩

theorem records_pushWith {g : Graph} {P : Tensor → Prop} {v : Tensor} (step : Step)
    (tracked : Bool) (strides : List Nat) (hP : P v) :
    Records (pushWith v step tracked strides) g P := by
  have h := extends_push g ⟨v, step, tracked, strides⟩
  exact ⟨g.nodes.size, _, rfl, h.1, by simp, by rw [h.2]; exact hP⟩

theorem records_push {g : Graph} {P : Tensor → Prop} {v : Tensor} (step : Step) (hP : P v) :
    Records (push v step) g P :=
  records_pushWith step _ _ hP

theorem records_input {g : Graph} {P : Tensor → Prop} {t : Tensor} (trainable : Bool)
    (hP : P t) : Records (input t trainable) g P :=
  records_pushWith _ _ _ hP

theorem run_value_bind {α : Type} (g : Graph) (a : NodeId) (k : Tensor → GraphM α) :
    (value a >>= k).run g = (k (g.node a).value).run g := rfl

theorem run_get_bind {α : Type} (g : Graph) (k : Graph → GraphM α) :
    (get >>= k).run g = (k g).run g := rfl

theorem run_shapeOf_bind {α : Type} (g : Graph) (a : NodeId) (k : Shape → GraphM α) :
    (shapeOf a >>= k).run g = (k (g.node a).value.shape).run g := rfl

/-- A step that runs as another one records what that one records. -/
theorem Records.of_run_eq {x y : GraphM NodeId} {g : Graph} {P : Tensor → Prop}
    (hxy : x.run g = y.run g) (hy : Records y g P) : Records x g P := by
  obtain ⟨i, g', hrun, rest⟩ := hy
  exact ⟨i, g', hxy.trans hrun, rest⟩

/-! ## The steps of the loss, one lemma each -/

section Steps

variable {g : Graph} {a b : NodeId} {d : DType} {s : Shape} {f h : Nat → Float32}

theorem records_convert_f32 (ha : a < g.nodes.size) (hv : (g.node a).value.Is d s f) :
    Records (convert a .f32) g (·.Is .f32 s f) := by
  refine Records.of_run_eq (y := if (g.node a).value.dtype == .f32 then pure a
    else push ((g.node a).value.convert .f32) (.convert a)) rfl ?_
  split
  · rename_i hd
    exact records_pure ha ⟨beq_iff_eq.mp hd, hv.shape_eq, hv.size_eq, hv.get_eq⟩
  · exact records_push _ hv.convert_f32

theorem records_narrow_middle {n m l w : Nat} (hv : (g.node a).value.Is d [n, m, w] f)
    (hl : l < m) :
    Records (narrow a 1 0 l) g
      (·.Is d [n, l, w] (fun k => f ((k / w / l * m + k / w % l) * w + k % w))) := by
  obtain ⟨t, hnarrow, ht⟩ := hv.narrow_middle (Nat.le_of_lt hl)
  -- the narrowed length is short of the whole dimension, so a new node is recorded
  have hpart : (0 == 0 && l == (g.node a).value.dim 1) = false := by
    simp [Tensor.dim, hv.shape_eq, Nat.ne_of_lt hl]
  refine Records.of_run_eq (y := pushWith t (.narrow a 1 0 l) (g.node a).tracked
    (g.node a).strides) ?_ (records_pushWith _ _ _ ht)
  show (lift ((g.node a).value.narrow 1 0 l) >>= fun v =>
    if 0 == 0 && l == (g.node a).value.dim 1 then pure a
    else pushWith v (.narrow a 1 0 l) (g.node a).tracked (g.node a).strides).run g = _
  rw [hnarrow, hpart]
  rfl

theorem records_reshape (hv : (g.node a).value.Is d s f) {s' : Shape}
    (hs : s'.numel = s.numel) : Records (reshape a s') g (·.Is d s' f) := by
  refine Records.of_run_eq (y := push { (g.node a).value with shape := s' } (.reshape a)) ?_
    (records_push _ (hv.withShape hs))
  show (lift ((g.node a).value.reshape s') >>= fun v => push v (.reshape a)).run g = _
  rw [hv.reshape hs]
  rfl

theorem records_maxKeep_last {rows w : Nat} (hv : (g.node a).value.Is d [rows, w] f)
    (hrows : 0 < rows) (hw : 0 < w) :
    Records (maxKeep a 1) g
      (·.Is d [rows, 1] (fun o => (rowOf f w o).foldl Tensor.keepGreater (f (o * w)))) := by
  obtain ⟨m, hmax, hm⟩ := hv.maxKeep_last hrows hw
  refine Records.of_run_eq (y := push m (.max a 1)) ?_ (records_push _ hm)
  show (lift ((g.node a).value.maxKeep 1) >>= fun v => push v (.max a 1)).run g = _
  rw [hmax]
  rfl

theorem records_broadcastAs {P : Tensor → Prop} (s : Shape)
    (hP : P ((g.node b).value.broadcastAs s)) : Records (broadcastAs b s) g P := by
  refine Records.of_run_eq ?_ (records_pushWith (.broadcast b) (g.node b).tracked ?strides hP)
  rfl

theorem shape_broadcast_column (rows w : Nat) :
    Shape.broadcast [rows, w] [rows, 1] = some [rows, w] := by
  by_cases hw : w = 1 <;> simp [Shape.broadcast, hw]

theorem records_binary {o : String} {op : Float32 → Float32 → Float32}
    {mk : NodeId → NodeId → Step} {d' : DType} (hva : (g.node a).value.Is d s f)
    (hvb : (g.node b).value.Is d' s h) :
    Records (binary o op mk a b) g (·.Is d s (fun k => d.lift₂ op (f k) (h k))) := by
  have hzip := hva.zipWith hvb (d.lift₂ op)
  refine Records.of_run_eq (y := push (Tensor.zipWith (d.lift₂ op) (g.node a).value
    (g.node b).value) (mk a b)) ?_ (records_push _ hzip)
  show (lift (Tensor.binary o op (g.node a).value (g.node b).value) >>= fun v =>
    push v (mk a b)).run g = _
  rw [hva.binary hvb, hva.dtype_eq]
  rfl

/-- A matrix less a column, each row less its own element: the column is repeated along the
rows first unless the matrix has one column. -/
theorem records_broadcastSub_column {rows w : Nat} (ha : a < g.nodes.size)
    (hb : b < g.nodes.size) (hva : (g.node a).value.Is d [rows, w] f)
    (hvb : (g.node b).value.Is d [rows, 1] h) :
    Records (broadcastSub a b) g
      (·.Is d [rows, w] (fun k => d.lift₂ (· - ·) (f k) (h (k / w)))) := by
  have hself : (([rows, w] : Shape) == [rows, w]) = true := beq_self_eq_true _
  refine Records.of_run_eq (y := if ([rows, w] : Shape) == [rows, 1] then pure b >>= sub a
    else broadcastAs b [rows, w] >>= sub a) ?_ ?_
  · unfold broadcastSub broadcastBinary
    rw [run_shapeOf_bind, run_shapeOf_bind, hva.shape_eq, hvb.shape_eq, shape_broadcast_column]
    dsimp only
    rw [hself]
    rfl
  split
  · rename_i hsame
    obtain rfl : w = 1 := by simpa using hsame
    refine (records_pure hb (P := (·.Is d [rows, 1] (fun k => h (k / 1)))) (by simpa using hvb)).bind
      fun b' g' hext _ hb' => ?_
    rw [← hext.node_eq ha] at hva
    exact records_binary hva hb'
  · refine (records_broadcastAs (P := (·.Is d [rows, w] (fun k => h (k / w)))) [rows, w]
      hvb.broadcastAs_column).bind fun b' g' hext _ hb' => ?_
    rw [← hext.node_eq ha] at hva
    exact records_binary hva hb'

theorem records_unary {op : Float32 → Float32} {mk : NodeId → Step}
    (hv : (g.node a).value.Is d s f) :
    Records (unary op mk a) g (·.Is d s (fun k => d.lift op (f k))) :=
  Records.of_run_eq (y := push ((g.node a).value.unary op) (mk a)) rfl
    (records_push _ (hv.unary op))

theorem records_sumKeep {P : Tensor → Prop} (dims : List Nat)
    (hP : P ((g.node a).value.sumKeep dims)) : Records (sumKeep a dims) g P :=
  Records.of_run_eq (y := push ((g.node a).value.sumKeep dims) (.sum a dims)) rfl
    (records_push _ hP)

theorem records_sumKeep_last {rows w : Nat} (hv : (g.node a).value.Is d [rows, w] f) :
    Records (sumKeep a [1]) g
      (·.Is d [rows, 1] (fun o => (rowOf f w o).foldl (d.lift₂ (· + ·)) 0)) :=
  records_sumKeep [1] hv.sumKeep_last

theorem records_pick {rows w : Nat} (hv : (g.node a).value.Is d [rows, w] f) (ids : List Nat)
    (hlen : ids.length = rows) (hids : ∀ i ∈ ids, i < w) :
    Records (pick a ids) g (·.Is d [rows, 1] (fun r => f (r * w + ids.getD r 0))) := by
  obtain ⟨p, hpick, hp⟩ := hv.pickInRows ids hlen hids
  refine Records.of_run_eq (y := push p (.pick a ids)) ?_ (records_push _ hp)
  show (lift ((g.node a).value.pickInRows ids) >>= fun v => push v (.pick a ids)).run g = _
  rw [hpick]
  rfl

/-- Dropping a dimension of length one keeps every element where it is. -/
theorem records_squeeze (hv : (g.node a).value.Is d s f) {i : Nat} (hi : s.getD i 0 = 1)
    (hs : Shape.numel (s.eraseIdx i) = s.numel) :
    Records (squeeze a i) g (·.Is d (s.eraseIdx i) f) := by
  have hdim : ((g.node a).value.dim i == 1) = true := by
    show ((g.node a).value.shape.getD i 0 == 1) = true
    rw [hv.shape_eq, hi]
    rfl
  have hreshape : (g.node a).value.reshape ((g.node a).value.shape.eraseIdx i) =
      .ok { (g.node a).value with shape := s.eraseIdx i } := by
    rw [hv.shape_eq]
    exact hv.reshape hs
  refine Records.of_run_eq (y := pushWith { (g.node a).value with shape := s.eraseIdx i }
    (.reshape a) (g.node a).tracked ((g.node a).strides.eraseIdx i)) ?_
    (records_pushWith _ _ _ (hv.withShape hs))
  show (if (g.node a).value.dim i == 1 then
      lift ((g.node a).value.reshape ((g.node a).value.shape.eraseIdx i)) >>= fun v =>
        pushWith v (.reshape a) (g.node a).tracked ((g.node a).strides.eraseIdx i)
    else pure a).run g = _
  rw [hdim, if_pos rfl, hreshape]
  rfl

/-- The sum of a vector, added left to right from zero, as a value of no dimensions. -/
theorem records_sumAll_vector {n : Nat} (hv : (g.node a).value.Is d [n] f) :
    Records (sumAll a) g
      (·.Is d [] (fun _ => (List.range n).foldl (fun acc i => d.lift₂ (· + ·) acc (f i)) 0)) := by
  have hrank : (g.node a).value.rank = 1 := by simp [Tensor.rank, hv.shape_eq]
  have hsum : (⟨d, [1], #[(List.range n).foldl (fun acc i => d.lift₂ (· + ·) acc (f i)) 0]⟩ :
      Tensor).Is d [1] (fun _ => (List.range n).foldl (fun acc i => d.lift₂ (· + ·) acc (f i)) 0) :=
    ⟨rfl, rfl, rfl, fun i hi => by
      obtain rfl : i = 0 := by simpa [Shape.numel_one] using hi
      rfl⟩
  refine Records.of_run_eq (y := sumKeep a [0] >>= fun s => squeeze s 0) ?_ ?_
  · unfold sumAll
    rw [run_value_bind, hrank]
    rfl
  have hsummed : Records (sumKeep a [0]) g (·.Is d [1]
      (fun _ => (List.range n).foldl (fun acc i => d.lift₂ (· + ·) acc (f i)) 0)) :=
    records_sumKeep [0] (by rw [hv.sumKeep_vector]; exact hsum)
  exact hsummed.bind fun s' g' _ _ hs' => records_squeeze hs' rfl rfl

theorem records_affine (hv : (g.node a).value.Is d s f) (mul add : Float) :
    Records (affine a mul add) g (·.Is d s (fun k => d.affine mul add (f k))) := by
  unfold affine
  exact Records.of_run_eq (run_get_bind g _) (records_pushWith _ _ _ (hv.affine mul add))

/-- The log-softmax of every row of a matrix: the row's maximum subtracted, then the logarithm
of the row's sum of exponentials. -/
theorem records_logSoftmaxLast {rows w : Nat} (ha : a < g.nodes.size)
    (hv : (g.node a).value.Is .f32 [rows, w] f) (hrows : 0 < rows) (hw : 0 < w) :
    Records (logSoftmaxLast a) g
      (·.Is .f32 [rows, w] (fun k => (logSoftmaxRow (rowOf f w (k / w))).getD (k % w) 0)) := by
  have hlast : (g.node a).value.rank - 1 = 1 := by simp [Tensor.rank, hv.shape_eq]
  unfold logSoftmaxLast
  refine Records.of_run_eq (run_value_bind g a _) ?_
  simp only [hlast]
  -- each step's operands are nodes of the graph it runs on, so their values carry over
  refine (records_maxKeep_last hv hrows hw).bind fun m g₁ h₁ hm hvm => ?_
  rw [← h₁.node_eq ha] at hv
  refine (records_broadcastSub_column (h₁.lt_size ha) hm hv hvm).bind
    fun δ g₂ h₂ hδ hvδ => ?_
  refine (records_unary hvδ).bind fun e g₃ h₃ _ hve => ?_
  refine (records_sumKeep_last hve).bind fun σ g₄ h₄ _ hvσ => ?_
  refine (records_unary hvσ).bind fun l g₅ h₅ hl hvl => ?_
  have h₃₅ := h₃.trans (h₄.trans h₅)
  rw [← h₃₅.node_eq hδ] at hvδ
  refine (records_broadcastSub_column (h₃₅.lt_size hδ) hl hvδ hvl).mono fun t ht => ht.congr ?_
  intro k _
  obtain ⟨o, j, hj, rfl⟩ : ∃ o j, j < w ∧ k = o * w + j :=
    ⟨k / w, k % w, Nat.mod_lt _ hw, (Nat.div_add_mod' k w).symm⟩
  simp only [Tensor.mul_add_div_of_lt o hj, Tensor.mul_add_mod_of_lt o hj, DType.f32_lift₂,
    DType.f32_lift]
  rw [getD_logSoftmaxRow _ (by simpa using hj), getD_rowOf _ _ hj, rowMax, headD_rowOf _ _ hw]
  -- the sum of exponentials reads each element of row `o` less that row's maximum
  congr 2
  simp only [rowOf, List.foldl_map, List.map_map, DType.f32_lift₂]
  exact Tensor.foldl_congr_mem _ _ fun acc j' hj' => by
    rw [Function.comp_apply, Tensor.mul_add_div_of_lt o (List.mem_range.mp hj')]

end Steps

end Graph

end LowRankTuner
