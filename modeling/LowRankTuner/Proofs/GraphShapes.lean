import Mathlib
import LowRankTuner.Model.Forward
import LowRankTuner.Proofs.GraphSteps
import LowRankTuner.Proofs.AdapterLayout
/-!
# The shapes of graph steps

Which steps of a computation graph can refuse their operands depends on shapes alone: a
reshape on the number of elements, a product on the inner and batch dimensions, a broadcast on
the dimensions matched from the right, a slice on the length of its dimension, a selection of
rows on the indices, a maximum on there being an element.  This module gives, for every step the
forward pass of a model records, the shape it records from the shapes of its operands
(`Graph.Records x g (·.shape = s)`), under exactly the conditions that keep it from refusing:

* element-wise steps, conversions and copies keep the shape; a binary step needs one shape, and
  a broadcast step the rule of `Shape.broadcast_of_fits`;
* `matmul` takes `pre ++ [m, k]` and `pre ++ [k, n]` to `pre ++ [m, n]`, and `t` exchanges the
  last two dimensions;
* `softmaxLast` keeps the shape of every operand with an element;
* the composite steps of attention: `applyRotary` keeps the shape of heads of an even size, and
  `repeatKv` multiplies the head count by the group count;
* the tables of positions and the bias of a mask are built without a fault.
-/

namespace LowRankTuner

namespace Shape

theorem numel_eq_prod (s : Shape) : s.numel = s.prod := by
  rw [numel, List.prod_eq_foldl]

@[simp] theorem numel_cons (a : Nat) (s : Shape) : numel (a :: s) = a * numel s := by
  simp [numel_eq_prod]

@[simp] theorem numel_append (s t : Shape) : numel (s ++ t) = numel s * numel t := by
  simp [numel_eq_prod]

/-- A unit dimension inserted anywhere leaves the number of elements. -/
theorem numel_insert_one (s : Shape) (d : Nat) : numel (s.take d ++ [1] ++ s.drop d) = numel s := by
  rw [numel_append, numel_append, numel_one, Nat.mul_one, ← numel_append, List.take_append_drop]

theorem mapM_eq_some_map {α β : Type} {f : α → Option β} {g : α → β} :
    ∀ {xs : List α}, (∀ x ∈ xs, f x = some (g x)) → xs.mapM f = some (xs.map g)
  | [], _ => rfl
  | x :: xs, h => by
    rw [List.mapM_cons, h x List.mem_cons_self,
      mapM_eq_some_map fun y hy => h y (List.mem_cons_of_mem x hy)]
    rfl

/-- A shape broadcast with another stays as it is when each dimension of the other, matched
from the right and padded with ones, equals its own or is one. -/
theorem broadcast_of_fits {l r : Shape} (hlen : r.length ≤ l.length)
    (h : ∀ p ∈ l.zip (List.replicate (l.length - r.length) 1 ++ r), p.2 = p.1 ∨ p.2 = 1) :
    broadcast l r = some l := by
  unfold broadcast
  dsimp only
  rw [Nat.max_eq_left hlen, Nat.sub_self, List.replicate_zero, List.nil_append]
  have hpad : l.length ≤ (List.replicate (l.length - r.length) 1 ++ r).length := by simp; omega
  conv_rhs => rw [← List.map_fst_zip hpad]
  refine mapM_eq_some_map fun p hp => ?_
  obtain ⟨x, y⟩ := p
  have hxy : y = x ∨ y = 1 := h (x, y) hp
  -- a dimension equal to its partner or facing a one is kept
  rcases hxy with rfl | rfl
  · simp
  · by_cases hx : x = 1 <;> simp [hx]

/-- Setting one dimension to one gives a shape that broadcasts back to the whole. -/
theorem broadcast_set_one (s : Shape) (d : Nat) : broadcast s (s.set d 1) = some s := by
  refine broadcast_of_fits (by simp) fun p hp => ?_
  rw [List.length_set, Nat.sub_self, List.replicate_zero, List.nil_append] at hp
  obtain ⟨i, hi, rfl⟩ := List.mem_iff_getElem.1 hp
  simp only [List.getElem_zip, List.getElem_set]
  split <;> simp

/-- The causal part `[1, 1, s, s]` of an attention bias and its padding part `[b, 1, 1, s]`
broadcast to `[b, 1, s, s]`. -/
theorem broadcast_causal_padding (b s : Nat) :
    broadcast [1, 1, s, s] [b, 1, 1, s] = some [b, 1, s, s] := by
  by_cases hb : b = 1 <;> by_cases hs : s = 1 <;> simp [broadcast, hb, hs] <;> simp [Ne.symm hb]

end Shape

namespace Tensor

theorem reshape_of_numel {t : Tensor} {s : Shape} (hs : s.numel = t.shape.numel) :
    t.reshape s = .ok { t with shape := s } := by
  simp [reshape, numel, hs]

@[simp] theorem shape_unary (t : Tensor) (f : Float32 → Float32) : (t.unary f).shape = t.shape :=
  rfl

@[simp] theorem shape_affine (t : Tensor) (mul add : Float) :
    (t.affine mul add).shape = t.shape := rfl

@[simp] theorem shape_transpose (t : Tensor) (i j : Nat) :
    (t.transpose i j).shape = swapEntries t.shape i j := rfl

@[simp] theorem shape_sumKeep (t : Tensor) (dims : List Nat) :
    (t.sumKeep dims).shape = dims.foldl (fun s d => s.set d 1) t.shape := rfl

/-- Exchanging the last two dimensions. -/
theorem swapEntries_last_two (pre : Shape) (m n : Nat) :
    swapEntries (pre ++ [m, n]) pre.length (pre.length + 1) = pre ++ [n, m] := by
  simp [swapEntries]

/-- The batched product of `pre ++ [m, k]` by `pre ++ [k, n]` is never refused and has shape
`pre ++ [m, n]`. -/
theorem matmul_shape {x y : Tensor} {pre : Shape} {m k n : Nat} (hx : x.shape = pre ++ [m, k])
    (hy : y.shape = pre ++ [k, n]) : ∃ v, x.matmul y = .ok v ∧ v.shape = pre ++ [m, n] := by
  -- the product reads the dimensions `r - 2` and `r - 1` of both operands, of rank `r`
  have hry : y.rank = x.rank := by simp [rank, hx, hy]
  have h2 : x.rank - 2 = pre.length := by simp [rank, hx]
  have h1 : x.rank - 1 = pre.length + 1 := by simp [rank, hx]
  have hm : x.dim pre.length = m := by simp [dim, hx]
  have hk : x.dim (pre.length + 1) = k := by simp [dim, hx]
  have hn : y.dim (pre.length + 1) = n := by simp [dim, hy]
  have hk' : y.dim pre.length = k := by simp [dim, hy]
  have hpre : x.shape.take pre.length = pre := by simp [hx]
  have hpre' : y.shape.take pre.length = pre := by simp [hy]
  unfold matmul
  simp only [hry, h2, h1, hm, hk, hn, hk', hpre, hpre']
  split_ifs <;> simp_all [zeros, full, generate]

end Tensor

namespace Graph

/-- Node `a` is in `g` and holds a value of shape `s`. -/
def Holds (g : Graph) (a : NodeId) (s : Shape) : Prop :=
  a < g.nodes.size ∧ (g.node a).value.shape = s

section Shapes

variable {g g' : Graph} {a b : NodeId} {s : Shape}

theorem Holds.mono (h : g.Holds a s) (hg : g.Extends g') : g'.Holds a s :=
  ⟨hg.lt_size h.1, by rw [hg.node_eq h.1]; exact h.2⟩

/-- A step run on a node of a known shape that an earlier step recorded. -/
theorem Records.bind_holds {x : GraphM NodeId} {f : NodeId → GraphM NodeId} {Q : Tensor → Prop}
    (hx : Records x g (·.shape = s))
    (hf : ∀ i g', g.Extends g' → g'.Holds i s → Records (f i) g' Q) : Records (x >>= f) g Q :=
  hx.bind fun i g' hg hi hs => hf i g' hg ⟨hi, hs⟩

theorem records_holds (h : g.Holds a s) : Records (pure a) g (·.shape = s) :=
  records_pure h.1 h.2

/-! Steps that read the graph, a value or a tensor result, peeled off one at a time. -/

theorem Records.of_get_bind {k : Graph → GraphM NodeId} {P : Tensor → Prop}
    (h : Records (k g) g P) : Records (get >>= k) g P :=
  Records.of_run_eq (run_get_bind g k) h

theorem Records.of_value_bind {k : Tensor → GraphM NodeId} {P : Tensor → Prop}
    (h : Records (k (g.node a).value) g P) : Records (value a >>= k) g P :=
  Records.of_run_eq (run_value_bind g a k) h

theorem Records.of_lift_bind {α : Type} {r : Except ShapeFault α} {v : α}
    {k : α → GraphM NodeId} {P : Tensor → Prop} (hr : r = .ok v) (h : Records (k v) g P) :
    Records (lift r >>= k) g P := by
  subst hr
  exact Records.of_run_eq rfl h

theorem records_reshape_shape (h : g.Holds a s) {s' : Shape} (hs : s'.numel = s.numel) :
    Records (reshape a s') g (·.shape = s') :=
  Records.of_value_bind <| Records.of_lift_bind (Tensor.reshape_of_numel (by rw [h.2, hs]))
    (records_push _ rfl)

theorem records_transpose_shape (h : g.Holds a s) {i j : Nat} (hij : i ≠ j) :
    Records (transpose a i j) g (·.shape = Tensor.swapEntries s i j) := by
  unfold transpose
  rw [if_neg (by simpa using hij)]
  exact Records.of_get_bind (records_pushWith _ _ _ (by rw [Tensor.shape_transpose, h.2]))

/-- `t` exchanges the last two dimensions. -/
theorem records_t_shape (pre : Shape) {m n : Nat} (h : g.Holds a (pre ++ [m, n])) :
    Records (t a) g (·.shape = pre ++ [n, m]) := by
  have hrank : (g.node a).value.rank = pre.length + 2 := by simp [Tensor.rank, h.2]
  unfold t
  refine Records.of_value_bind ?_
  rw [hrank, if_neg (by omega), Nat.add_sub_cancel,
    show pre.length + 2 - 1 = pre.length + 1 by omega,
    ← Tensor.swapEntries_last_two]
  exact records_transpose_shape h (by omega)

theorem records_contiguous_shape (h : g.Holds a s) : Records (contiguous a) g (·.shape = s) := by
  unfold contiguous
  refine Records.of_get_bind ?_
  dsimp only
  split
  · exact records_holds h
  · exact records_push _ h.2

theorem records_matmul_shape (pre : Shape) {m k n : Nat} (ha : g.Holds a (pre ++ [m, k]))
    (hb : g.Holds b (pre ++ [k, n])) : Records (matmul a b) g (·.shape = pre ++ [m, n]) := by
  obtain ⟨v, hmul, hv⟩ := Tensor.matmul_shape ha.2 hb.2
  unfold matmul
  refine Records.of_value_bind (Records.of_value_bind (Records.of_lift_bind hmul ?_))
  -- an empty product is recorded as an input, any other as a product
  dsimp only
  split
  · exact records_input _ hv
  · exact records_push _ hv

/-- A binary step on operands of one shape. -/
theorem records_binary_shape {o : String} {f : Float32 → Float32 → Float32}
    {mk : NodeId → NodeId → Step} (ha : g.Holds a s) (hb : g.Holds b s) :
    Records (binary o f mk a b) g (·.shape = s) := by
  have hok : Tensor.binary o f (g.node a).value (g.node b).value =
      .ok (Tensor.zipWith ((g.node a).value.dtype.lift₂ f) (g.node a).value (g.node b).value) := by
    simp [Tensor.binary, ha.2, hb.2]
  exact Records.of_value_bind <| Records.of_value_bind <| Records.of_lift_bind hok
    (records_push _ ha.2)

/-- A broadcast step: each operand is repeated to the common shape unless it has it, and the
step runs on operands of that shape. -/
theorem records_broadcastBinary_shape {op : String} {inner : NodeId → NodeId → GraphM NodeId}
    {sa sb : Shape} (ha : g.Holds a sa) (hb : g.Holds b sb) (hs : Shape.broadcast sa sb = some s)
    (hinner : ∀ (g' : Graph) (a' b' : NodeId), g'.Holds a' s → g'.Holds b' s →
      Records (inner a' b') g' (·.shape = s)) :
    Records (broadcastBinary op inner a b) g (·.shape = s) := by
  have hside : ∀ {g' : Graph} {c : NodeId} {sc : Shape}, g'.Holds c sc →
      Records (if s == sc then pure c else broadcastAs c s) g' (·.shape = s) := by
    intro g' c sc hc
    split
    · rename_i hsc
      rw [beq_iff_eq.1 hsc]
      exact records_holds hc
    · exact records_broadcastAs s rfl
  refine Records.of_run_eq (y := (if s == sa then pure a else broadcastAs a s) >>= fun a' =>
    (if s == sb then pure b else broadcastAs b s) >>= fun b' => inner a' b') ?_ ?_
  · unfold broadcastBinary
    rw [run_shapeOf_bind, run_shapeOf_bind, ha.2, hb.2, hs]
    by_cases h₁ : (s == sa) = true <;> by_cases h₂ : (s == sb) = true <;>
      simp only [h₁, h₂, if_true, if_false, Bool.false_eq_true]
  · refine (hside ha).bind_holds fun a' g₁ h₁ ha' => ?_
    refine (hside (hb.mono h₁)).bind_holds fun b' g₂ h₂ hb' => ?_
    exact hinner g₂ a' b' (ha'.mono h₂) hb'

/-- A broadcast binary step of the element format, such as `broadcastAdd`. -/
theorem records_broadcast_shape {op o : String} {f : Float32 → Float32 → Float32}
    {mk : NodeId → NodeId → Step} {sa sb : Shape} (ha : g.Holds a sa) (hb : g.Holds b sb)
    (hs : Shape.broadcast sa sb = some s) :
    Records (broadcastBinary op (binary o f mk) a b) g (·.shape = s) :=
  records_broadcastBinary_shape ha hb hs fun _ _ _ ha' hb' => records_binary_shape ha' hb'

theorem records_unary_shape {f : Float32 → Float32} {mk : NodeId → Step} (h : g.Holds a s) :
    Records (unary f mk a) g (·.shape = s) :=
  Records.of_value_bind (records_push _ h.2)

theorem records_affine_shape (h : g.Holds a s) (mul add : Float) :
    Records (affine a mul add) g (·.shape = s) :=
  Records.of_get_bind (records_pushWith _ _ _ h.2)

theorem records_silu_shape (h : g.Holds a s) : Records (silu a) g (·.shape = s) :=
  Records.of_value_bind (records_push _ h.2)

theorem records_convert_shape (h : g.Holds a s) (d : DType) :
    Records (convert a d) g (·.shape = s) := by
  unfold convert
  refine Records.of_value_bind ?_
  split
  · exact records_holds h
  · exact records_push _ (by rw [Tensor.shape_convert, h.2])

/-- A conversion gives the format asked for, whether it records a node or returns its operand. -/
theorem records_convert_dtype (h : g.Holds a s) (d : DType) :
    Records (convert a d) g (fun t => t.shape = s ∧ t.dtype = d) := by
  unfold convert
  refine Records.of_value_bind ?_
  split
  · rename_i hd
    exact records_pure h.1 ⟨h.2, beq_iff_eq.1 hd⟩
  · exact records_push _ ⟨by rw [Tensor.shape_convert, h.2], Tensor.dtype_convert _ _⟩

/-- A named input changes the names of the graph, not its nodes. -/
theorem records_inputNamed (name : String) {t : Tensor} (ht : t.shape = s) :
    Records (inputNamed name t) g (·.shape = s) := by
  have h := extends_push g ⟨t, .input true, true, Shape.strides t.shape⟩
  refine ⟨g.nodes.size, _, rfl, h.1.trans ⟨Nat.le_refl _, fun _ _ => rfl⟩, by simp, ?_⟩
  exact (congrArg (fun n : Node => n.value.shape) h.2).trans ht

theorem records_sumKeep_shape (h : g.Holds a s) (dims : List Nat) :
    Records (sumKeep a dims) g (·.shape = dims.foldl (fun s d => s.set d 1) s) :=
  records_sumKeep dims (by rw [Tensor.shape_sumKeep, h.2])

theorem records_meanLast_shape (h : g.Holds a s) :
    Records (meanLast a) g (·.shape = s.set (s.length - 1) 1) := by
  have hrank : (g.node a).value.rank = s.length := by rw [Tensor.rank, h.2]
  unfold meanLast
  refine Records.of_value_bind ?_
  rw [hrank]
  exact (records_sumKeep_shape h _).bind_holds fun _ _ _ hs => records_affine_shape hs _ _

/-- A maximum along a dimension is refused only for an operand without elements. -/
theorem records_maxKeep_shape (h : g.Holds a s) (hne : s.numel ≠ 0) (d : Nat) :
    Records (maxKeep a d) g (·.shape = s.set d 1) := by
  have hok : ∃ v, (g.node a).value.maxKeep d = .ok v ∧ v.shape = s.set d 1 := by
    unfold Tensor.maxKeep
    rw [if_neg (by simpa [Tensor.numel, h.2] using hne)]
    exact ⟨_, rfl, by rw [Tensor.shape_generate, h.2]⟩
  obtain ⟨v, hmax, hv⟩ := hok
  exact Records.of_value_bind (Records.of_lift_bind hmax (records_push _ hv))

/-- The softmax along the last dimension keeps the shape of an operand with elements. -/
theorem records_softmaxLast_shape (h : g.Holds a s) (hne : s.numel ≠ 0) :
    Records (softmaxLast a) g (·.shape = s) := by
  have hrank : (g.node a).value.rank = s.length := by rw [Tensor.rank, h.2]
  unfold softmaxLast
  refine Records.of_value_bind ?_
  rw [hrank]
  -- the maximum and the sum are kept as a unit last dimension, which broadcasts back
  refine (records_maxKeep_shape h hne _).bind_holds fun m g₁ h₁ hm => ?_
  refine (records_broadcast_shape (h.mono h₁) hm (Shape.broadcast_set_one s _)).bind_holds
    fun δ g₂ _ hδ => ?_
  refine (records_unary_shape hδ).bind_holds fun e g₃ _ he => ?_
  refine (records_sumKeep_shape he _).bind_holds fun σ g₄ h₄ hσ => ?_
  exact records_broadcast_shape (he.mono h₄) hσ (Shape.broadcast_set_one s _)

/-- A slice that fits its dimension sets that dimension to its length. -/
theorem records_narrow_shape (h : g.Holds a s) {d start len : Nat} (hd : d < s.length)
    (hfit : start + len ≤ s.getD d 0) :
    Records (narrow a d start len) g (·.shape = s.set d len) := by
  have hfault : s.narrowFault? d start len = none := by
    simp only [Shape.narrowFault?]
    rw [if_neg (by omega), if_neg (by omega), if_neg (by omega)]
  have hok : (g.node a).value.narrow d start len = .ok ((g.node a).value.readAs (s.set d len)
      (Shape.strides s) (start * (Shape.strides s).getD d 0)) := by
    unfold Tensor.narrow
    rw [h.2, hfault]
  unfold narrow
  refine Records.of_get_bind (Records.of_lift_bind hok ?_)
  split
  · -- the whole dimension: the operand itself
    rename_i hall
    have hlen : len = s[d] := by
      simp only [Bool.and_eq_true, beq_iff_eq, Tensor.dim, h.2] at hall
      rw [hall.2, List.getD_eq_getElem _ _ hd]
    rw [hlen, List.set_getElem_self]
    exact records_holds h
  · exact records_pushWith _ _ _ rfl

theorem records_unsqueeze_shape (h : g.Holds a s) (d : Nat) :
    Records (unsqueeze a d) g (·.shape = s.take d ++ [1] ++ s.drop d) := by
  have hok : (g.node a).value.reshape ((g.node a).value.shape.take d ++ [1] ++
      (g.node a).value.shape.drop d) =
      .ok { (g.node a).value with shape := s.take d ++ [1] ++ s.drop d } := by
    rw [h.2, Tensor.reshape_of_numel (by rw [h.2]; exact Shape.numel_insert_one s d)]
  unfold unsqueeze
  exact Records.of_get_bind (Records.of_lift_bind hok (records_pushWith _ _ _ rfl))

/-- Two operands joined along dimension `d`: the lengths there add up. -/
theorem records_cat_shape {s' : Shape} (ha : g.Holds a s) (hb : g.Holds b s') (d : Nat) :
    Records (cat [a, b] d) g (·.shape = s.set d (s.getD d 0 + s'.getD d 0)) := by
  refine Records.of_run_eq (y := push (Tensor.cat [(g.node a).value, (g.node b).value] d)
    (.cat [a, b] d)) rfl (records_push _ ?_)
  simp [Tensor.cat, Tensor.dim, ha.2, hb.2]

/-- Rows selected by indices below the first dimension. -/
theorem records_rows_shape {r : Nat} {ids : List Nat} (h : g.Holds a (r :: s))
    (hids : ∀ i ∈ ids, i < r) : Records (rows a ids) g (·.shape = ids.length :: s) := by
  have hnone : Tensor.firstOutside ids r = none := by
    rw [Tensor.firstOutside, List.find?_eq_none]
    intro i hi
    simpa using hids i hi
  have hok : ∃ v, (g.node a).value.selectRows ids = .ok v ∧ v.shape = ids.length :: s := by
    unfold Tensor.selectRows
    rw [if_neg (by simp [Tensor.rank, h.2]),
      show (g.node a).value.dim 0 = r by simp [Tensor.dim, h.2],
      hnone]
    exact ⟨_, rfl, by simp [h.2]⟩
  obtain ⟨v, hsel, hv⟩ := hok
  exact Records.of_value_bind (Records.of_lift_bind hsel (records_push _ hv))

end Shapes

end Graph

/-! ## The steps of attention -/

section Attention

open LowRankTuner.Graph

variable {g : Graph}

/-- Each key/value head repeated `groups` times multiplies the head count by `groups`. -/
theorem records_repeatKv_shape {a : NodeId} {bt kv sq d : Nat} (h : g.Holds a [bt, kv, sq, d])
    (groups : Nat) : Records (repeatKv a groups) g (·.shape = [bt, kv * groups, sq, d]) := by
  unfold repeatKv
  split
  · rename_i hone
    rw [beq_iff_eq.1 hone, Nat.mul_one]
    exact records_holds h
  · refine Records.of_value_bind ?_
    rw [h.2]
    -- a unit dimension after the heads, repeated `groups` times, then merged into the heads
    refine (records_unsqueeze_shape h 2).bind_holds fun u g₁ _ _ => ?_
    refine (records_broadcastAs (P := (·.shape = [bt, kv, groups, sq, d])) _ rfl).bind_holds
      fun e g₂ _ he => ?_
    exact records_reshape_shape he (by simp [Nat.mul_assoc])

/-- Rotating the two halves of heads of an even size `d` by tables `[seq, d / 2]` keeps their
shape. -/
theorem records_applyRotary_shape {x c sn : NodeId} {bt n sq d : Nat}
    (hx : g.Holds x [bt, n, sq, d]) (hc : g.Holds c [sq, d / 2]) (hs : g.Holds sn [sq, d / 2])
    (hd : d % 2 = 0) : Records (applyRotary x c sn) g (·.shape = [bt, n, sq, d]) := by
  have hlast : (g.node x).value.rank - 1 = 3 := by simp [Tensor.rank, hx.2]
  have hhalf : (g.node x).value.dim 3 / 2 = d / 2 := by simp [Tensor.dim, hx.2]
  -- the tables, with two unit dimensions in front, broadcast over the batch and the heads
  have hb : Shape.broadcast [bt, n, sq, d / 2] [1, 1, sq, d / 2] = some [bt, n, sq, d / 2] :=
    Shape.broadcast_of_fits (by simp) (by simp)
  unfold applyRotary
  refine Records.of_value_bind ?_
  simp only [hlast, hhalf]
  refine (records_narrow_shape hx (by simp) (by simp; omega)).bind_holds fun x₁ g₁ e₁ hx₁ => ?_
  refine (records_narrow_shape (hx.mono e₁) (by simp) (by simp; omega)).bind_holds
    fun x₂ g₂ e₂ hx₂ => ?_
  refine (records_unsqueeze_shape (hc.mono (e₁.trans e₂)) 0).bind_holds fun c₁ g₃ e₃ hc₁ => ?_
  refine (records_unsqueeze_shape hc₁ 0).bind_holds fun c₂ g₄ e₄ hc₂ => ?_
  refine (records_unsqueeze_shape (hs.mono (e₁.trans (e₂.trans (e₃.trans e₄)))) 0).bind_holds
    fun s₁ g₅ e₅ hs₁ => ?_
  refine (records_unsqueeze_shape hs₁ 0).bind_holds fun s₂ g₆ e₆ hs₂ => ?_
  -- the halves and the tables as they stand once all four tables are recorded
  have e₂₆ := e₃.trans (e₄.trans (e₅.trans e₆))
  have hx₁' := hx₁.mono (e₂.trans e₂₆)
  have hx₂' := hx₂.mono e₂₆
  have hc₂' := hc₂.mono (e₅.trans e₆)
  refine (records_broadcast_shape hx₁' hc₂' hb).bind_holds fun p₁ g₇ e₇ hp₁ => ?_
  refine (records_broadcast_shape (hx₂'.mono e₇) (hs₂.mono e₇) hb).bind_holds
    fun p₂ g₈ e₈ hp₂ => ?_
  refine (records_binary_shape (hp₁.mono e₈) hp₂).bind_holds fun r₁ g₉ e₉ hr₁ => ?_
  have e₆₉ := e₇.trans (e₈.trans e₉)
  refine (records_broadcast_shape (hx₁'.mono e₆₉) (hs₂.mono e₆₉) hb).bind_holds
    fun q₁ g₁₀ e₁₀ hq₁ => ?_
  refine (records_broadcast_shape (hx₂'.mono (e₆₉.trans e₁₀)) (hc₂'.mono (e₆₉.trans e₁₀))
    hb).bind_holds
    fun q₂ g₁₁ e₁₁ hq₂ => ?_
  refine (records_binary_shape (hq₁.mono e₁₁) hq₂).bind_holds fun r₂ g₁₂ e₁₂ hr₂ => ?_
  -- the two rotated halves joined again fill the even head size
  refine (records_cat_shape (hr₁.mono (e₁₀.trans (e₁₁.trans e₁₂))) hr₂ 3).mono fun t ht => ?_
  rw [ht]
  simp only [List.getD_cons_succ, List.getD_cons_zero, List.set_cons_succ, List.set_cons_zero]
  congr 4
  omega

/-- The rotary tables of `seq` positions are never refused; each is `[seq, f]` for `f`
frequencies. -/
theorem rotaryTables_shape (invFreq : List Float32) (seq : Nat) (dt : DType) :
    ∃ cosT sinT, rotaryTables invFreq seq dt = .ok (cosT, sinT) ∧
      cosT.shape = [seq, invFreq.length] ∧ sinT.shape = [seq, invFreq.length] := by
  -- the angles are the positions `[seq, 1]` times the frequencies `[1, f]`
  obtain ⟨angles, hmul, hangles⟩ := Tensor.matmul_shape
    (show (Tensor.generate .f32 [seq, 1] fun i => float32OfRatio false i 1).shape = [] ++ [seq, 1]
      from rfl)
    (show (⟨.f32, [1, invFreq.length], invFreq.toArray⟩ : Tensor).shape = [] ++ [1, invFreq.length]
      from rfl)
  refine ⟨(angles.unary Float32.cos).convert dt, (angles.unary Float32.sin).convert dt, ?_,
    by simpa using hangles, by simpa using hangles⟩
  unfold rotaryTables
  dsimp only
  rw [hmul]
  rfl

/-- The bias of a mask of `b` rows, the first of length `s`, is `[b, 1, s, s]`, and is never
refused. -/
theorem attentionBias_shape (mask : List (List Nat)) :
    ∃ t, attentionBias mask = .ok t ∧ t.shape = [mask.length, 1,
      (mask.head?.map List.length).getD 0, (mask.head?.map List.length).getD 0] := by
  unfold attentionBias
  dsimp only
  rw [Tensor.reshape_of_numel (by simp)]
  simp only [bind, Except.bind, Tensor.broadcastBinary, Tensor.shape_generate,
    Shape.broadcast_causal_padding]
  exact ⟨_, rfl, rfl⟩

end Attention

end LowRankTuner
