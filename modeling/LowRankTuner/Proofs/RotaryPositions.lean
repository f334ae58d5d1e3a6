import Mathlib
import LowRankTuner.Model.Forward
import LowRankTuner.Proofs.GraphSteps
import LowRankTuner.Proofs.GraphShapes
/-!
# Rotary positions

Attention sees where a token stands through its query and key heads, each turned before the
scores are taken.  A head of `2h` dimensions is cut into halves, and dimension `j < h` is
paired with dimension `j + h`; at position `p` the pair turns by the angle `p · θ^(-2j/(2h))`,
read from the row `p` of the cosine and sine tables.  `rotateHalves` is that turn for one
head vector, over any arithmetic: its three operations are parameters, so that the model's
rounded single-precision steps and exact real arithmetic are instances of one definition.

* `rotaryTables_rows`: row `p` of the tables holds the cosines and sines of `p` times each
  frequency.
* `records_applyRotary`: on `[b, heads, s, 2h]` heads, `applyRotary` records, for every head
  vector at position `p`, the turn of its halves by row `p` of the tables, each product, sum
  and difference rounded to the heads' format (`rotaryRows`).
* In exact arithmetic the turn keeps every vector's length (`sum_sq_rotateReal`) and the
  score of a turned query with a turned key depends on their positions only through their
  difference (`score_rotateReal`), so moving both by the same offset leaves it unchanged
  (`rotary_scores_depend_on_offset`).
-/

namespace LowRankTuner

/-! ## Turning the halves of a head vector -/

/-- The turn of a head vector `x` of `2 * half` dimensions by the angles whose cosines and
sines are `c` and `s`: dimension `j < half` and dimension `j + half` form a pair, turned by
the angle of `j`.  The arithmetic is given by its sum, difference and product. -/
def rotateHalves {α : Type} (add sub mul : α → α → α) (half : Nat) (x c s : Nat → α)
    (j : Nat) : α :=
  if j < half then sub (mul (x j) (c j)) (mul (x (j + half)) (s j))
  else add (mul (x (j - half)) (s (j - half))) (mul (x j) (c (j - half)))

theorem rotateHalves_of_lt {α : Type} (add sub mul : α → α → α) {half j : Nat} (x c s : Nat → α)
    (hj : j < half) :
    rotateHalves add sub mul half x c s j = sub (mul (x j) (c j)) (mul (x (j + half)) (s j)) :=
  if_pos hj

theorem rotateHalves_add_half {α : Type} (add sub mul : α → α → α) (half j : Nat)
    (x c s : Nat → α) :
    rotateHalves add sub mul half x c s (half + j) =
      add (mul (x j) (s j)) (mul (x (half + j)) (c j)) := by
  simp [rotateHalves]

/-- The elements of turned `[b, heads, s, 2h]` heads as `applyRotary` computes them: the head
vector in row `o` stands at position `o % s`, and its halves are turned by that row of the
cosine table `fc` and the sine table `fs`, each product, sum and difference rounded to the
format `d`. -/
def rotaryRows (d : DType) (h s : Nat) (fx fc fs : Nat → Float32) (k : Nat) : Float32 :=
  let o := k / (2 * h)
  let p := o % s
  rotateHalves (d.lift₂ (· + ·)) (d.lift₂ (· - ·)) (d.lift₂ (· * ·)) h
    (fun j => fx (o * (2 * h) + j)) (fun j => fc (p * h + j)) (fun j => fs (p * h + j))
    (k % (2 * h))

/-! ## Joining rows side by side -/

/-- Rows of `h₁` elements of `A` and rows of `h₂` elements of `B`, the first `n` of each joined
side by side, row after row: the data `Tensor.cat` builds along a last dimension. -/
def joinRows (A B : Array Float32) (h₁ h₂ n : Nat) : Array Float32 :=
  Nat.fold n (fun o _ acc => acc ++ A.extract (o * h₁) ((o + 1) * h₁) ++
    B.extract (o * h₂) ((o + 1) * h₂)) #[]

section JoinRows

variable {A B : Array Float32} {h₁ h₂ : Nat}

theorem joinRows_succ (n : Nat) :
    joinRows A B h₁ h₂ (n + 1) = joinRows A B h₁ h₂ n ++ A.extract (n * h₁) ((n + 1) * h₁) ++
      B.extract (n * h₂) ((n + 1) * h₂) :=
  Nat.fold_succ ..

theorem size_extract_row {C : Array Float32} {n w : Nat} (hC : (n + 1) * w ≤ C.size) :
    (C.extract (n * w) ((n + 1) * w)).size = w := by
  rw [Array.size_extract, Nat.min_eq_left hC, Nat.succ_mul, Nat.add_sub_cancel_left]

theorem size_joinRows : ∀ {n : Nat}, n * h₁ ≤ A.size → n * h₂ ≤ B.size →
    (joinRows A B h₁ h₂ n).size = n * (h₁ + h₂)
  | 0, _, _ => by simp [joinRows]
  | n + 1, hA, hB => by
    rw [joinRows_succ, Array.size_append, Array.size_append, size_extract_row hA,
      size_extract_row hB, size_joinRows (Nat.le_trans (Nat.mul_le_mul_right _ (Nat.le_succ n)) hA)
        (Nat.le_trans (Nat.mul_le_mul_right _ (Nat.le_succ n)) hB)]
    ring

theorem getElem?_extract_row {C : Array Float32} {n w j : Nat} (hC : (n + 1) * w ≤ C.size)
    (hj : j < w) : (C.extract (n * w) ((n + 1) * w))[j]? = C[n * w + j]? := by
  rw [Array.getElem?_extract, if_pos (by rw [Nat.min_eq_left hC, Nat.succ_mul]; omega)]

/-- Element `k` of the joined rows: row `k / (h₁ + h₂)`, taken from `A` in its first `h₁`
places and from `B` after them. -/
theorem getD_joinRows {k : Nat} : ∀ {n : Nat}, n * h₁ ≤ A.size → n * h₂ ≤ B.size →
    k < n * (h₁ + h₂) →
    (joinRows A B h₁ h₂ n).getD k 0 =
      if k % (h₁ + h₂) < h₁ then A.getD (k / (h₁ + h₂) * h₁ + k % (h₁ + h₂)) 0
      else B.getD (k / (h₁ + h₂) * h₂ + (k % (h₁ + h₂) - h₁)) 0
  | 0, _, _, hk => absurd hk (by simp)
  | n + 1, hA, hB, hk => by
    have hA' : n * h₁ ≤ A.size := Nat.le_trans (Nat.mul_le_mul_right _ (Nat.le_succ n)) hA
    have hB' : n * h₂ ≤ B.size := Nat.le_trans (Nat.mul_le_mul_right _ (Nat.le_succ n)) hB
    have hsize := size_joinRows hA' hB'
    rw [joinRows_succ]
    by_cases hold : k < n * (h₁ + h₂)
    · -- an earlier row
      rw [Array.getD_eq_getD_getElem?, Array.getElem?_append_left (by simp; omega),
        Array.getElem?_append_left (by omega), ← Array.getD_eq_getD_getElem?]
      exact getD_joinRows hA' hB' hold
    · -- the new row: `k` is `n` rows and `j` places in
      obtain ⟨j, rfl⟩ : ∃ j, k = n * (h₁ + h₂) + j := ⟨k - n * (h₁ + h₂), by omega⟩
      have hj : j < h₁ + h₂ := by rw [Nat.succ_mul] at hk; omega
      rw [Tensor.mul_add_div_of_lt n hj, Tensor.mul_add_mod_of_lt n hj, Array.getD_eq_getD_getElem?,
        Array.getD_eq_getD_getElem?, Array.getD_eq_getD_getElem?]
      split
      · rename_i hj₁
        rw [Array.getElem?_append_left (by rw [Array.size_append, size_extract_row hA]; omega),
          Array.getElem?_append_right (by omega), hsize, Nat.add_sub_cancel_left,
          getElem?_extract_row hA hj₁]
      · rename_i hj₁
        rw [Array.getElem?_append_right (by rw [Array.size_append, size_extract_row hA]; omega),
          Array.size_append, size_extract_row hA, hsize,
          show n * (h₁ + h₂) + j - (n * (h₁ + h₂) + h₁) = j - h₁ by omega,
          getElem?_extract_row hB (by omega)]

end JoinRows

/-! ## Four-dimensional layouts -/

namespace Shape

theorem strides_four (a b c e : Nat) : Shape.strides [a, b, c, e] = [b * c * e, c * e, e, 1] := by
  simp only [Shape.strides, List.foldr, Nat.one_mul, List.cons.injEq, and_true]
  exact ⟨by ring, by ring⟩

theorem offset_four (a b c e sa sb sc se k : Nat) :
    Shape.offset [a, b, c, e] [sa, sb, sc, se] k =
      k % e * se + k / e % c * sc + k / e / c % b * sb + k / e / c / b % a * sa := by
  simp [Shape.offset]

theorem numel_four (a b c e : Nat) : Shape.numel [a, b, c, e] = a * b * c * e := by
  simp [Shape.numel]

/-- The row `o` of a `[b, heads, s, ·]` array, read through its three leading strides, is
`o` rows in. -/
theorem rows_recompose {b heads s o : Nat} (ho : o < b * heads * s) (w : Nat) :
    o % s * w + o / s % heads * (s * w) + o / s / heads % b * (heads * s * w) = o * w := by
  have hb : o / s / heads < b := by
    rw [Nat.div_div_eq_div_mul]
    exact Nat.div_lt_of_lt_mul (by rwa [Nat.mul_comm, Nat.mul_comm s, ← Nat.mul_assoc])
  have e1 := Nat.mod_add_div (o / s) heads
  have e2 := Nat.mod_add_div o s
  rw [Nat.mod_eq_of_lt hb]
  calc o % s * w + o / s % heads * (s * w) + o / s / heads * (heads * s * w)
      = (o % s + s * (o / s % heads + heads * (o / s / heads))) * w := by ring
    _ = o * w := by rw [e1, e2]

end Shape

namespace Tensor

section Layout

variable {t : Tensor} {d : DType} {f : Nat → Float32}

/-- A slice of the last dimension of a `[b, heads, s, w]` array: element `j` of row `o` of
the slice is element `start + j` of row `o`. -/
theorem Is.narrow_last {b heads s w start len : Nat} (h : t.Is d [b, heads, s, w] f)
    (hfit : start + len ≤ w) :
    ∃ n, t.narrow 3 start len = .ok n ∧
      n.Is d [b, heads, s, len] (fun k => f (k / len * w + start + k % len)) := by
  have hnarrow : t.narrow 3 start len =
      .ok (t.readAs [b, heads, s, len] [heads * s * w, s * w, w, 1] start) := by
    simp [Tensor.narrow, Shape.narrowFault?, h.shape_eq, Shape.strides_four,
      show ¬ w < start by omega, show ¬ w < start + len by omega]
  refine ⟨_, hnarrow, ⟨h.dtype_eq, rfl, size_generate .., fun k hk => ?_⟩⟩
  rw [Shape.numel_four] at hk
  have hlen : 0 < len := Nat.pos_of_ne_zero fun h0 => by simp [h0] at hk
  have hrow : k / len < b * heads * s := Nat.div_lt_of_lt_mul (by rwa [Nat.mul_comm])
  have hidx : k / len * w + start + k % len < Shape.numel [b, heads, s, w] := by
    rw [Shape.numel_four]
    have := mul_add_lt hrow (show start + k % len < w by
      have := Nat.mod_lt k hlen
      omega)
    omega
  rw [get_readAs _ _ _ _ (by rw [Shape.numel_four]; exact hk), Shape.offset_four,
    ← h.get_eq _ hidx, ← Shape.rows_recompose hrow w]
  congr 1
  ring

/-- A table `[1, 1, s, h]` read as `[b, heads, s, h]`: every head at position `p` reads row
`p` of the table. -/
theorem Is.broadcastAs_table {b heads s h : Nat} (ht : t.Is d [1, 1, s, h] f) :
    (t.broadcastAs [b, heads, s, h]).Is d [b, heads, s, h] (fun k => f (k / h % s * h + k % h)) := by
  refine ⟨ht.dtype_eq, rfl, size_generate .., fun k hk => ?_⟩
  rw [Shape.numel_four] at hk
  have hh : 0 < h := Nat.pos_of_ne_zero fun h0 => by simp [h0] at hk
  have hs : 0 < s := Nat.pos_of_ne_zero fun h0 => by simp [h0] at hk
  have hidx : k / h % s * h + k % h < Shape.numel [1, 1, s, h] := by
    simp only [Shape.numel_four, Nat.one_mul]
    exact mul_add_lt (Nat.mod_lt _ hs) (Nat.mod_lt _ hh)
  rw [broadcastAs, get_readAs _ _ _ _ (by rw [Shape.numel_four]; exact hk), ← ht.get_eq _ hidx]
  simp only [Shape.broadcastStrides, ht.shape_eq, Shape.strides_four, List.length_cons,
    List.length_nil, Nat.sub_self, List.replicate_zero, List.nil_append, List.zip_cons_cons,
    List.zip_nil_right, List.map_cons, List.map_nil, beq_self_eq_true, if_true,
    Shape.offset_four, Nat.mul_zero, Nat.add_zero, Nat.zero_add]
  -- a unit dimension is read with stride zero, where its index is zero anyway
  congr 1
  by_cases h1 : h = 1 <;> by_cases s1 : s = 1 <;> simp [h1, s1, Nat.add_comm, Nat.mod_one]

/-- Two arrays that agree but in their last dimension, joined along it: each row holds the
row of the first, then the row of the second. -/
theorem Is.cat_last {pre : Shape} {h₁ h₂ : Nat} {u : Tensor} {d' : DType} {g : Nat → Float32}
    (ht : t.Is d (pre ++ [h₁]) f) (hu : u.Is d' (pre ++ [h₂]) g) :
    (Tensor.cat [t, u] pre.length).Is d (pre ++ [h₁ + h₂]) (fun k =>
      if k % (h₁ + h₂) < h₁ then f (k / (h₁ + h₂) * h₁ + k % (h₁ + h₂))
      else g (k / (h₁ + h₂) * h₂ + (k % (h₁ + h₂) - h₁))) := by
  have hA : Shape.numel pre * h₁ ≤ t.data.size := by
    rw [ht.size_eq, Shape.numel_append, Shape.numel_one]
  have hB : Shape.numel pre * h₂ ≤ u.data.size := by
    rw [hu.size_eq, Shape.numel_append, Shape.numel_one]
  have hdata : (Tensor.cat [t, u] pre.length).data =
      joinRows t.data u.data h₁ h₂ (Shape.numel pre) := by
    have houter : Shape.numel (t.shape.take pre.length) = Shape.numel pre := by
      rw [ht.shape_eq, List.take_left' rfl]
    simp only [Tensor.cat, joinRows, List.foldl_cons, List.foldl_nil, ht.shape_eq, hu.shape_eq,
      List.drop_left', Shape.numel_one, Array.append_assoc]
    rw [houter]
  have hshape : (Tensor.cat [t, u] pre.length).shape = pre ++ [h₁ + h₂] := by
    simp [Tensor.cat, ht.shape_eq, hu.shape_eq, Tensor.dim, List.set_append_right]
  refine ⟨by simp [Tensor.cat, ht.dtype_eq], hshape, ?_, fun k hk => ?_⟩
  · rw [hdata, size_joinRows hA hB, Shape.numel_append, Shape.numel_one]
  rw [Shape.numel_append, Shape.numel_one] at hk
  have hw : 0 < h₁ + h₂ := Nat.pos_of_ne_zero fun h0 => by simp [h0] at hk
  have hrow : k / (h₁ + h₂) < Shape.numel pre := Nat.div_lt_of_lt_mul (by rwa [Nat.mul_comm])
  have hj := Nat.mod_lt k hw
  rw [get, hdata, getD_joinRows hA hB hk]
  split
  · rename_i hj₁
    exact ht.get_eq _ (by rw [Shape.numel_append, Shape.numel_one]; exact mul_add_lt hrow hj₁)
  · exact hu.get_eq _ (by rw [Shape.numel_append, Shape.numel_one]; exact mul_add_lt hrow (by omega))

/-- A single-precision array converted to a format: every element rounded to it. -/
theorem Is.convert_of_f32 {s : Shape} (h : t.Is .f32 s f) (d' : DType) :
    (t.convert d').Is d' s (fun i => d'.round (f i)) := by
  unfold convert
  split
  · rename_i hd
    obtain rfl : d' = .f32 := (beq_iff_eq.mp hd).symm.trans h.dtype_eq
    exact ⟨h.dtype_eq, h.shape_eq, h.size_eq, fun i hi => h.get_eq i hi⟩
  · exact ⟨rfl, h.shape_eq, by simp [Tensor.map, h.size_eq],
      fun i hi => by rw [← h.get_eq i hi]; exact get_map _ _ (h.size_eq ▸ hi)⟩

end Layout

end Tensor

/-! ## The steps of `applyRotary` -/

namespace Graph

/-- Node `a` is in `g` and holds the tensor of format `d` and shape `s` whose elements `f`
gives. -/
def HasValue (g : Graph) (a : NodeId) (d : DType) (s : Shape) (f : Nat → Float32) : Prop :=
  a < g.nodes.size ∧ (g.node a).value.Is d s f

section Values

variable {g g' : Graph} {a c : NodeId} {d d' : DType} {s : Shape} {f fc : Nat → Float32}

theorem HasValue.mono (h : g.HasValue a d s f) (hg : g.Extends g') : g'.HasValue a d s f :=
  ⟨hg.lt_size h.1, by rw [hg.node_eq h.1]; exact h.2⟩

/-- A step run on the node an earlier step recorded, with that node's value known. -/
theorem Records.bind_value {x : GraphM NodeId} {k : NodeId → GraphM NodeId} {Q : Tensor → Prop}
    (hx : Records x g (·.Is d s f))
    (hk : ∀ i g', g.Extends g' → g'.HasValue i d s f → Records (k i) g' Q) :
    Records (x >>= k) g Q :=
  hx.bind fun i g' hg hi hv => hk i g' hg ⟨hi, hv⟩

/-- A slice of the last dimension of `[b, heads, s, w]` values; the whole dimension is the
node itself. -/
theorem records_narrow_last {b heads sq w start len : Nat}
    (h : g.HasValue a d [b, heads, sq, w] f) (hfit : start + len ≤ w) :
    Records (narrow a 3 start len) g
      (·.Is d [b, heads, sq, len] (fun k => f (k / len * w + start + k % len))) := by
  obtain ⟨n, hn, hIs⟩ := h.2.narrow_last hfit
  unfold narrow
  refine Records.of_get_bind (Records.of_lift_bind hn ?_)
  split
  · rename_i hall
    have hdim : (g.node a).value.dim 3 = w := by simp [Tensor.dim, h.2.shape_eq]
    simp only [Bool.and_eq_true, beq_iff_eq, hdim] at hall
    obtain ⟨rfl, rfl⟩ := hall
    exact records_pure h.1 (h.2.congr fun k _ => by rw [Nat.add_zero, Nat.div_add_mod'])
  · exact records_pushWith _ _ _ hIs

/-- A unit dimension in front changes no element. -/
theorem records_unsqueeze_front (h : g.HasValue a d s f) :
    Records (unsqueeze a 0) g (·.Is d (1 :: s) f) := by
  have hs : Shape.numel (1 :: s) = s.numel := by simp
  have hok : (g.node a).value.reshape ((g.node a).value.shape.take 0 ++ [1] ++
      (g.node a).value.shape.drop 0) = .ok { (g.node a).value with shape := 1 :: s } := by
    simpa [h.2.shape_eq] using h.2.reshape hs
  unfold unsqueeze
  exact Records.of_get_bind (Records.of_lift_bind hok (records_pushWith _ _ _ (h.2.withShape hs)))

/-- A table `[1, 1, s, h]` as a broadcast operand of `[b, heads, s, h]` values: repeated over
the batch and the heads unless both are one. -/
theorem records_tableAs {b heads sq h : Nat} (hc : g.HasValue c d' [1, 1, sq, h] fc) :
    Records (if ([b, heads, sq, h] : Shape) == [1, 1, sq, h] then pure c
      else broadcastAs c [b, heads, sq, h]) g
      (·.Is d' [b, heads, sq, h] (fun k => fc (k / h % sq * h + k % h))) := by
  split
  · rename_i hone
    obtain ⟨rfl, rfl⟩ : b = 1 ∧ heads = 1 := by simpa using hone
    refine records_pure hc.1 (hc.2.congr fun k hk => ?_)
    simp only [Shape.numel_four, Nat.one_mul] at hk
    have hh : 0 < h := Nat.pos_of_ne_zero fun h0 => by simp [h0] at hk
    rw [Nat.mod_eq_of_lt (Nat.div_lt_of_lt_mul (by rwa [Nat.mul_comm])), Nat.div_add_mod']
  · exact records_broadcastAs _ hc.2.broadcastAs_table

/-- `[b, heads, s, h]` values times a table `[1, 1, s, h]`: each head at position `p` is
multiplied by row `p` of the table. -/
theorem records_broadcastMul_table {b heads sq h : Nat}
    (ha : g.HasValue a d [b, heads, sq, h] f) (hc : g.HasValue c d' [1, 1, sq, h] fc) :
    Records (broadcastMul a c) g (·.Is d [b, heads, sq, h]
      (fun k => d.lift₂ (· * ·) (f k) (fc (k / h % sq * h + k % h)))) := by
  have hb : Shape.broadcast [b, heads, sq, h] [1, 1, sq, h] = some [b, heads, sq, h] :=
    Shape.broadcast_of_fits (by simp) (by simp)
  refine Records.of_run_eq (y := (if ([b, heads, sq, h] : Shape) == [b, heads, sq, h] then pure a
    else broadcastAs a [b, heads, sq, h]) >>= fun a' =>
    (if ([b, heads, sq, h] : Shape) == [1, 1, sq, h] then pure c
      else broadcastAs c [b, heads, sq, h]) >>= fun c' => mul a' c') ?_ ?_
  · unfold broadcastMul broadcastBinary
    rw [run_shapeOf_bind, run_shapeOf_bind, ha.2.shape_eq, hc.2.shape_eq, hb]
    by_cases h₁ : (([b, heads, sq, h] : Shape) == [b, heads, sq, h]) = true <;>
      by_cases h₂ : (([b, heads, sq, h] : Shape) == [1, 1, sq, h]) = true <;>
      simp only [h₁, h₂, if_true, if_false, Bool.false_eq_true]
  rw [if_pos (beq_self_eq_true _)]
  refine (records_pure ha.1 ha.2).bind_value fun a' g₁ e₁ ha' => ?_
  refine (records_tableAs (hc.mono e₁)).bind_value fun c' g₂ _ hc' => ?_
  exact records_binary (ha'.mono (by assumption)).2 hc'.2

/-- Two values that agree but in their last dimension, joined along it. -/
theorem records_cat_last (pre : Shape) {h₁ h₂ : Nat} {gq : Nat → Float32}
    (ha : g.HasValue a d (pre ++ [h₁]) f) (hc : g.HasValue c d' (pre ++ [h₂]) gq) :
    Records (cat [a, c] pre.length) g (·.Is d (pre ++ [h₁ + h₂]) (fun k =>
      if k % (h₁ + h₂) < h₁ then f (k / (h₁ + h₂) * h₁ + k % (h₁ + h₂))
      else gq (k / (h₁ + h₂) * h₂ + (k % (h₁ + h₂) - h₁)))) :=
  Records.of_run_eq (y := push (Tensor.cat [(g.node a).value, (g.node c).value] pre.length)
    (.cat [a, c] pre.length)) rfl (records_push _ (ha.2.cat_last hc.2))

end Values

end Graph

/-! ## Turning the heads -/

section Rotary

open LowRankTuner.Graph

variable {g : Graph} {d dc ds : DType} {fx fc fs : Nat → Float32}

/-- `applyRotary` on heads `[b, heads, s, 2h]` with cosine and sine tables `[s, h]` turns the
halves of every head vector by the table row of its position (`rotaryRows`). -/
theorem records_applyRotary {x c sn : NodeId} {b heads sq h : Nat}
    (hx : g.HasValue x d [b, heads, sq, 2 * h] fx) (hc : g.HasValue c dc [sq, h] fc)
    (hs : g.HasValue sn ds [sq, h] fs) :
    Records (applyRotary x c sn) g (·.Is d [b, heads, sq, 2 * h] (rotaryRows d h sq fx fc fs)) := by
  have hlast : (g.node x).value.rank - 1 = 3 := by simp [Tensor.rank, hx.2.shape_eq]
  have hhalf : (g.node x).value.dim 3 / 2 = h := by simp [Tensor.dim, hx.2.shape_eq]
  unfold applyRotary
  refine Records.of_value_bind ?_
  simp only [hlast, hhalf]
  -- the halves of the heads, and the tables with two unit dimensions in front
  refine (records_narrow_last hx (by omega : 0 + h ≤ 2 * h)).bind_value fun x₁ g₁ e₁ hx₁ => ?_
  refine (records_narrow_last (hx.mono e₁) (by omega : h + h ≤ 2 * h)).bind_value
    fun x₂ g₂ e₂ hx₂ => ?_
  refine (records_unsqueeze_front (hc.mono (e₁.trans e₂))).bind_value fun c₁ g₃ e₃ hc₁ => ?_
  refine (records_unsqueeze_front hc₁).bind_value fun c₂ g₄ e₄ hc₂ => ?_
  refine (records_unsqueeze_front (hs.mono (e₁.trans (e₂.trans (e₃.trans e₄))))).bind_value
    fun s₁ g₅ e₅ hs₁ => ?_
  refine (records_unsqueeze_front hs₁).bind_value fun s₂ g₆ e₆ hs₂ => ?_
  have e₂₆ := e₃.trans (e₄.trans (e₅.trans e₆))
  have hx₁' := hx₁.mono (e₂.trans e₂₆)
  have hx₂' := hx₂.mono e₂₆
  have hc₂' := hc₂.mono (e₅.trans e₆)
  -- `x₁ cos - x₂ sin`, then `x₁ sin + x₂ cos`
  refine (records_broadcastMul_table hx₁' hc₂').bind_value fun p₁ g₇ e₇ hp₁ => ?_
  refine (records_broadcastMul_table (hx₂'.mono e₇) (hs₂.mono e₇)).bind_value
    fun p₂ g₈ e₈ hp₂ => ?_
  refine (records_binary (hp₁.mono e₈).2 hp₂.2).bind_value fun r₁ g₉ e₉ hr₁ => ?_
  have e₆₉ := e₇.trans (e₈.trans e₉)
  refine (records_broadcastMul_table (hx₁'.mono e₆₉) (hs₂.mono e₆₉)).bind_value
    fun q₁ g₁₀ e₁₀ hq₁ => ?_
  refine (records_broadcastMul_table (hx₂'.mono (e₆₉.trans e₁₀))
    (hc₂'.mono (e₆₉.trans e₁₀))).bind_value fun q₂ g₁₁ e₁₁ hq₂ => ?_
  refine (records_binary (hq₁.mono e₁₁).2 hq₂.2).bind_value fun r₂ g₁₂ e₁₂ hr₂ => ?_
  refine (records_cat_last [b, heads, sq] (hr₁.mono (e₁₀.trans (e₁₁.trans e₁₂)))
    hr₂).mono fun t ht => ?_
  -- the joined halves fill the head again, and each element is the turn of its pair
  rw [← two_mul] at ht
  refine ht.congr fun k _ => ?_
  have hj := Nat.mod_lt k (show 0 < 2 * h by
    rcases Nat.eq_zero_or_pos h with rfl | hpos
    · simp at *
    · omega)
  simp only [rotaryRows, rotateHalves]
  split
  · rename_i hlt
    rw [Tensor.mul_add_div_of_lt _ hlt, Tensor.mul_add_mod_of_lt _ hlt, Nat.add_zero,
      show k / (2 * h) * (2 * h) + h + k % (2 * h) = k / (2 * h) * (2 * h) + (k % (2 * h) + h) by
        omega]
  · rename_i hge
    have hlt : k % (2 * h) - h < h := by omega
    rw [Tensor.mul_add_div_of_lt _ hlt, Tensor.mul_add_mod_of_lt _ hlt, Nat.add_zero,
      show k / (2 * h) * (2 * h) + h + (k % (2 * h) - h) = k / (2 * h) * (2 * h) + k % (2 * h) by
        omega]

/-! ## The tables -/

/-- Element `k` of the angle table of a list of frequencies: position `k / f` times frequency
`k % f`, for `f` frequencies.  A product of inner size one is a product added to zero. -/
def tableAngle (invFreq : List Float32) (k : Nat) : Float32 :=
  float32OfRatio false (k / invFreq.length) 1 * invFreq.getD (k % invFreq.length) 0 + 0

/-- The positions `[s, 1]` times the frequencies `[1, f]` give the angle table `[s, f]`. -/
theorem matmul_positions (invFreq : List Float32) (seq : Nat) :
    ∃ angles, (Tensor.generate .f32 [seq, 1] fun i => float32OfRatio false i 1).matmul
        ⟨.f32, [1, invFreq.length], invFreq.toArray⟩ = .ok angles ∧
      angles.Is .f32 [seq, invFreq.length] (tableAngle invFreq) := by
  unfold Tensor.matmul
  simp only [Tensor.rank, Tensor.dim, Tensor.shape_generate, Tensor.dtype_generate,
    List.length_cons, List.length_nil, Nat.reduceAdd, Nat.reduceSub, List.take_zero,
    List.nil_append, List.getD_cons_succ, List.getD_cons_zero]
  split_ifs with hfail hempty hmis
  · simp at hfail
  · -- no positions or no frequencies: an empty table
    refine ⟨_, rfl, ⟨rfl, rfl, by simp [Tensor.zeros, Tensor.full], fun k hk => ?_⟩⟩
    simp only [Shape.numel_two] at hk hempty
    simp at hempty
    rcases hempty with h0 | h0 <;> simp [h0] at hk
  · simp [Shape.numel] at hmis
  · refine ⟨_, rfl, (Tensor.is_generate _ _ _).congr fun k hk => ?_⟩
    simp only [Shape.numel_two] at hk
    have hlen : 0 < invFreq.length := Nat.pos_of_ne_zero fun h0 => by simp [h0] at hk
    have hrow : k / invFreq.length < seq := Nat.div_lt_of_lt_mul (by rwa [Nat.mul_comm])
    have hone : ([seq, 1] : List Nat).getD 1 0 = 1 := rfl
    -- one step of the product: the position times the frequency, added to zero
    rw [hone, Nat.div_eq_of_lt hk]
    simp only [Nat.fold_succ, Nat.fold_zero, Tensor.productStep, Nat.zero_mul,
      Nat.mul_one, Nat.zero_add, Nat.add_zero, Nat.mod_eq_of_lt hrow]
    rw [Tensor.get_generate _ _ _ (by simp; exact hrow)]
    simp [tableAngle, DType.round, Tensor.get, Array.getD_eq_getD_getElem?,
      List.getD_eq_getElem?_getD]

/-- Row `p` of the cosine and sine tables holds the cosines and sines of the angles of position
`p`, rounded to the tables' format. -/
theorem rotaryTables_rows (invFreq : List Float32) (seq : Nat) (dt : DType) :
    ∃ cosT sinT, rotaryTables invFreq seq dt = .ok (cosT, sinT) ∧
      cosT.Is dt [seq, invFreq.length] (fun k => dt.round (Float32.cos (tableAngle invFreq k))) ∧
      sinT.Is dt [seq, invFreq.length] (fun k => dt.round (Float32.sin (tableAngle invFreq k))) := by
  obtain ⟨angles, hmul, hangles⟩ := matmul_positions invFreq seq
  refine ⟨(angles.unary Float32.cos).convert dt, (angles.unary Float32.sin).convert dt, ?_,
    (hangles.unary _).convert_of_f32 dt, (hangles.unary _).convert_of_f32 dt⟩
  unfold rotaryTables
  dsimp only
  rw [hmul]
  rfl

end Rotary

/-! ## Exact arithmetic -/

/-- The angle by which pair `j` of a head of `2h` dimensions turns at position `p`, in exact
arithmetic: the position times the frequency `1 / θ^(2j / 2h)` that `rotaryFrequencies` rounds
to a single. -/
noncomputable def rotaryAngle (θ : ℝ) (h p j : ℕ) : ℝ := p * (1 / θ ^ ((2 * j : ℝ) / (2 * h)))

/-- The turn of a head vector `x` at position `p`, in exact arithmetic. -/
noncomputable def rotateReal (θ : ℝ) (h p : ℕ) (x : ℕ → ℝ) : ℕ → ℝ :=
  rotateHalves (· + ·) (· - ·) (· * ·) h x (fun j => Real.cos (rotaryAngle θ h p j))
    (fun j => Real.sin (rotaryAngle θ h p j))

/-- Moving two positions by the same offset keeps the difference of their angles. -/
theorem rotaryAngle_sub_shift (θ : ℝ) (h m n t j : ℕ) :
    rotaryAngle θ h (m + t) j - rotaryAngle θ h (n + t) j =
      rotaryAngle θ h m j - rotaryAngle θ h n j := by
  simp only [rotaryAngle]
  push_cast
  ring

/-- The score of one pair of a query turned by `a` with a pair of a key turned by `b`: only
the difference `a - b` of the angles is seen. -/
theorem pair_score (a b q₀ q₁ k₀ k₁ : ℝ) :
    (q₀ * Real.cos a - q₁ * Real.sin a) * (k₀ * Real.cos b - k₁ * Real.sin b) +
      (q₀ * Real.sin a + q₁ * Real.cos a) * (k₀ * Real.sin b + k₁ * Real.cos b) =
      (q₀ * k₀ + q₁ * k₁) * Real.cos (a - b) + (q₀ * k₁ - q₁ * k₀) * Real.sin (a - b) := by
  rw [Real.cos_sub, Real.sin_sub]
  ring

/-- A sum over the `2h` dimensions of a head is a sum over its `h` pairs. -/
theorem sum_range_pairs (F : ℕ → ℝ) (h : ℕ) :
    ∑ j ∈ Finset.range (2 * h), F j = ∑ j ∈ Finset.range h, (F j + F (h + j)) := by
  rw [two_mul, Finset.sum_range_add, Finset.sum_add_distrib]

/-- The score of a query turned at position `m` with a key turned at position `n`: each pair
contributes through the cosine and sine of the difference of its two angles. -/
theorem score_rotateReal (θ : ℝ) (h m n : ℕ) (q k : ℕ → ℝ) :
    ∑ j ∈ Finset.range (2 * h), rotateReal θ h m q j * rotateReal θ h n k j =
      ∑ j ∈ Finset.range h,
        ((q j * k j + q (h + j) * k (h + j)) *
            Real.cos (rotaryAngle θ h m j - rotaryAngle θ h n j) +
          (q j * k (h + j) - q (h + j) * k j) *
            Real.sin (rotaryAngle θ h m j - rotaryAngle θ h n j)) := by
  rw [sum_range_pairs]
  refine Finset.sum_congr rfl fun j hj => ?_
  have hjh : j < h := Finset.mem_range.mp hj
  simp only [rotateReal, rotateHalves_of_lt _ _ _ _ _ _ hjh, rotateHalves_add_half]
  rw [Nat.add_comm j h]
  exact pair_score _ _ _ _ _ _

/-- In exact arithmetic the turn keeps the length of every head vector. -/
theorem sum_sq_rotateReal (θ : ℝ) (h p : ℕ) (q : ℕ → ℝ) :
    ∑ j ∈ Finset.range (2 * h), rotateReal θ h p q j ^ 2 =
      ∑ j ∈ Finset.range (2 * h), q j ^ 2 := by
  simp only [pow_two]
  rw [score_rotateReal, sum_range_pairs]
  simp

/-! ## Scores see only relative positions -/

/-- What `applyRotary` does with the tables of `rotaryTables`, and what that turn keeps.  Row
`p` of the tables holds the cosines and sines of `p` times each frequency; on every head vector
at position `p`, `applyRotary` pairs dimension `j` with dimension `j + h` and turns the pair by
row `p`; and in exact arithmetic, with the angles `p · θ^(-2j/2h)`, that turn keeps every
vector's length, and moving a query and a key by the same offset keeps their score. -/
theorem rotary_scores_depend_on_offset :
    (∀ (invFreq : List Float32) (seq : Nat) (dt : DType), ∃ cosT sinT,
      rotaryTables invFreq seq dt = .ok (cosT, sinT) ∧
      cosT.Is dt [seq, invFreq.length] (fun k => dt.round (Float32.cos (tableAngle invFreq k))) ∧
      sinT.Is dt [seq, invFreq.length] (fun k => dt.round (Float32.sin (tableAngle invFreq k)))) ∧
    (∀ {g : Graph} {x c sn : NodeId} {d dc ds : DType} {b heads sq h : Nat}
      {fx fc fs : Nat → Float32},
      g.HasValue x d [b, heads, sq, 2 * h] fx → g.HasValue c dc [sq, h] fc →
      g.HasValue sn ds [sq, h] fs →
      Graph.Records (applyRotary x c sn) g
        (·.Is d [b, heads, sq, 2 * h] (rotaryRows d h sq fx fc fs))) ∧
    (∀ (θ : ℝ) (h m n t : ℕ) (q k : ℕ → ℝ),
      ∑ j ∈ Finset.range (2 * h), rotateReal θ h (m + t) q j * rotateReal θ h (n + t) k j =
        ∑ j ∈ Finset.range (2 * h), rotateReal θ h m q j * rotateReal θ h n k j ∧
      ∑ j ∈ Finset.range (2 * h), rotateReal θ h m q j ^ 2 =
        ∑ j ∈ Finset.range (2 * h), q j ^ 2) := by
  refine ⟨rotaryTables_rows, fun hx hc hs => records_applyRotary hx hc hs,
    fun θ h m n t q k => ⟨?_, sum_sq_rotateReal θ h m q⟩⟩
  simp only [score_rotateReal, rotaryAngle_sub_shift]

/-- One head of two dimensions at one position, with its tables, as three inputs of a graph. -/
def oneHeadGraph : Graph :=
  { nodes := #[⟨⟨.f32, [1, 1, 1, 2], #[1, 2]⟩, .input false, false, [2, 2, 2, 1]⟩,
      ⟨⟨.f32, [1, 1], #[0]⟩, .input false, false, [1, 1]⟩,
      ⟨⟨.f32, [1, 1], #[1]⟩, .input false, false, [1, 1]⟩] }

/-- The head `(1, 2)` turned by the angle whose cosine is `0` and sine is `1`. -/
theorem applyRotary_turns_one_head :
    oneHeadGraph.HasValue 0 .f32 [1, 1, 1, 2 * 1] (oneHeadGraph.node 0).value.get ∧
    oneHeadGraph.HasValue 1 .f32 [1, 1] (oneHeadGraph.node 1).value.get ∧
    oneHeadGraph.HasValue 2 .f32 [1, 1] (oneHeadGraph.node 2).value.get ∧
    Graph.Records (applyRotary 0 1 2) oneHeadGraph
      (·.Is .f32 [1, 1, 1, 2 * 1] (rotaryRows .f32 1 1 (oneHeadGraph.node 0).value.get
        (oneHeadGraph.node 1).value.get (oneHeadGraph.node 2).value.get)) := by
  have hx : oneHeadGraph.HasValue 0 .f32 [1, 1, 1, 2 * 1] (oneHeadGraph.node 0).value.get :=
    ⟨by decide, Tensor.is_get _ rfl⟩
  have hc : oneHeadGraph.HasValue 1 .f32 [1, 1] (oneHeadGraph.node 1).value.get :=
    ⟨by decide, Tensor.is_get _ rfl⟩
  have hs : oneHeadGraph.HasValue 2 .f32 [1, 1] (oneHeadGraph.node 2).value.get :=
    ⟨by decide, Tensor.is_get _ rfl⟩
  exact ⟨hx, hc, hs, rotary_scores_depend_on_offset.2.1 hx hc hs⟩

end LowRankTuner
