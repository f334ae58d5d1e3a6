import Mathlib
import LowRankTuner.Model.Forward
import LowRankTuner.Proofs.RotaryPositions
import LowRankTuner.Proofs.ProjectionRows
import LowRankTuner.Proofs.ForwardShapes
/-!
# Grouped key/value heads

A configuration may give fewer key/value heads than query heads; `repeatKv` then repeats each
key/value head `groups` times in a row before attention pairs heads by index.  Query head `h`
thus meets key/value head `h / groups`: the heads sharing a key/value head stand side by side,
as the grouped-query layout of pretrained weights expects, and are not interleaved.

* `Tensor.Is.broadcastAs_groups`: a unit dimension after the heads repeated `groups` times.
* `Graph.records_repeatKv`: on `[b, kv, s, w]` values, `repeatKv` records `[b, kv·groups, s, w]`
  values whose head `h` is head `h / groups` (`repeatedHeads`), for every count of groups.
* `Tensor.Is.matmul_heads`: a product of `[b, H, m, k]` by `[b, H, k, n]` pairs head `h` of the
  left operand with head `h` of the right one.
* `grouped_heads_pair_by_quotient` puts them together for a validated configuration: the scores
  of query head `h` are taken against key head `h / gqaGroups`, and its output weighs the
  value head `h / gqaGroups`.
-/

namespace LowRankTuner

/-! ## Positions in stacked heads -/

namespace Shape

theorem numel_five (a b c e f : Nat) : Shape.numel [a, b, c, e, f] = a * b * c * e * f := by
  simp [Shape.numel]

theorem strides_five (a b c e f : Nat) :
    Shape.strides [a, b, c, e, f] = [b * c * e * f, c * e * f, e * f, f, 1] := by
  simp only [Shape.strides, List.foldr, Nat.one_mul, List.cons.injEq, and_true]
  exact ⟨by ring, by ring, by ring⟩

theorem offset_five (a b c e f sa sb sc se sf k : Nat) :
    Shape.offset [a, b, c, e, f] [sa, sb, sc, se, sf] k =
      k % f * sf + k / f % e * se + k / f / e % c * sc + k / f / e / c % b * sb +
        k / f / e / c / b % a * sa := by
  simp [Shape.offset]

/-- A dimension read with stride zero when it is a unit one reads as with any stride: its
index is zero. -/
theorem mod_mul_unitStride (x n st : Nat) : x % n * (if n = 1 then 0 else st) = x % n * st := by
  by_cases hn : n = 1
  · subst hn
    simp [Nat.mod_one]
  · simp [hn]

/-- The row `o` of `b` blocks of `H` rows each, read through the two block strides. -/
theorem blocks_recompose {b H o : Nat} (ho : o < b * H) (sz : Nat) :
    o % H * sz + o / H % b * (H * sz) = o * sz := by
  have hb : o / H < b := Nat.div_lt_of_lt_mul (by rwa [Nat.mul_comm])
  rw [Nat.mod_eq_of_lt hb]
  calc o % H * sz + o / H * (H * sz) = (o % H + H * (o / H)) * sz := by ring
    _ = o * sz := by rw [Nat.mod_add_div]

/-- The position `k` of `[b, kv, g, s, w]` values, read through the strides of `[b, kv, 1, s, w]`
values: the `s · w` elements of head `k / (s · w) / g` of the source. -/
theorem offset_groups {b kv g s w k : Nat} (hk : k < b * kv * g * s * w) :
    k % w + k / w % s * w + k / w / s / g % kv * (s * w) + k / w / s / g / kv % b * (kv * s * w) =
      k / (s * w) / g * (s * w) + k % (s * w) := by
  have hrow : k / w / s / g < b * kv := by
    refine Nat.div_lt_of_lt_mul (Nat.div_lt_of_lt_mul (Nat.div_lt_of_lt_mul ?_))
    calc k < b * kv * g * s * w := hk
      _ = w * (s * (g * (b * kv))) := by ring
  have hdiv : k / (s * w) = k / w / s := by rw [Nat.mul_comm, Nat.div_div_eq_div_mul]
  have hmod : k % (s * w) = k % w + k / w % s * w := by
    rw [Nat.mul_comm, Nat.mod_mul, Nat.mul_comm w]
  rw [hdiv, hmod]
  calc _ = (k % w + k / w % s * w) +
        (k / w / s / g % kv * (s * w) + k / w / s / g / kv % b * (kv * (s * w))) := by ring
    _ = (k % w + k / w % s * w) + k / w / s / g * (s * w) := by
      rw [blocks_recompose hrow (s * w)]
    _ = _ := by ring

end Shape

/-- The elements of `[b, kv · groups, s, w]` heads in which head `h` is head `h / groups` of
`[b, kv, s, w]` heads with elements `f`; each head is `hw = s · w` elements. -/
def repeatedHeads (f : Nat → Float32) (hw groups k : Nat) : Float32 :=
  f (k / hw / groups * hw + k % hw)

namespace Tensor

section Heads

variable {t : Tensor} {d : DType} {f : Nat → Float32}

/-- `[b, kv, 1, s, w]` values read as `[b, kv, g, s, w]`: each head repeated `g` times. -/
theorem Is.broadcastAs_groups {b kv g s w : Nat} (ht : t.Is d [b, kv, 1, s, w] f) :
    (t.broadcastAs [b, kv, g, s, w]).Is d [b, kv, g, s, w] (repeatedHeads f (s * w) g) := by
  refine ⟨ht.dtype_eq, rfl, size_generate .., fun k hk => ?_⟩
  rw [Shape.numel_five] at hk
  have hw : 0 < w := Nat.pos_of_ne_zero fun h0 => by simp [h0] at hk
  have hs : 0 < s := Nat.pos_of_ne_zero fun h0 => by simp [h0] at hk
  have hg : 0 < g := Nat.pos_of_ne_zero fun h0 => by simp [h0] at hk
  have hsw : 0 < s * w := Nat.mul_pos hs hw
  have hhead : k / (s * w) / g < b * kv := by
    refine Nat.div_lt_of_lt_mul (Nat.div_lt_of_lt_mul ?_)
    calc k < b * kv * g * s * w := hk
      _ = s * w * (g * (b * kv)) := by ring
  have hidx : k / (s * w) / g * (s * w) + k % (s * w) < Shape.numel [b, kv, 1, s, w] := by
    rw [Shape.numel_five]
    calc _ < b * kv * (s * w) := mul_add_lt hhead (Nat.mod_lt k hsw)
      _ = b * kv * 1 * s * w := by ring
  rw [broadcastAs, get_readAs _ _ _ _ (by rw [Shape.numel_five]; exact hk), repeatedHeads,
    ← ht.get_eq _ hidx]
  simp only [Shape.broadcastStrides, ht.shape_eq, Shape.strides_five, List.length_cons,
    List.length_nil, Nat.sub_self, List.replicate_zero, List.nil_append, List.zip_cons_cons,
    List.zip_nil_right, List.map_cons, List.map_nil, beq_iff_eq, Shape.offset_five,
    Shape.mod_mul_unitStride, if_true, Nat.mul_zero, Nat.add_zero, Nat.one_mul, Nat.mul_one]
  -- the repeated dimension is read with stride zero; the others recompose the head
  congr 1
  rw [← Shape.offset_groups hk]
  ring

/-- `[b, H, s, w]` values with their last two dimensions exchanged: position `p` of
`[b, H, w, s]` reads row `p % s` and column `p / s % w` of head `p / s / w`. -/
theorem Is.transpose_heads {b H s w : Nat} (ht : t.Is d [b, H, s, w] f) :
    (t.transpose 2 3).Is d [b, H, w, s]
      (fun p => f (p / s / w * (s * w) + p % s * w + p / s % w)) := by
  refine ⟨ht.dtype_eq, by simp [transpose, readAs, swapEntries, ht.shape_eq],
    by simp [transpose, readAs, swapEntries, ht.shape_eq], fun p hp => ?_⟩
  rw [Shape.numel_four] at hp
  have hs : 0 < s := Nat.pos_of_ne_zero fun h0 => by simp [h0] at hp
  have hw : 0 < w := Nat.pos_of_ne_zero fun h0 => by simp [h0] at hp
  have hhead : p / s / w < b * H := by
    refine Nat.div_lt_of_lt_mul (Nat.div_lt_of_lt_mul ?_)
    calc p < b * H * w * s := hp
      _ = s * (w * (b * H)) := by ring
  have hinner : p % s * w + p / s % w < s * w := mul_add_lt (Nat.mod_lt p hs) (Nat.mod_lt _ hw)
  have hidx : p / s / w * (s * w) + p % s * w + p / s % w < Shape.numel [b, H, s, w] := by
    rw [Shape.numel_four, Nat.add_assoc]
    calc _ < b * H * (s * w) := mul_add_lt hhead hinner
      _ = b * H * s * w := by ring
  rw [transpose, get_readAs _ _ _ _ (by
      simpa [swapEntries, ht.shape_eq, Shape.numel_four, Nat.mul_assoc] using hp),
    ← ht.get_eq _ hidx]
  simp only [swapEntries, ht.shape_eq, Shape.strides_four, List.getD_cons_succ, List.getD_cons_zero,
    List.set_cons_succ, List.set_cons_zero, Shape.offset_four, Nat.mul_one]
  congr 1
  calc _ = p % s * w + p / s % w + (p / s / w % H * (s * w) + p / s / w / H % b * (H * (s * w))) := by
        ring
    _ = p % s * w + p / s % w + p / s / w * (s * w) := by rw [Shape.blocks_recompose hhead]
    _ = _ := by ring

/-- A product of `[b, H, m, k]` by `[b, H, k, n]` values is taken head by head: entry `p` is row
`p / n` of the left operand, read as rows of `k`, against column `p % n` of head `p / n / m`
of the right one. -/
theorem Is.matmul_heads {a c : Tensor} {d' : DType} {g : Nat → Float32} {b H m k n : Nat}
    (ha : a.Is d [b, H, m, k] f) (hc : c.Is d' [b, H, k, n] g) :
    ∃ v, a.matmul c = .ok v ∧ v.Is d [b, H, m, n] (fun p =>
      dotEntry d k (fun j => f (p / n * k + j)) (fun j => g (p / n / m * (k * n) + j * n + p % n))) := by
  have hra : a.rank = 4 := by simp [rank, ha.shape_eq]
  have hrc : c.rank = 4 := by simp [rank, hc.shape_eq]
  have hm : a.dim 2 = m := by simp [dim, ha.shape_eq]
  have hk : a.dim 3 = k := by simp [dim, ha.shape_eq]
  have hn : c.dim 3 = n := by simp [dim, hc.shape_eq]
  have hk' : c.dim 2 = k := by simp [dim, hc.shape_eq]
  have hbound : a.dim (a.rank - 1) = k := by rw [hra]; exact hk
  unfold matmul
  simp only [hra, hrc, hm, hk, hn, hk', ha.shape_eq, hc.shape_eq, ha.dtype_eq, Nat.reduceSub,
    List.take_succ_cons, List.take_zero, List.cons_append, List.nil_append, Nat.reduceLT,
    decide_false, bne_self_eq_false, Bool.or_false, Bool.false_eq_true, if_false,
    Shape.numel_four, Shape.numel_two]
  by_cases hz : b * H * m * n = 0 ∨ k = 0
  · -- an empty product, or one over no terms, is zeros
    rw [if_pos (by simpa using hz)]
    refine ⟨_, rfl, (is_generate d [b, H, m, n] fun _ => 0).congr fun p hp => ?_⟩
    rw [Shape.numel_four] at hp
    have hk0 : k = 0 := by omega
    simp [dotEntry, hk0]
  rw [if_neg (by simpa using hz)]
  refine ⟨_, rfl, (is_generate d [b, H, m, n] _).congr fun p hp => ?_⟩
  rw [Shape.numel_four] at hp
  have hk0 : k ≠ 0 := by omega
  have hn0 : 0 < n := Nat.pos_of_ne_zero fun h0 => by simp [h0] at hp
  have hm0 : 0 < m := Nat.pos_of_ne_zero fun h0 => by simp [h0] at hp
  have hrow : p / n < b * H * m := Nat.div_lt_of_lt_mul (by rwa [Nat.mul_comm])
  have hhead : p / n / m < b * H := Nat.div_lt_of_lt_mul (by rwa [Nat.mul_comm])
  have hcol : p % n < n := Nat.mod_lt _ hn0
  have hbatch : p / (m * n) = p / n / m := by rw [Nat.div_div_eq_div_mul, Nat.mul_comm]
  -- the left row: the head's rows before it and the row within the head
  have harow : p / (m * n) * m * k + p / n % m * k = p / n * k := by
    rw [hbatch, ← Nat.add_mul, Nat.div_add_mod']
  rw [Nat.fold_congr hbound]
  simp only [dotEntry, if_neg hk0, harow]
  congr 1
  refine fold_congr_lt (fun j hj acc => ?_) 0
  have hcidx : p / n / m * (k * n) + j * n + p % n < Shape.numel [b, H, k, n] := by
    rw [Shape.numel_four, Nat.add_assoc]
    calc _ < b * H * (k * n) := mul_add_lt hhead (mul_add_lt hj hcol)
      _ = b * H * k * n := by ring
  have hbcol : p / (m * n) * k * n + p % n + j * n = p / n / m * (k * n) + j * n + p % n := by
    rw [hbatch]
    ring
  rw [ha.get_eq _ (by rw [Shape.numel_four]; exact (mul_add_lt hrow hj).trans_eq (by ring)),
    hbcol, hc.get_eq _ hcidx]

/-- Products over `k` terms agree when their terms do. -/
theorem dotEntry_congr {dt : DType} {k : Nat} {x x' y y' : Nat → Float32}
    (hx : ∀ j < k, x j = x' j) (hy : ∀ j < k, y j = y' j) :
    dotEntry dt k x y = dotEntry dt k x' y' := by
  unfold dotEntry
  split
  · rfl
  · congr 1
    exact fold_congr_lt (fun j hj acc => by rw [hx j hj, hy j hj]) 0

end Heads

end Tensor

/-! ## The steps of grouped attention -/

namespace Graph

section Heads

variable {g : Graph} {a c : NodeId} {d d' : DType} {f h : Nat → Float32}

/-- A unit dimension after the heads of `[b, kv, s, w]` values changes no element. -/
theorem records_unsqueeze_heads {b kv s w : Nat} (ha : g.HasValue a d [b, kv, s, w] f) :
    Records (unsqueeze a 2) g (·.Is d [b, kv, 1, s, w] f) := by
  have hs : Shape.numel [b, kv, 1, s, w] = Shape.numel [b, kv, s, w] := by
    rw [Shape.numel_five, Shape.numel_four, Nat.mul_one]
  have hok : (g.node a).value.reshape ((g.node a).value.shape.take 2 ++ [1] ++
      (g.node a).value.shape.drop 2) = .ok { (g.node a).value with shape := [b, kv, 1, s, w] } := by
    simpa [ha.2.shape_eq] using ha.2.reshape hs
  unfold unsqueeze
  exact Records.of_get_bind (Records.of_lift_bind hok (records_pushWith _ _ _ (ha.2.withShape hs)))

/-- **Repeated key/value heads.**  On `[b, kv, s, w]` values, `repeatKv` records
`[b, kv · groups, s, w]` values whose head `h` is head `h / groups` of its operand, for every
count of groups: one group is the operand itself. -/
theorem records_repeatKv {b kv s w : Nat} (ha : g.HasValue a d [b, kv, s, w] f) (groups : Nat) :
    Records (repeatKv a groups) g
      (·.Is d [b, kv * groups, s, w] (repeatedHeads f (s * w) groups)) := by
  unfold repeatKv
  split
  · rename_i hone
    rw [beq_iff_eq.1 hone, Nat.mul_one]
    exact records_pure ha.1
      (ha.2.congr fun k _ => by rw [repeatedHeads, Nat.div_one, Nat.div_add_mod'])
  · refine Records.of_value_bind ?_
    rw [ha.2.shape_eq]
    -- a unit dimension after the heads, repeated `groups` times, then merged into the heads
    refine (records_unsqueeze_heads ha).bind_value fun u g₁ _ hu => ?_
    refine (records_broadcastAs (P := (·.Is d [b, kv, groups, s, w]
      (repeatedHeads f (s * w) groups))) _ hu.2.broadcastAs_groups).bind_value fun e g₂ _ he => ?_
    exact records_reshape he.2 (by rw [Shape.numel_four, Shape.numel_five]; ring)

/-- `t` on `[b, H, s, w]` values exchanges the positions and the features of every head. -/
theorem records_t_heads {b H s w : Nat} (ha : g.HasValue a d [b, H, s, w] f) :
    Records (t a) g
      (·.Is d [b, H, w, s] (fun p => f (p / s / w * (s * w) + p % s * w + p / s % w))) := by
  unfold t
  refine Records.of_value_bind ?_
  rw [show (g.node a).value.rank = 4 by simp [Tensor.rank, ha.2.shape_eq], if_neg (by decide)]
  unfold transpose
  rw [if_neg (by decide)]
  exact Records.of_get_bind (records_pushWith _ _ _ ha.2.transpose_heads)

theorem records_matmul_heads {b H m k n : Nat} (ha : g.HasValue a d [b, H, m, k] f)
    (hc : g.HasValue c d' [b, H, k, n] h) :
    Records (matmul a c) g (·.Is d [b, H, m, n] (fun p =>
      Tensor.dotEntry d k (fun j => f (p / n * k + j))
        (fun j => h (p / n / m * (k * n) + j * n + p % n)))) := by
  obtain ⟨v, hmul, hv⟩ := ha.2.matmul_heads hc.2
  unfold matmul
  refine Records.of_value_bind (Records.of_value_bind (Records.of_lift_bind hmul ?_))
  -- an empty product is recorded as an input, any other as a product
  dsimp only
  split
  · exact records_input _ hv
  · exact records_push _ hv

/-- **Scores against repeated keys.**  Query heads `[b, H, s, w]` against the transposed keys
`[b, kv, s, w]` repeated in `groups` with `kv · groups = H`: the score of row `p / s` of the
queries with key position `p % s` is taken against key head `p / s / s / groups`. -/
theorem records_scores_grouped {q k : NodeId} {b kv H s w groups : Nat} {fq fk : Nat → Float32}
    (hq : g.HasValue q d [b, H, s, w] fq) (hk : g.HasValue k d' [b, kv, s, w] fk)
    (hH : kv * groups = H) :
    Records (do let kr ← repeatKv k groups; matmul q (← t kr)) g (·.Is d [b, H, s, s] (fun p =>
      Tensor.dotEntry d w (fun j => fq (p / s * w + j))
        (fun j => fk (p / s / s / groups * (s * w) + p % s * w + j)))) := by
  refine (records_repeatKv hk groups).bind_value fun kr g₁ e₁ hkr => ?_
  rw [hH] at hkr
  refine (records_t_heads hkr).bind_value fun kt g₂ e₂ hkt => ?_
  refine (records_matmul_heads ((hq.mono e₁).mono e₂) hkt).mono fun sc hsc =>
    hsc.congr fun p hp => Tensor.dotEntry_congr (fun _ _ => rfl) fun j hj => ?_
  have hs : 0 < s := Nat.pos_of_ne_zero fun h0 => by simp [h0] at hp
  have hcol : p % s < s := Nat.mod_lt p hs
  have hinner : p % s * w + j < s * w := Tensor.mul_add_lt hcol hj
  -- the transposed keys read at row `j`, column `p % s`, then the repetition read at its head
  have hX : p / s / s * (w * s) + j * s + p % s = (p / s / s * w + j) * s + p % s := by ring
  simp only [repeatedHeads]
  rw [hX, Tensor.mul_add_div_of_lt _ hcol, Tensor.mul_add_mod_of_lt _ hcol,
    Tensor.mul_add_div_of_lt _ hj, Tensor.mul_add_mod_of_lt _ hj, Nat.add_assoc,
    Tensor.mul_add_div_of_lt _ hinner, Tensor.mul_add_mod_of_lt _ hinner, ← Nat.add_assoc]

/-- **Values weighed by repeated value heads.**  Weights `[b, H, s, s]` times the values
`[b, kv, s, w]` repeated in `groups` with `kv · groups = H`: entry `p` weighs the column
`p % w` of value head `p / w / s / groups`. -/
theorem records_outputs_grouped {pr v : NodeId} {b kv H s w groups : Nat} {fp fv : Nat → Float32}
    (hp : g.HasValue pr d [b, H, s, s] fp) (hv : g.HasValue v d' [b, kv, s, w] fv)
    (hH : kv * groups = H) :
    Records (do let vr ← repeatKv v groups; matmul pr vr) g (·.Is d [b, H, s, w] (fun p =>
      Tensor.dotEntry d s (fun j => fp (p / w * s + j))
        (fun j => fv (p / w / s / groups * (s * w) + j * w + p % w)))) := by
  refine (records_repeatKv hv groups).bind_value fun vr g₁ e₁ hvr => ?_
  rw [hH] at hvr
  refine (records_matmul_heads (hp.mono e₁) hvr).mono fun out hout =>
    hout.congr fun p hp' => Tensor.dotEntry_congr (fun _ _ => rfl) fun j hj => ?_
  have hw : 0 < w := Nat.pos_of_ne_zero fun h0 => by simp [h0] at hp'
  have hinner : j * w + p % w < s * w := Tensor.mul_add_lt hj (Nat.mod_lt p hw)
  simp only [repeatedHeads]
  rw [Nat.add_assoc, Tensor.mul_add_div_of_lt _ hinner, Tensor.mul_add_mod_of_lt _ hinner,
    ← Nat.add_assoc]

end Heads

end Graph

/-! ## Query heads against key/value heads -/

/-- Head `h` of `kv · groups` heads over `groups` is head `h / groups` of `kv`, in batch `bi`. -/
theorem head_div_groups (bi h : Nat) {kv groups : Nat} (hg : 0 < groups) :
    (bi * (kv * groups) + h) / groups = bi * kv + h / groups := by
  rw [show bi * (kv * groups) + h = h + bi * kv * groups by ring, Nat.add_mul_div_right _ _ hg,
    Nat.add_comm]

/-- The element of head `h` of repeated heads, in batch `bi`, at place `j` of the head. -/
theorem repeatedHeads_at (f : Nat → Float32) {kv groups hw bi h j : Nat} (hg : 0 < groups)
    (hj : j < hw) :
    repeatedHeads f hw groups ((bi * (kv * groups) + h) * hw + j) =
      f ((bi * kv + h / groups) * hw + j) := by
  rw [repeatedHeads, Tensor.mul_add_div_of_lt _ hj, Tensor.mul_add_mod_of_lt _ hj,
    head_div_groups bi h hg]

/-- The validated configurations: query heads in whole groups over the key/value heads, so
that `gqaGroups` is positive and the repeated heads are as many as the query heads. -/
theorem ModelConfig.gqaGroups_spec {c : ModelConfig} (hc : c.Validated) :
    0 < c.gqaGroups ∧ c.numKvHeads * c.gqaGroups = c.numAttentionHeads := by
  refine ⟨Nat.pos_of_ne_zero fun h0 => ?_, hc.groups⟩
  have := hc.groups
  rw [ModelConfig.gqaGroups] at h0
  rw [h0, Nat.mul_zero] at this
  exact absurd this.symm hc.heads.ne'

/-- **Grouped-query attention pairs query head `h` with key/value head `h / groups`.**
Repeating `[b, kv, s, w]` heads in `groups` gives `[b, kv · groups, s, w]` heads, of which head
`h` is head `h / groups`, for every tensor and every count of groups.  So for a configuration
that `validate` accepts, the two products attention takes after repeating its keys and values
by `gqaGroups` pair query head `h` with key/value head `h / gqaGroups`: its scores are taken
against that key head, and its output weighs that value head. -/
theorem grouped_heads_pair_by_quotient :
    (∀ {g : Graph} {x : NodeId} {d : DType} {b kv s w : Nat} {f : Nat → Float32} (groups : Nat),
      g.HasValue x d [b, kv, s, w] f → Graph.Records (repeatKv x groups) g (fun r =>
        r.shape = [b, kv * groups, s, w] ∧
        ∀ bi < b, ∀ h < kv * groups, ∀ j < s * w,
          r.get ((bi * (kv * groups) + h) * (s * w) + j) = f ((bi * kv + h / groups) * (s * w) + j))) ∧
    (∀ {c : ModelConfig}, c.validate = .ok () →
      ∀ {g : Graph} {q k v pr : NodeId} {d d' : DType} {b s w : Nat} {fq fk fv fp : Nat → Float32},
      g.HasValue q d [b, c.numAttentionHeads, s, w] fq →
      g.HasValue k d' [b, c.numKvHeads, s, w] fk → g.HasValue v d' [b, c.numKvHeads, s, w] fv →
      g.HasValue pr d [b, c.numAttentionHeads, s, s] fp →
      Graph.Records (do let kr ← repeatKv k c.gqaGroups; Graph.matmul q (← Graph.t kr)) g (fun sc =>
        sc.shape = [b, c.numAttentionHeads, s, s] ∧
        ∀ bi < b, ∀ h < c.numAttentionHeads, ∀ i < s, ∀ o < s,
          sc.get (((bi * c.numAttentionHeads + h) * s + i) * s + o) =
            Tensor.dotEntry d w (fun j => fq (((bi * c.numAttentionHeads + h) * s + i) * w + j))
              (fun j => fk (((bi * c.numKvHeads + h / c.gqaGroups) * s + o) * w + j))) ∧
      Graph.Records (do let vr ← repeatKv v c.gqaGroups; Graph.matmul pr vr) g (fun out =>
        out.shape = [b, c.numAttentionHeads, s, w] ∧
        ∀ bi < b, ∀ h < c.numAttentionHeads, ∀ i < s, ∀ e < w,
          out.get (((bi * c.numAttentionHeads + h) * s + i) * w + e) =
            Tensor.dotEntry d s (fun j => fp (((bi * c.numAttentionHeads + h) * s + i) * s + j))
              (fun j => fv (((bi * c.numKvHeads + h / c.gqaGroups) * s + j) * w + e)))) := by
  refine ⟨fun {g x d b kv s w f} groups hx => (Graph.records_repeatKv hx groups).mono fun r hr =>
    ⟨hr.shape_eq, fun bi hbi h hh j hj => ?_⟩, fun {c} hval {g q k v pr d d' b s w fq fk fv fp}
      hq hk hv hp => ?_⟩
  · have hg : 0 < groups := Nat.pos_of_ne_zero fun h0 => by simp [h0] at hh
    have hidx : (bi * (kv * groups) + h) * (s * w) + j < Shape.numel [b, kv * groups, s, w] := by
      rw [Shape.numel_four]
      calc _ < b * (kv * groups) * (s * w) := Tensor.mul_add_lt (Tensor.mul_add_lt hbi hh) hj
        _ = _ := by ring
    rw [hr.get_eq _ hidx, repeatedHeads_at f hg hj]
  obtain ⟨hg, hH⟩ := ModelConfig.gqaGroups_spec (ModelConfig.validated_of_validate hval)
  refine ⟨(Graph.records_scores_grouped hq hk hH).mono fun sc hsc =>
      ⟨hsc.shape_eq, fun bi hbi h hh i hi o ho => ?_⟩,
    (Graph.records_outputs_grouped hp hv hH).mono fun out hout =>
      ⟨hout.shape_eq, fun bi hbi h hh i hi e he => ?_⟩⟩
  · -- the query row and the key row of the score at head `h`, row `i`, key position `o`
    have hidx : ((bi * c.numAttentionHeads + h) * s + i) * s + o <
        Shape.numel [b, c.numAttentionHeads, s, s] := by
      rw [Shape.numel_four]
      exact Tensor.mul_add_lt (Tensor.mul_add_lt (Tensor.mul_add_lt hbi hh) hi) ho
    rw [hsc.get_eq _ hidx, Tensor.mul_add_div_of_lt _ ho, Tensor.mul_add_div_of_lt _ hi,
      Tensor.mul_add_mod_of_lt _ ho]
    refine Tensor.dotEntry_congr (fun _ _ => rfl) fun j _ => ?_
    rw [← hH, head_div_groups bi h hg]
    congr 1
    ring
  · -- the weights row and the value column of the output at head `h`, row `i`, feature `e`
    have hidx : ((bi * c.numAttentionHeads + h) * s + i) * w + e <
        Shape.numel [b, c.numAttentionHeads, s, w] := by
      rw [Shape.numel_four]
      exact Tensor.mul_add_lt (Tensor.mul_add_lt (Tensor.mul_add_lt hbi hh) hi) he
    rw [hout.get_eq _ hidx, Tensor.mul_add_div_of_lt _ he, Tensor.mul_add_div_of_lt _ hi,
      Tensor.mul_add_mod_of_lt _ he]
    refine Tensor.dotEntry_congr (fun _ _ => rfl) fun j _ => ?_
    rw [← hH, head_div_groups bi h hg]
    congr 1
    ring

/-- Two query heads over one key/value head, one position, heads of two features: both query
heads are scored against the one key head and weigh the one value head. -/
theorem grouped_heads_two_queries_share_key :
    let c : ModelConfig :=
      { vocabSize := 1, hiddenSize := 4, intermediateSize := 1, numHiddenLayers := 1,
        numAttentionHeads := 2, numKeyValueHeads := some 1 }
    let gr : Graph := { nodes := #[⟨⟨.f32, [1, 2, 1, 2], #[1, 2, 3, 4]⟩, .input false, false, [4, 2, 2, 1]⟩,
      ⟨⟨.f32, [1, 1, 1, 2], #[5, 6]⟩, .input false, false, [2, 2, 2, 1]⟩,
      ⟨⟨.f32, [1, 1, 1, 2], #[7, 8]⟩, .input false, false, [2, 2, 2, 1]⟩,
      ⟨⟨.f32, [1, 2, 1, 1], #[1, 1]⟩, .input false, false, [2, 1, 1, 1]⟩] }
    c.validate = .ok () ∧
    gr.HasValue 0 .f32 [1, 2, 1, 2] (gr.node 0).value.get ∧
    gr.HasValue 1 .f32 [1, 1, 1, 2] (gr.node 1).value.get ∧
    gr.HasValue 2 .f32 [1, 1, 1, 2] (gr.node 2).value.get ∧
    gr.HasValue 3 .f32 [1, 2, 1, 1] (gr.node 3).value.get ∧
    Graph.Records (repeatKv 1 2) gr (fun r =>
      r.shape = [1, 1 * 2, 1, 2] ∧
      ∀ bi < 1, ∀ h < 1 * 2, ∀ j < 1 * 2,
        r.get ((bi * (1 * 2) + h) * (1 * 2) + j) =
          (gr.node 1).value.get ((bi * 1 + h / 2) * (1 * 2) + j)) ∧
    Graph.Records (do let kr ← repeatKv 1 c.gqaGroups; Graph.matmul 0 (← Graph.t kr)) gr (fun sc =>
      sc.shape = [1, c.numAttentionHeads, 1, 1] ∧
      ∀ bi < 1, ∀ h < c.numAttentionHeads, ∀ i < 1, ∀ o < 1,
        sc.get (((bi * c.numAttentionHeads + h) * 1 + i) * 1 + o) =
          Tensor.dotEntry .f32 2
            (fun j => (gr.node 0).value.get (((bi * c.numAttentionHeads + h) * 1 + i) * 2 + j))
            (fun j => (gr.node 1).value.get (((bi * c.numKvHeads + h / c.gqaGroups) * 1 + o) * 2 + j))) ∧
    Graph.Records (do let vr ← repeatKv 2 c.gqaGroups; Graph.matmul 3 vr) gr (fun out =>
      out.shape = [1, c.numAttentionHeads, 1, 2] ∧
      ∀ bi < 1, ∀ h < c.numAttentionHeads, ∀ i < 1, ∀ e < 2,
        out.get (((bi * c.numAttentionHeads + h) * 1 + i) * 2 + e) =
          Tensor.dotEntry .f32 1
            (fun j => (gr.node 3).value.get (((bi * c.numAttentionHeads + h) * 1 + i) * 1 + j))
            (fun j => (gr.node 2).value.get (((bi * c.numKvHeads + h / c.gqaGroups) * 1 + j) * 2 + e))) := by
  intro c gr
  have hval : c.validate = .ok () := by decide
  have hq : gr.HasValue 0 .f32 [1, 2, 1, 2] (gr.node 0).value.get := ⟨by decide, Tensor.is_get _ rfl⟩
  have hk : gr.HasValue 1 .f32 [1, 1, 1, 2] (gr.node 1).value.get := ⟨by decide, Tensor.is_get _ rfl⟩
  have hv : gr.HasValue 2 .f32 [1, 1, 1, 2] (gr.node 2).value.get := ⟨by decide, Tensor.is_get _ rfl⟩
  have hp : gr.HasValue 3 .f32 [1, 2, 1, 1] (gr.node 3).value.get := ⟨by decide, Tensor.is_get _ rfl⟩
  exact ⟨hval, hq, hk, hv, hp, grouped_heads_pair_by_quotient.1 2 hk,
    grouped_heads_pair_by_quotient.2 hval hq hk hv hp⟩

end LowRankTuner
