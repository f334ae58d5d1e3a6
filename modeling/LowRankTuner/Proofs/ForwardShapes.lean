import Mathlib
import LowRankTuner.Proofs.GraphShapes
import LowRankTuner.Proofs.ModelShapes
import LowRankTuner.Proofs.NextTokenLoss
import LowRankTuner.Proofs.BuildFaults
/-!
# The shape of the logits

A model built from a weight map of its configuration's shapes runs on every batch of token ids
`[b, s]` below the vocabulary size, `b` and `s` positive, exactly when the hidden size, the head
size and the intermediate size are positive: it then records logits `[b, s, vocab]` in the
compute format of its precision (`build_forward_logits`).  Otherwise it stops dividing by zero,
since a projection with no input features has no rows to flatten its input into; `validate`
admits each of these sizes at zero.

`ModelM.Outcome x g ok P e` says both halves for one computation: when `ok` holds, `x` records a
node whose value satisfies `P` (`ModelM.Records`); when it does not, `x` stops with `e`.  One rule
chains such computations (`Outcome.bind`), so each part of the model has one lemma:

* a projection from `inF` features records `[b, s, outF]` exactly when `0 < inF`
  (`Projection.forward_outcome`), its adapter adding a term of the same shape;
* attention records `[b, s, h]` exactly when `0 < h` and `0 < hd`
  (`DecoderLayer.attention_outcome`), through heads `[b, heads, s, hd]`, rotated, the key/value
  heads repeated to every query head, and scores `[b, heads, s, s]` with the bias broadcast over
  the heads;
* the MLP, once `0 < h`, exactly when `0 < inter` (`DecoderLayer.mlp_outcome`);
* a layer, a stack of layers (`DecoderLayer.foldlM_outcome`) and the whole pass
  (`CausalLM.forward_outcome`), exactly when all three are positive.
-/

namespace LowRankTuner

namespace ModelM

/-- `x` succeeds on `g`, only appends nodes to it, and returns a node of the grown graph whose
value satisfies `P`. -/
def Records (x : ModelM NodeId) (g : Graph) (P : Tensor → Prop) : Prop :=
  ∃ i g', x.run g = .ok (i, g') ∧ g.Extends g' ∧ i < g'.nodes.size ∧ P (g'.node i).value

/-- When `ok` holds, `x` records on `g` a node whose value satisfies `P`; when it does not, `x`
stops with `e`. -/
def Outcome (x : ModelM NodeId) (g : Graph) (ok : Prop) (P : Tensor → Prop) (e : Failure) :
    Prop :=
  (ok → Records x g P) ∧ (¬ok → x.run g = .error e)

section Steps

variable {g g' : Graph} {s : Shape} {P Q : Tensor → Prop} {x y : ModelM NodeId}
  {f : NodeId → ModelM NodeId} {ok ok₁ : Prop} {e : Failure}

theorem Records.mono (h : Records x g P) (hPQ : ∀ t, P t → Q t) : Records x g Q := by
  obtain ⟨i, g', hrun, hext, hi, hP⟩ := h
  exact ⟨i, g', hrun, hext, hi, hPQ _ hP⟩

/-- What follows a step that records runs on the grown graph, with the node it returned. -/
theorem Records.run_bind (hx : Records x g (·.shape = s)) :
    ∃ i g', g.Extends g' ∧ g'.Holds i s ∧
      ∀ {β : Type} (f : NodeId → ModelM β), (x >>= f).run g = (f i).run g' := by
  obtain ⟨i, g', hrun, hext, hi, hs⟩ := hx
  exact ⟨i, g', hext, ⟨hi, hs⟩, fun f => run_bind_of_ok hrun⟩

/-- A computation that runs as one that records, on a graph that grows `g`, records. -/
theorem Records.of_run_eq (hxy : x.run g = y.run g') (hg : g.Extends g') (hy : Records y g' P) :
    Records x g P := by
  obtain ⟨i, g'', hrun, hext, hi, hP⟩ := hy
  exact ⟨i, g'', hxy.trans hrun, hg.trans hext, hi, hP⟩

theorem Records.bind_holds (hx : Records x g (·.shape = s))
    (hf : ∀ i g', g.Extends g' → g'.Holds i s → Records (f i) g' Q) : Records (x >>= f) g Q := by
  obtain ⟨i, g', hg, hi, hrun⟩ := hx.run_bind
  exact Records.of_run_eq (hrun f) hg (hf i g' hg hi)

theorem records_graphStep {x : GraphM NodeId} (h : Graph.Records x g P) :
    Records (graphStep x) g P :=
  h.run_graphStep

theorem records_holds {a : NodeId} (h : g.Holds a s) : Records (pure a) g (·.shape = s) :=
  ⟨a, g, rfl, Graph.Extends.refl g, h.1, h.2⟩

theorem run_value_bind {β : Type} (a : NodeId) (k : Tensor → ModelM β) :
    (graphStep (Graph.value a) >>= k).run g = (k (g.node a).value).run g :=
  run_bind_of_ok (run_graphStep_value g a)

theorem Records.of_value_bind {a : NodeId} {k : Tensor → ModelM NodeId}
    (h : Records (k (g.node a).value) g P) : Records (graphStep (Graph.value a) >>= k) g P :=
  Records.of_run_eq (run_value_bind a k) (Graph.Extends.refl g) h

theorem run_bind_of_error {β : Type} {k : NodeId → ModelM β} (h : x.run g = .error e) :
    (x >>= k).run g = .error e := by
  rw [StateT.run_bind, h]
  rfl

theorem Outcome.of_records (hok : ok) (h : Records x g P) : Outcome x g ok P e :=
  ⟨fun _ => h, fun h' => absurd hok h'⟩

theorem Outcome.of_error (hok : ¬ok) (h : x.run g = .error e) : Outcome x g ok P e :=
  ⟨fun h' => absurd h' hok, fun _ => h⟩

theorem Outcome.congr {ok' : Prop} {P' : Tensor → Prop} (h : Outcome x g ok P e)
    (hok : ok ↔ ok') (hP : ∀ t, P t → P' t) : Outcome x g ok' P' e :=
  ⟨fun h' => (h.1 (hok.2 h')).mono hP, fun h' => h.2 (mt hok.1 h')⟩

/-- A step with an outcome for a weaker condition `ok₁`, then, once it has recorded, one with
an outcome for the whole condition. -/
theorem Outcome.bind (hx : Outcome x g ok₁ (·.shape = s) e) (hok : ok → ok₁)
    (hf : ok₁ → ∀ i g', g.Extends g' → g'.Holds i s → Outcome (f i) g' ok Q e) :
    Outcome (x >>= f) g ok Q e := by
  refine ⟨fun h => (hx.1 (hok h)).bind_holds fun i g' hg hi => (hf (hok h) i g' hg hi).1 h,
    fun h => ?_⟩
  by_cases h₁ : ok₁
  · -- the first step records, and what follows stops
    obtain ⟨i, g', hg, hi, hrun⟩ := (hx.1 h₁).run_bind
    rw [hrun]
    exact (hf h₁ i g' hg hi).2 h
  · exact run_bind_of_error (hx.2 h₁)

theorem Outcome.bind_records (hx : Records x g (·.shape = s))
    (hf : ∀ i g', g.Extends g' → g'.Holds i s → Outcome (f i) g' ok Q e) :
    Outcome (x >>= f) g ok Q e :=
  Outcome.bind (Outcome.of_records trivial hx) (fun _ => trivial) fun _ => hf

theorem Outcome.of_run_eq (hxy : x.run g = y.run g) (h : Outcome y g ok P e) :
    Outcome x g ok P e :=
  ⟨fun hok => Records.of_run_eq hxy (Graph.Extends.refl g) (h.1 hok),
    fun hok => hxy.trans (h.2 hok)⟩

theorem Outcome.of_value_bind {a : NodeId} {k : Tensor → ModelM NodeId}
    (h : Outcome (k (g.node a).value) g ok P e) :
    Outcome (graphStep (Graph.value a) >>= k) g ok P e :=
  Outcome.of_run_eq (run_value_bind a k) h

theorem Outcome.of_lift_bind {α : Type} {r : Except ShapeFault α} {v : α}
    {k : α → ModelM NodeId} (hr : r = .ok v) (h : Outcome (k v) g ok P e) :
    Outcome (graphStep (Graph.lift r) >>= k) g ok P e := by
  subst hr
  exact Outcome.of_run_eq (run_bind_of_ok rfl) h

end Steps

end ModelM

/-! ## What validation guarantees -/

/-- The facts `validate` establishes that the forward pass reads: a head, a layer, query heads
in whole groups over the key/value heads, and an even head size for the rotation. -/
structure ModelConfig.Validated (c : ModelConfig) : Prop where
  heads : 0 < c.numAttentionHeads
  layers : 0 < c.numHiddenLayers
  groups : c.numKvHeads * (c.numAttentionHeads / c.numKvHeads) = c.numAttentionHeads
  even : c.headSize % 2 = 0

theorem ModelConfig.validated_of_validate {c : ModelConfig} (h : c.validate = .ok ()) :
    c.Validated := by
  unfold ModelConfig.validate at h
  split at h
  · cases h
  rename_i hpresent
  split at h
  · cases h
  split at h
  · cases h
  rename_i hdvd
  split at h
  · cases h
  rename_i heven
  simp only [Bool.or_eq_true, beq_iff_eq, not_or] at hpresent
  simp only [bne_iff_ne, ne_eq, Decidable.not_not] at hdvd heven
  exact ⟨Nat.pos_of_ne_zero hpresent.1, Nat.pos_of_ne_zero hpresent.2,
    Nat.mul_div_cancel' (Nat.dvd_of_mod_eq_zero hdvd), heven⟩

section Parts

open LowRankTuner.Graph

variable {g : Graph}

/-- The adapter's term of rows `[n, inF]`: `[n, r]` through `A`, then `[n, outF]` through `B`. -/
theorem Adapter.records_forward {ad : Adapter} {x : NodeId} {r inF outF n : Nat}
    (ha : ad.a.shape = [r, inF]) (hb : ad.b.shape = [outF, r]) (hx : g.Holds x [n, inF]) :
    ModelM.Records (ad.forward x) g (·.shape = [n, outF]) := by
  refine ModelM.records_graphStep ?_
  refine (records_convert_shape hx _).bind_holds fun x₁ g₁ e₁ hx₁ => ?_
  rw [Adapter.dropInput_none, pure_bind]
  refine (records_inputNamed _ ha).bind_holds fun a g₂ e₂ ha₂ => ?_
  refine (records_inputNamed _ hb).bind_holds fun b g₃ e₃ hb₃ => ?_
  refine (records_t_shape [] (ha₂.mono e₃)).bind_holds fun ta g₄ e₄ hta => ?_
  refine (records_matmul_shape [] (hx₁.mono (e₂.trans (e₃.trans e₄))) hta).bind_holds
    fun hid g₅ e₅ hhid => ?_
  refine (records_t_shape [] (hb₃.mono (e₄.trans e₅))).bind_holds fun tb g₆ e₆ htb => ?_
  refine (records_matmul_shape [] (hhid.mono e₆) htb).bind_holds fun out g₇ _ hout => ?_
  exact records_affine_shape hout _ _

/-- An adapter's term, converted to the format of the projection `out` of its rows `x` and added
to it; what follows runs on the sum. -/
theorem Adapter.records_addTo {ad : Adapter} {x out : NodeId} {r inF outF n : Nat}
    {k : NodeId → ModelM NodeId} {Q : Tensor → Prop}
    (ha : ad.a.shape = [r, inF]) (hb : ad.b.shape = [outF, r]) (hx : g.Holds x [n, inF])
    (hout : g.Holds out [n, outF])
    (hk : ∀ g' o, g.Extends g' → g'.Holds o [n, outF] → ModelM.Records (k o) g' Q) :
    ModelM.Records (do
      let delta ← ad.forward x
      let v ← graphStep (Graph.value out)
      let sum ← graphStep (do Graph.add out (← Graph.convert delta v.dtype))
      k sum) g Q := by
  refine (Adapter.records_forward ha hb hx).bind_holds fun delta g₁ e₁ hdelta => ?_
  refine ModelM.Records.of_value_bind ?_
  refine (ModelM.records_graphStep ?_).bind_holds fun sum g₂ e₂ hsum => hk _ _ (e₁.trans e₂) hsum
  refine (records_convert_shape hdelta _).bind_holds fun c g₃ e₃ hc => ?_
  exact records_binary_shape ((hout.mono e₁).mono e₃) hc

/-- **A projection runs exactly when it has input features.**  From `[bt, sq, inF]` it records
`[bt, sq, outF]`, with or without a bias and an adapter; with no input features it stops
dividing by zero. -/
theorem Projection.forward_outcome {pr : Projection} {x : NodeId} {bt sq inF outF : Nat}
    (hpr : pr.Fits outF inF) (hx : g.Holds x [bt, sq, inF]) :
    ModelM.Outcome (pr.forward x) g (0 < inF) (·.shape = [bt, sq, outF])
      (.aborted divisionByZero) := by
  obtain ⟨w, bias, adapter⟩ := pr
  have hw : w.shape = [outF, inF] := hpr.weight
  have hw0 : w.dim 0 = outF := by simp [Tensor.dim, hw]
  have hw1 : w.dim 1 = inF := by simp [Tensor.dim, hw]
  unfold Projection.forward
  refine ModelM.Outcome.of_value_bind ?_
  dsimp only
  rw [hw0, hw1, show (g.node x).value.numel = bt * sq * inF by
    simp [Tensor.numel, hx.2, Nat.mul_assoc], hx.2]
  by_cases hin : 0 < inF
  swap
  · -- no input features: the rows of the flattened input would be a quotient by zero
    refine ModelM.Outcome.of_error hin ?_
    rw [if_pos (by simp; omega)]
    rfl
  refine ModelM.Outcome.of_records hin ?_
  rw [if_neg (by simp; omega), Nat.mul_div_cancel _ hin]
  simp only [List.dropLast_cons_cons, List.dropLast_singleton, List.cons_append, List.nil_append]
  -- the input as rows `[bt * sq, inF]`, projected, and back to `[bt, sq, outF]` at the end
  have hlast : ∀ g' o, g'.Holds o [bt * sq, outF] →
      ModelM.Records (graphStep (reshape o [bt, sq, outF])) g' (·.shape = [bt, sq, outF]) :=
    fun _ _ ho => ModelM.records_graphStep (records_reshape_shape ho (by simp [Nat.mul_assoc]))
  refine (ModelM.records_graphStep (records_reshape_shape hx (by simp [Nat.mul_assoc]))).bind_holds
    fun x₂ g₁ e₁ hx₂ => ?_
  refine (ModelM.records_graphStep (records_input _ hpr.weight)).bind_holds fun wi g₂ e₂ hwi => ?_
  have hmatmul : ModelM.Records (graphStep (do Graph.matmul x₂ (← Graph.t wi))) g₂
      (·.shape = [bt * sq, outF]) := by
    refine ModelM.records_graphStep ((records_t_shape [] hwi).bind_holds fun ti g₃ e₃ hti => ?_)
    exact records_matmul_shape [] ((hx₂.mono e₂).mono e₃) hti
  refine hmatmul.bind_holds fun out g₃ e₃ hout => ?_
  -- with or without a bias, then with or without an adapter, the rows keep their shape
  cases bias with
  | none =>
    cases adapter with
    | none => exact hlast _ _ hout
    | some ad =>
      obtain ⟨r, ha, hb⟩ := hpr.adapter ad rfl
      exact Adapter.records_addTo ha hb ((hx₂.mono e₂).mono e₃) hout fun _ _ _ ho => hlast _ _ ho
  | some b =>
    have hbias : ModelM.Records (graphStep (do Graph.broadcastAdd out (← Graph.input b))) g₃
        (·.shape = [bt * sq, outF]) := by
      refine ModelM.records_graphStep ((records_input _ (hpr.bias b rfl)).bind_holds
        fun bi g₄ e₄ hbi => ?_)
      exact records_broadcast_shape (hout.mono e₄) hbi
        (Shape.broadcast_of_fits (by simp) (by simp))
    refine hbias.bind_holds fun out' g₄ e₄ hout' => ?_
    cases adapter with
    | none => exact hlast _ _ hout'
    | some ad =>
      obtain ⟨r, ha, hb⟩ := hpr.adapter ad rfl
      exact Adapter.records_addTo ha hb (((hx₂.mono e₂).mono e₃).mono e₄) hout'
        fun _ _ _ ho => hlast _ _ ho

theorem RmsNorm.records_forward {n : RmsNorm} {x : NodeId} {bt sq h : Nat}
    (hw : n.weight.shape = [h]) (hx : g.Holds x [bt, sq, h]) :
    ModelM.Records (n.forward x) g (·.shape = [bt, sq, h]) := by
  refine ModelM.records_graphStep (Records.of_value_bind ?_)
  refine (records_convert_shape hx _).bind_holds fun x₁ g₁ e₁ hx₁ => ?_
  refine (records_unary_shape hx₁).bind_holds fun sq₂ g₂ e₂ hsq₂ => ?_
  -- the mean square is `[bt, sq, 1]`, broadcast back over the last dimension
  refine (records_meanLast_shape hsq₂).bind_holds fun ms g₃ e₃ hms => ?_
  refine (records_affine_shape hms _ _).bind_holds fun a g₄ e₄ ha => ?_
  refine (records_unary_shape ha).bind_holds fun r g₅ e₅ hr => ?_
  refine (records_unary_shape hr).bind_holds fun rr g₆ e₆ hrr => ?_
  have e₁₆ := e₂.trans (e₃.trans (e₄.trans (e₅.trans e₆)))
  refine (records_broadcast_shape (hx₁.mono e₁₆) hrr (Shape.broadcast_set_one _ _)).bind_holds
    fun y g₇ e₇ hy => ?_
  refine (records_convert_shape hy _).bind_holds fun z g₈ e₈ hz => ?_
  refine (records_input _ hw).bind_holds fun wi g₉ e₉ hwi => ?_
  exact records_broadcast_shape (hz.mono e₉) hwi (Shape.broadcast_of_fits (by simp) (by simp))

/-! ## Attention -/

/-- The rotary tables and the attention bias of a batch `bt × sq`, recorded in a graph. -/
structure Attention.Tables (g : Graph) (hd bt sq : Nat) (cos sin bias : NodeId) : Prop where
  cos : g.Holds cos [sq, hd / 2]
  sin : g.Holds sin [sq, hd / 2]
  bias : g.Holds bias [bt, 1, sq, sq]

theorem Attention.Tables.mono {g' : Graph} {hd bt sq : Nat} {cos sin bias : NodeId}
    (h : Attention.Tables g hd bt sq cos sin bias) (hg : g.Extends g') :
    Attention.Tables g' hd bt sq cos sin bias :=
  ⟨h.cos.mono hg, h.sin.mono hg, h.bias.mono hg⟩

/-- The heads of a projection from `inF` features: `[bt, n, sq, d]`. -/
theorem Attention.headsOf_outcome {pr : Projection} {x : NodeId} {bt sq inF n d : Nat}
    (hpr : pr.Fits (n * d) inF) (hx : g.Holds x [bt, sq, inF]) :
    ModelM.Outcome (Attention.headsOf pr x bt sq n d) g (0 < inF) (·.shape = [bt, n, sq, d])
      (.aborted divisionByZero) := by
  refine (Projection.forward_outcome hpr hx).bind id fun hin p g₁ _ hp => ?_
  refine ModelM.Outcome.of_records hin (ModelM.records_graphStep ?_)
  refine (records_reshape_shape hp (by simp)).bind_holds (s := [bt, sq, n, d])
    fun r g₂ _ hr => ?_
  refine (records_transpose_shape hr (i := 1) (j := 2) (by omega)).bind_holds fun u g₃ _ hu => ?_
  exact records_contiguous_shape hu

/-- **Attention runs exactly when the hidden and the head sizes are positive**: the query, key
and value projections read the hidden size, the output projection `H * hd` features. -/
theorem DecoderLayer.attention_outcome {c : ModelConfig} {l : DecoderLayer}
    {x cos sin bias : NodeId} {bt sq : Nat} (hc : c.Validated) (hl : l.Fits c) (hbt : 0 < bt)
    (hsq : 0 < sq) (ht : Attention.Tables g c.headSize bt sq cos sin bias)
    (hx : g.Holds x [bt, sq, c.hiddenSize]) :
    ModelM.Outcome (l.attention.forward x cos sin bias) g (0 < c.hiddenSize ∧ 0 < c.headSize)
      (·.shape = [bt, sq, c.hiddenSize]) (.aborted divisionByZero) := by
  unfold Attention.forward
  refine ModelM.Outcome.of_value_bind ?_
  have hrank : (g.node x).value.rank = 3 := by simp [Tensor.rank, hx.2]
  have hbt' : (g.node x).value.dim 0 = bt := by simp [Tensor.dim, hx.2]
  have hsq' : (g.node x).value.dim 1 = sq := by simp [Tensor.dim, hx.2]
  rw [hrank, if_neg (by decide)]
  dsimp only
  rw [hbt', hsq', hl.heads, hl.kvHeads, hl.headDim]
  -- the heads: queries `[bt, H, sq, hd]`, keys and values `[bt, KV, sq, hd]`
  refine (Attention.headsOf_outcome hl.q hx).bind And.left fun hh q g₁ e₁ hq => ?_
  refine (Attention.headsOf_outcome hl.k (hx.mono e₁)).bind And.left fun _ k g₂ e₂ hk => ?_
  refine (Attention.headsOf_outcome hl.v ((hx.mono e₁).mono e₂)).bind And.left
    fun _ v g₃ e₃ hv => ?_
  have ht₃ := ht.mono (e₁.trans (e₂.trans e₃))
  refine ModelM.Outcome.bind_records (s := [bt, sq, c.numAttentionHeads * c.headSize])
    (ModelM.records_graphStep ?_) fun out g₄ _ hout => ?_
  swap
  · -- the output projection reads `H * hd` features
    refine (Projection.forward_outcome hl.o hout).congr ?_ fun _ ht => ht
    rw [Nat.mul_pos_iff_of_pos_left hc.heads]
    exact ⟨fun hd => ⟨hh, hd⟩, And.right⟩
  -- rotated, then the keys and values repeated to every query head
  refine (records_applyRotary_shape (hq.mono (e₂.trans e₃)) ht₃.cos ht₃.sin hc.even).bind_holds
    fun q₁ g₅ e₅ hq₁ => ?_
  refine (records_applyRotary_shape (hk.mono (e₃.trans e₅)) (ht₃.cos.mono e₅) (ht₃.sin.mono e₅)
    hc.even).bind_holds fun k₁ g₆ e₆ hk₁ => ?_
  refine (records_repeatKv_shape hk₁ _).bind_holds fun k₂ g₇ e₇ hk₂ => ?_
  refine (records_repeatKv_shape (hv.mono (e₅.trans (e₆.trans e₇))) _).bind_holds
    fun v₁ g₈ e₈ hv₁ => ?_
  rw [hc.groups] at hk₂ hv₁
  -- the scores `[bt, H, sq, sq]`, scaled, in single precision, plus the bias over every head
  refine (records_t_shape [bt, c.numAttentionHeads] (hk₂.mono e₈)).bind_holds
    fun kt g₉ e₉ hkt => ?_
  refine (records_matmul_shape [bt, c.numAttentionHeads]
    (hq₁.mono (e₆.trans (e₇.trans (e₈.trans e₉)))) hkt).bind_holds fun sc g₁₀ e₁₀ hsc => ?_
  refine (records_affine_shape hsc _ _).bind_holds fun sa g₁₁ e₁₁ hsa => ?_
  refine (records_convert_shape hsa _).bind_holds fun sf g₁₂ e₁₂ hsf => ?_
  have e₅₁₂ := e₅.trans (e₆.trans (e₇.trans (e₈.trans (e₉.trans (e₁₀.trans (e₁₁.trans e₁₂))))))
  refine (records_broadcast_shape hsf (ht₃.bias.mono e₅₁₂)
    (Shape.broadcast_set_one _ 1)).bind_holds fun sb g₁₃ e₁₃ hsb => ?_
  -- the softmax over the keys, which needs scores, then the weighted values `[bt, H, sq, hd]`
  refine Records.of_value_bind ?_
  refine (records_softmaxLast_shape hsb (by simp [hbt.ne', hc.heads.ne', hsq.ne'])).bind_holds
    fun pr g₁₄ e₁₄ hpr => ?_
  refine (records_convert_shape hpr _).bind_holds fun pc g₁₅ e₁₅ hpc => ?_
  have e₈₁₅ := e₉.trans (e₁₀.trans (e₁₁.trans (e₁₂.trans (e₁₃.trans (e₁₄.trans e₁₅)))))
  refine (records_matmul_shape [bt, c.numAttentionHeads] hpc (hv₁.mono e₈₁₅)).bind_holds
    fun pv g₁₆ _ hpv => ?_
  -- the heads side by side again: `[bt, sq, H * hd]`
  refine (records_transpose_shape hpv (i := 1) (j := 2) (by omega)).bind_holds
    (s := [bt, sq, c.numAttentionHeads, c.headSize]) fun tr g₁₇ _ htr => ?_
  exact records_reshape_shape htr (by simp)

/-! ## Layers -/

theorem DecoderLayer.mlp_outcome {c : ModelConfig} {l : DecoderLayer} {x : NodeId} {bt sq : Nat}
    (hl : l.Fits c) (hh : 0 < c.hiddenSize) (hx : g.Holds x [bt, sq, c.hiddenSize]) :
    ModelM.Outcome (l.mlp.forward x) g (0 < c.intermediateSize) (·.shape = [bt, sq, c.hiddenSize])
      (.aborted divisionByZero) := by
  unfold Mlp.forward
  -- the gate and the up projection read the hidden size; only the down projection reads `inter`
  refine ModelM.Outcome.bind_records ((Projection.forward_outcome hl.gate hx).1 hh)
    fun g₀ g₁ e₁ hg₀ => ?_
  refine ModelM.Outcome.bind_records (ModelM.records_graphStep (records_silu_shape hg₀))
    fun gate g₂ e₂ hgate => ?_
  refine ModelM.Outcome.bind_records
    ((Projection.forward_outcome hl.up (hx.mono (e₁.trans e₂))).1 hh) fun up g₃ e₃ hup => ?_
  refine ModelM.Outcome.bind_records
    (ModelM.records_graphStep (records_binary_shape (hgate.mono e₃) hup)) fun p g₄ _ hp => ?_
  exact Projection.forward_outcome hl.down hp

theorem DecoderLayer.forward_outcome {c : ModelConfig} {l : DecoderLayer}
    {x cos sin bias : NodeId} {bt sq : Nat} (hc : c.Validated) (hl : l.Fits c) (hbt : 0 < bt)
    (hsq : 0 < sq) (ht : Attention.Tables g c.headSize bt sq cos sin bias)
    (hx : g.Holds x [bt, sq, c.hiddenSize]) :
    ModelM.Outcome (l.forward x cos sin bias) g
      (0 < c.hiddenSize ∧ 0 < c.headSize ∧ 0 < c.intermediateSize)
      (·.shape = [bt, sq, c.hiddenSize]) (.aborted divisionByZero) := by
  unfold DecoderLayer.forward
  refine ModelM.Outcome.bind_records (RmsNorm.records_forward hl.inputNorm hx)
    fun n₁ g₁ e₁ hn₁ => ?_
  refine (DecoderLayer.attention_outcome hc hl hbt hsq (ht.mono e₁) hn₁).bind
    (fun h => ⟨h.1, h.2.1⟩) fun hok a g₂ e₂ ha => ?_
  refine ModelM.Outcome.bind_records
    (ModelM.records_graphStep (records_binary_shape (hx.mono (e₁.trans e₂)) ha))
    fun hid g₃ _ hhid => ?_
  refine ModelM.Outcome.bind_records (RmsNorm.records_forward hl.postNorm hhid)
    fun n₂ g₄ e₄ hn₂ => ?_
  refine (DecoderLayer.mlp_outcome hl hok.1 hn₂).bind (fun h => h.2.2) fun hi f g₅ e₅ hf => ?_
  exact ModelM.Outcome.of_records ⟨hok.1, hok.2, hi⟩
    (ModelM.records_graphStep (records_binary_shape (hhid.mono (e₄.trans e₅)) hf))

/-- A stack of layers runs exactly when each one does: the first layer that stops stops the
stack, and the shape is kept from one layer to the next. -/
theorem DecoderLayer.foldlM_outcome {c : ModelConfig} {cos sin bias : NodeId} {bt sq : Nat}
    (hc : c.Validated) (hbt : 0 < bt) (hsq : 0 < sq) :
    ∀ {ls : List DecoderLayer} {g : Graph} {x : NodeId}, ls ≠ [] → (∀ l ∈ ls, l.Fits c) →
      Attention.Tables g c.headSize bt sq cos sin bias → g.Holds x [bt, sq, c.hiddenSize] →
      ModelM.Outcome (ls.foldlM (fun h l => l.forward h cos sin bias) x) g
        (0 < c.hiddenSize ∧ 0 < c.headSize ∧ 0 < c.intermediateSize)
        (·.shape = [bt, sq, c.hiddenSize]) (.aborted divisionByZero)
  | [], _, _, hne, _, _, _ => absurd rfl hne
  | l :: rest, g, x, _, hls, ht, hx => by
    rw [List.foldlM_cons]
    refine (DecoderLayer.forward_outcome hc (hls l List.mem_cons_self) hbt hsq ht hx).bind id
      fun hok y g' e hy => ?_
    by_cases hrest : rest = []
    · subst hrest
      exact ModelM.Outcome.of_records hok (ModelM.records_holds hy)
    · exact DecoderLayer.foldlM_outcome hc hbt hsq hrest
        (fun l hl => hls l (List.mem_cons_of_mem _ hl)) (ht.mono e) hy

/-! ## The whole pass -/

/-- Token ids in rows of `s` each, at least one row, below the vocabulary size, and a mask of
the same shape. -/
structure TokenBatch (vocab s : Nat) (ids mask : List (List Nat)) : Prop where
  nonempty : ids ≠ []
  rows : ∀ row ∈ ids, row.length = s
  below : ∀ row ∈ ids, ∀ i ∈ row, i < vocab
  mask : mask.map List.length = ids.map List.length

namespace TokenBatch

variable {vocab s : Nat} {ids mask : List (List Nat)}

/-- The sequence length read off the first row. -/
theorem seq (h : TokenBatch vocab s ids mask) : (ids.head?.map List.length).getD 0 = s := by
  obtain ⟨row, rest, rfl⟩ := List.exists_cons_of_ne_nil h.nonempty
  simpa using h.rows row List.mem_cons_self

theorem length_flatMap (h : TokenBatch vocab s ids mask) :
    (ids.flatMap id).length = ids.length * s := by
  simp only [List.length_flatMap, id]
  rw [List.map_congr_left (g := fun _ => s) h.rows]
  simp [Nat.mul_comm]

theorem flatMap_below (h : TokenBatch vocab s ids mask) : ∀ i ∈ ids.flatMap id, i < vocab := by
  intro i hi
  obtain ⟨row, hrow, hi⟩ := List.mem_flatMap.1 hi
  exact h.below row hrow i hi

theorem mask_length (h : TokenBatch vocab s ids mask) : mask.length = ids.length := by
  simpa using congrArg List.length h.mask

theorem mask_seq (h : TokenBatch vocab s ids mask) : (mask.head?.map List.length).getD 0 = s := by
  rw [← List.head?_map, h.mask, List.head?_map]
  exact h.seq

end TokenBatch

/-- **The forward pass of a model that fits its configuration**, on a batch `[b, s]`: logits
`[b, s, vocab]` in the compute format exactly when the hidden, head and intermediate sizes are
positive; otherwise a division by zero in the first layer. -/
theorem CausalLM.forward_outcome {c : ModelConfig} {m : CausalLM} {ids mask : List (List Nat)}
    {s : Nat} (hc : c.Validated) (hm : m.Fits c) (hbatch : TokenBatch c.vocabSize s ids mask)
    (hs : 0 < s) (g : Graph) :
    ModelM.Outcome (m.forward ids mask) g
      (0 < c.hiddenSize ∧ 0 < c.headSize ∧ 0 < c.intermediateSize)
      (fun t => t.shape = [ids.length, s, c.vocabSize] ∧ t.dtype = m.precision.compute)
      (.aborted divisionByZero) := by
  unfold CausalLM.forward
  dsimp only
  rw [hm.config, hbatch.seq]
  -- the embedded ids `[b, s, h]`
  refine ModelM.Outcome.bind_records (ModelM.records_graphStep (records_input _ hm.embed))
    fun embed g₁ e₁ hembed => ?_
  have hnumel : Shape.numel [ids.length, s, c.hiddenSize] =
      Shape.numel [(ids.flatMap id).length, c.hiddenSize] := by
    rw [hbatch.length_flatMap]
    simp [Nat.mul_assoc]
  refine ModelM.Outcome.bind_records (ModelM.records_graphStep
    ((records_rows_shape hembed hbatch.flatMap_below).bind_holds
      fun r _ _ hr => records_reshape_shape hr hnumel)) fun x g₂ e₂ hx => ?_
  -- the rotary tables `[s, hd / 2]` and the bias `[b, 1, s, s]`
  refine ModelM.Outcome.of_value_bind ?_
  obtain ⟨cosT, sinT, htab, hcos, hsin⟩ := rotaryTables_shape m.invFreq s (g₂.node x).value.dtype
  rw [hm.invFreq] at hcos hsin
  refine ModelM.Outcome.of_lift_bind htab ?_
  refine ModelM.Outcome.bind_records (ModelM.records_graphStep (records_input _ hcos))
    fun cos g₃ e₃ hcos' => ?_
  refine ModelM.Outcome.bind_records (ModelM.records_graphStep (records_input _ hsin))
    fun sin g₄ e₄ hsin' => ?_
  obtain ⟨biasT, hbiasT, hbshape⟩ := attentionBias_shape mask
  rw [hbatch.mask_length, hbatch.mask_seq] at hbshape
  refine ModelM.Outcome.bind_records
    (ModelM.records_graphStep (Records.of_lift_bind hbiasT (records_input _ hbshape)))
    fun bias g₅ e₅ hbias => ?_
  have ht : Attention.Tables g₅ c.headSize ids.length s cos sin bias :=
    ⟨hcos'.mono (e₄.trans e₅), hsin'.mono e₅, hbias⟩
  -- every layer, then the final normalisation and the head
  have hlayers : m.layers ≠ [] := by
    rw [← List.length_pos_iff, hm.layerCount]
    exact hc.layers
  refine (DecoderLayer.foldlM_outcome hc (List.length_pos_iff.2 hbatch.nonempty) hs hlayers
    hm.layers ht (hx.mono (e₃.trans (e₄.trans e₅)))).bind id fun hok y g₆ e₆ hy => ?_
  refine ModelM.Outcome.of_records hok ?_
  refine (RmsNorm.records_forward hm.norm hy).bind_holds fun n g₇ e₇ hn => ?_
  refine ModelM.records_graphStep ?_
  -- the output head is a `[vocab, h]` matrix, its own or the embedding; the rest is the same
  split <;> refine Records.bind_holds (s := [c.vocabSize, c.hiddenSize]) ?_
    fun head g₈ e₈ hhead => ?_
  on_goal 1 => exact records_input _ (hm.lmHead _ ‹_›)
  on_goal 2 =>
    exact records_holds (hembed.mono (e₂.trans (e₃.trans (e₄.trans (e₅.trans (e₆.trans e₇))))))
  all_goals
    refine Records.of_value_bind ?_
    rw [if_neg (by simp [Tensor.rank, hhead.2]), show (g₈.node head).value.dim 0 = c.vocabSize by
      simp [Tensor.dim, hhead.2]]
    -- the positions as rows `[b * s, h]`, times the head, then back to `[b, s, vocab]`
    refine (records_reshape_shape (hn.mono e₈) (by simp [Nat.mul_assoc])).bind_holds
      (s := [ids.length * s, c.hiddenSize]) fun flat g₉ e₉ hflat => ?_
    refine (records_t_shape [] (hhead.mono e₉)).bind_holds fun th g₁₀ e₁₀ hth => ?_
    refine (records_matmul_shape [] (hflat.mono e₁₀) hth).bind_holds fun lg g₁₁ _ hlg => ?_
    refine (records_reshape_shape hlg (by simp [Nat.mul_assoc])).bind_holds
      (s := [ids.length, s, c.vocabSize]) fun lg' g₁₂ _ hlg' => ?_
    exact records_convert_dtype hlg' _

end Parts

end LowRankTuner
