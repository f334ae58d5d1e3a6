import Mathlib
import LowRankTuner.Training.Export
import LowRankTuner.Proofs.JsonRoundTrip
/-!
# The adapter parameters of a built model

`CausalLM.build` takes the layers out of a weight map one after another, and gives a
projection an adapter exactly when its module is a target.  Reading the loader step by step
(`LoadM.Returns`, one rule per way a step is composed), every model it builds holds, for each
layer `i` below the layer count, projections that are matrices, an adapter exactly on the
targeted ones, and adapters named after the projection's path and shaped after its weight
(`CausalLM.build_built`).

The names of the parameters are built in three places: the adapters' own names, the frozen
names of `namedParameters`, and the case-insensitive test `isAdapterParameter` that picks the
adapter state.  They agree:

* the trainable parameters are, by name and shape, the adapter layout of the layers: two
  matrices `lora_A : [rank, in]` and `lora_B : [out, rank]` for every targeted projection
  (`CausalLM.Built.trainable_layout`), each under its own name
  (`adapterLayout_names_nodup`);
* no frozen name holds the word `lora` in any case, while every adapter name does, so the
  adapter state is exactly the trainable parameters (`CausalLM.adapterState_perm`), sorted by
  name (`CausalLM.adapterState_sorted`);
* a projection's frozen weight is named under `base_layer` exactly when it has an adapter
  (`CausalLM.frozenWeight_mem_namedParameters`).
-/

namespace LowRankTuner

/-! ## Steps of the loader -/

namespace LoadM

variable {α β : Type}

/-- Every run of `x` that succeeds returns a value satisfying `P`. -/
def Returns (x : LoadM α) (P : α → Prop) : Prop :=
  ∀ l a l', x.run l = .ok (a, l') → P a

theorem returns_pure {a : α} {P : α → Prop} (h : P a) : (pure a : LoadM α).Returns P := by
  intro l a' l' hr
  cases hr
  exact h

theorem returns_bind {x : LoadM α} {f : α → LoadM β} {Q : α → Prop} {P : β → Prop}
    (hx : x.Returns Q) (hf : ∀ a, Q a → (f a).Returns P) : (x >>= f).Returns P := by
  intro l b l' hr
  simp only [StateT.run_bind] at hr
  cases hxr : x.run l with
  | error e => rw [hxr] at hr; cases hr
  | ok al =>
    rw [hxr] at hr
    exact hf al.1 (hx l al.1 al.2 hxr) al.2 b l' hr

theorem returns_mapM {γ : Type} {f : γ → LoadM α} {P : γ → α → Prop} :
    ∀ (l : List γ), (∀ c ∈ l, (f c).Returns (P c)) →
      (l.mapM f).Returns (fun as => List.Forall₂ P l as)
  | [], _ => returns_pure List.Forall₂.nil
  | c :: l, h => by
    rw [List.mapM_cons]
    refine returns_bind (h c (List.mem_cons_self ..)) fun a ha => ?_
    refine returns_bind (returns_mapM l fun c' hc' => h c' (List.mem_cons_of_mem _ hc'))
      fun as has => ?_
    exact returns_pure (List.Forall₂.cons ha has)

theorem returns_any {x : LoadM α} : x.Returns fun _ => True := fun _ _ _ _ => trivial

theorem returns_throw {e : Failure} {P : α → Prop} : (throw e : LoadM α).Returns P := by
  intro l a l' hr
  cases hr

theorem returns_throw_bind {e : Failure} {f : β → LoadM α} {P : α → Prop} :
    (throw e >>= f : LoadM α).Returns P :=
  returns_bind (Q := fun _ => False) returns_throw fun _ h => h.elim

end LoadM

/-! ## The adapter a projection is given -/

namespace UniformSingle

theorem size_samples (u : UniformSingle) :
    ∀ (n : Nat) (r : StdRng) (acc : Array Float32), (u.samples n r acc).1.size = acc.size + n
  | 0, _, _ => rfl
  | n + 1, r, acc => by
    rw [samples, size_samples u n, Array.size_push]
    omega

end UniformSingle

namespace Tensor

@[simp] theorem shape_convert (t : Tensor) (d : DType) : (t.convert d).shape = t.shape := by
  unfold convert
  split <;> rfl

@[simp] theorem dtype_convert (t : Tensor) (d : DType) : (t.convert d).dtype = d := by
  unfold convert
  split
  · rename_i h
    exact beq_iff_eq.1 h
  · rfl

@[simp] theorem size_data_convert (t : Tensor) (d : DType) :
    (t.convert d).data.size = t.data.size := by
  unfold convert
  split
  · rfl
  · simp [map]

@[simp] theorem shape_zeros (d : DType) (s : Shape) : (zeros d s).shape = s := rfl

@[simp] theorem dtype_zeros (d : DType) (s : Shape) : (zeros d s).dtype = d := rfl

@[simp] theorem size_data_zeros (d : DType) (s : Shape) : (zeros d s).data.size = s.numel := by
  simp [zeros, full, generate]

end Tensor

/-- What an adapter drawn for a projection from `inF` to `outF` features holds: its name
prefix, `A : [rank, inF]` with as many elements as the draw count, `B : [outF, rank]`, both
in the adapter format. -/
structure AdapterShape (pre : String) (inF outF : Nat) (c : LoRAConfig) (dtype : DType)
    (ad : Adapter) : Prop where
  prefixName : ad.prefixName = pre
  shapeA : ad.a.shape = [c.rank, inF]
  shapeB : ad.b.shape = [outF, c.rank]
  dtypeA : ad.a.dtype = dtype
  dtypeB : ad.b.dtype = dtype
  sizeA : ad.a.data.size = c.rank * inF % Nat.pow 2 64
  sizeB : ad.b.data.size = Shape.numel [outF, c.rank]

theorem Adapter.init_shape {pre : String} {inF outF : Nat} {c : LoRAConfig} {dtype : DType}
    {r r' : StdRng} {ad : Adapter} (h : Adapter.init pre inF outF c dtype r = .ok (ad, r')) :
    AdapterShape pre inF outF c dtype ad := by
  unfold Adapter.init at h
  simp only [bind, Except.bind] at h
  split at h
  · cases h
  · split at h
    · cases h
    · simp only [pure, Except.pure, Except.ok.injEq, Prod.mk.injEq] at h
      obtain ⟨rfl, -⟩ := h
      exact ⟨rfl, by simp, rfl, by simp, rfl, by simp [UniformSingle.size_samples], by simp⟩

/-! ## What the loader builds -/

namespace Loader

/-- The module name of a path is read from its last dot on, so a text with a dot in it
fixes it whatever comes before. -/
theorem moduleName_append (x s : String) (hs : '.' ∈ s.toList) :
    moduleName (x ++ s) = moduleName s := by
  unfold moduleName
  have hne : (s.toList.reverse.takeWhile (· != '.')).length ≠ s.toList.reverse.length := by
    intro hlen
    have hall := List.takeWhile_eq_self_iff.1
      ((List.takeWhile_prefix _).eq_of_length hlen)
    simpa using hall '.' (List.mem_reverse.2 hs)
  rw [String.toList_append, List.reverse_append, List.takeWhile_append, if_neg hne]

/-- The path of a projection of layer `i`, such as `model.layers.0.self_attn.q_proj`. -/
def modulePath (i : Nat) (module : String) : String :=
  "model.layers." ++ toString i ++ "." ++ module

theorem modulePath_eq (i : Nat) (module : String) :
    modulePath i module = "model.layers." ++ toString i ++ "." ++ module := rfl

/-- The layer's part of a module path leaves the module name the module's own. -/
theorem moduleName_modulePath (i : Nat) (module : String) :
    moduleName (modulePath i module) = moduleName module := by
  unfold modulePath
  rw [String.append_assoc, moduleName_append _ _ (by simp)]
  -- the dot before the module stops the reading when the module has none of its own
  unfold moduleName
  have hdot : ".".toList = ['.'] := by decide
  rw [String.toList_append, hdot, List.reverse_append, List.takeWhile_append]
  split
  · rename_i hall
    rw [(List.takeWhile_prefix _).eq_of_length hall]
    simp
  · simp

/-- What a projection is built with: a matrix weight, an adapter exactly when its module
is a target, and the adapter's shape from the weight's. -/
structure ProjectionShape (lora : LoRAConfig) (p : PrecisionConfig) (path : String)
    (pr : Projection) : Prop where
  rank : pr.weight.rank = 2
  adapted : pr.adapter.isSome = lora.targets (moduleName path)
  adapter : ∀ ad, pr.adapter = some ad →
    AdapterShape (parameterPrefix ++ "." ++ path) (pr.weight.dim 1) (pr.weight.dim 0) lora
      p.adapter ad

theorem projection_returns (p : PrecisionConfig) (lora : LoRAConfig) (path : String) :
    (projection p lora path).Returns (ProjectionShape lora p path) := by
  unfold projection
  refine LoadM.returns_bind LoadM.returns_any fun weight _ => ?_
  refine LoadM.returns_bind LoadM.returns_any fun bias _ => ?_
  dsimp only
  split
  · -- a target: the weight must be a matrix, then the adapter is drawn for it
    rename_i htarget
    split
    · exact LoadM.returns_throw_bind
    · rename_i hrank
      refine LoadM.returns_bind LoadM.returns_any fun l _ => ?_
      split
      · exact LoadM.returns_throw_bind
      · rename_i ad rng hinit
        refine LoadM.returns_bind LoadM.returns_any fun _ _ => ?_
        exact LoadM.returns_pure ⟨by simpa using hrank, by simpa using htarget,
          fun ad' h => by cases h; exact Adapter.init_shape hinit⟩
  · rename_i htarget
    rw [pure_bind]
    split
    · exact LoadM.returns_throw_bind
    · rename_i hrank
      exact LoadM.returns_pure ⟨by simpa using hrank, by simpa using htarget, fun _ h => by cases h⟩

/-- Every projection of a layer built as layer `i`, with its path. -/
def LayerShape (lora : LoRAConfig) (p : PrecisionConfig) (i : Nat) (l : DecoderLayer) : Prop :=
  ∀ mp ∈ l.projections, ProjectionShape lora p (modulePath i mp.1) mp.2

theorem layer_returns (c : ModelConfig) (p : PrecisionConfig) (lora : LoRAConfig) (i : Nat) :
    (layer c p lora i).Returns (LayerShape lora p i) := by
  -- each projection's path, as the layer writes it, is its module path
  have hproj : ∀ m s, "." ++ m = s →
      (projection p lora ("model.layers." ++ toString i ++ s)).Returns
        (ProjectionShape lora p (modulePath i m)) := by
    intro m s hs
    rw [← hs, ← String.append_assoc]
    exact projection_returns p lora _
  unfold layer
  refine LoadM.returns_bind LoadM.returns_any fun _ _ => ?_
  refine LoadM.returns_bind (hproj "self_attn.q_proj" _ rfl) fun q hq => ?_
  refine LoadM.returns_bind (hproj "self_attn.k_proj" _ rfl) fun k hk => ?_
  refine LoadM.returns_bind (hproj "self_attn.v_proj" _ rfl) fun v hv => ?_
  refine LoadM.returns_bind (hproj "self_attn.o_proj" _ rfl) fun o ho => ?_
  refine LoadM.returns_bind LoadM.returns_any fun _ _ => ?_
  refine LoadM.returns_bind (hproj "mlp.gate_proj" _ rfl) fun gate hgate => ?_
  refine LoadM.returns_bind (hproj "mlp.up_proj" _ rfl) fun up hup => ?_
  refine LoadM.returns_bind (hproj "mlp.down_proj" _ rfl) fun down hdown => ?_
  refine LoadM.returns_pure fun mp hmp => ?_
  simp only [DecoderLayer.projections, List.mem_cons, List.not_mem_nil, or_false] at hmp
  rcases hmp with rfl | rfl | rfl | rfl | rfl | rfl | rfl <;> assumption

end Loader

namespace CausalLM

/-- What a model built from a weight map holds: its adapter settings and formats, and one
layer built as layer `i` for every `i` below the layer count. -/
structure Built (c : ModelConfig) (lora : LoRAConfig) (p : PrecisionConfig) (m : CausalLM) :
    Prop where
  lora_eq : m.lora = lora
  precision_eq : m.precision = p
  layers_built : List.Forall₂ (Loader.LayerShape lora p) (List.range c.numHiddenLayers) m.layers

variable {c : ModelConfig} {weights : WeightMap} {lora : LoRAConfig} {p : PrecisionConfig}
  {seed : UInt64} {m : CausalLM}

theorem assemble_built {n : Nat} (h : assemble c weights lora p seed = .ok (m, n)) :
    Built c lora p m := by
  unfold assemble at h
  simp only [bind, Except.bind] at h
  split at h
  · cases h
  split at h
  · cases h
  split at h
  · cases h
  rename_i r hload
  simp only [pure, Except.pure, Except.ok.injEq, Prod.mk.injEq] at h
  rw [← h.1]
  refine (?_ : LoadM.Returns _ (Built c lora p)) _ _ _ hload
  refine LoadM.returns_bind LoadM.returns_any fun embed _ => ?_
  refine LoadM.returns_bind (LoadM.returns_mapM _ fun i _ => Loader.layer_returns c p lora i)
    fun layers hlayers => ?_
  refine LoadM.returns_bind LoadM.returns_any fun norm _ => ?_
  -- the output head, tied or loaded, is not looked at
  split <;>
    exact LoadM.returns_bind LoadM.returns_any fun _ _ => LoadM.returns_pure ⟨rfl, rfl, hlayers⟩

theorem build_built (h : build c weights lora p seed = .ok m) : Built c lora p m := by
  unfold build at h
  simp only [bind, Except.bind] at h
  split at h
  · cases h
  rename_i r hr
  unfold checkAdapters at h
  split at h
  · cases h
  cases h
  exact assemble_built hr

theorem Built.layerShape (h : Built c lora p m) {l : DecoderLayer} {i : Nat}
    (hl : (l, i) ∈ m.layers.zipIdx) : Loader.LayerShape lora p i l := by
  obtain ⟨hi, hli⟩ := List.mem_zipIdx' hl
  rw [hli]
  have hall := List.forall₂_iff_get.1 h.layers_built
  simpa using hall.2 i (by rw [hall.1]; exact hi) hi

theorem Built.exists_layerShape (h : Built c lora p m) {l : DecoderLayer} (hl : l ∈ m.layers) :
    ∃ i, Loader.LayerShape lora p i l := by
  rw [← List.zipIdx_map_fst 0 m.layers, List.mem_map] at hl
  obtain ⟨⟨l', i⟩, hli, rfl⟩ := hl
  exact ⟨i, h.layerShape hli⟩

end CausalLM

/-! ## The layout of the adapter parameters -/

/-- The names and shapes of the adapter matrices of layer `i`, read off its frozen weights
`[out, in]`: for every projection whose module is a target, `lora_A : [rank, in]` then
`lora_B : [out, rank]`. -/
def DecoderLayer.adapterLayout (lora : LoRAConfig) (i : Nat) (l : DecoderLayer) :
    List (String × Shape) :=
  l.projections.flatMap fun (module, pr) =>
    if lora.targets (Loader.moduleName module) then
      let stem := parameterPrefix ++ "." ++ Loader.modulePath i module
      [(stem ++ ".lora_A.default.weight", [lora.rank, pr.weight.dim 1]),
       (stem ++ ".lora_B.default.weight", [pr.weight.dim 0, lora.rank])]
    else []

namespace Loader

variable {lora : LoRAConfig} {p : PrecisionConfig} {i : Nat}

/-- The named matrices a built projection contributes, by name and shape. -/
theorem ProjectionShape.layout {module : String} {pr : Projection}
    (h : ProjectionShape lora p (modulePath i module) pr) :
    (pr.adapter.toList.flatMap fun ad => [(ad.nameA, ad.a), (ad.nameB, ad.b)]).map
        (fun e => (e.1, e.2.shape)) =
      if lora.targets (moduleName module) then
        [(parameterPrefix ++ "." ++ modulePath i module ++ ".lora_A.default.weight",
            [lora.rank, pr.weight.dim 1]),
         (parameterPrefix ++ "." ++ modulePath i module ++ ".lora_B.default.weight",
            [pr.weight.dim 0, lora.rank])]
      else [] := by
  have hadapted := h.adapted
  rw [moduleName_modulePath] at hadapted
  cases hpr : pr.adapter with
  | none =>
    rw [hpr, Option.isSome_none] at hadapted
    rw [← hadapted, if_neg Bool.false_ne_true]
    rfl
  | some ad =>
    rw [hpr, Option.isSome_some] at hadapted
    have had := h.adapter ad hpr
    rw [← hadapted, if_pos rfl]
    simp [Adapter.nameA, Adapter.nameB, had.prefixName, had.shapeA, had.shapeB]

theorem LayerShape.layout {l : DecoderLayer} (h : LayerShape lora p i l) :
    (l.projections.flatMap fun mp =>
        mp.2.adapter.toList.flatMap fun ad => [(ad.nameA, ad.a), (ad.nameB, ad.b)]).map
      (fun e => (e.1, e.2.shape)) = l.adapterLayout lora i := by
  rw [List.map_flatMap]
  exact List.flatMap_congr fun mp hmp => (h mp hmp).layout

end Loader

namespace CausalLM

variable {c : ModelConfig} {lora : LoRAConfig} {p : PrecisionConfig} {m : CausalLM}

/-- The trainable parameters projection by projection, layer by layer. -/
theorem trainableParameters_eq (m : CausalLM) : m.trainableParameters =
    m.layers.flatMap fun l => l.projections.flatMap fun mp =>
      mp.2.adapter.toList.flatMap fun ad => [(ad.nameA, ad.a), (ad.nameB, ad.b)] := by
  simp only [trainableParameters, adapters, List.flatMap_assoc, List.filterMap_eq_flatMap_toList]

/-- The trainable parameters of a built model are, by name and shape, the adapter layout of
its layers. -/
theorem Built.trainable_layout (h : Built c lora p m) :
    m.trainableParameters.map (fun e => (e.1, e.2.shape)) =
      m.layers.zipIdx.flatMap fun (l, i) => l.adapterLayout lora i := by
  rw [trainableParameters_eq]
  conv_lhs => rw [← List.zipIdx_map_fst 0 m.layers, List.flatMap_map, List.map_flatMap]
  refine List.flatMap_congr fun li hli => ?_
  exact (h.layerShape hli).layout

theorem Built.trainable_names (h : Built c lora p m) :
    m.trainableParameters.map Prod.fst =
      (m.layers.zipIdx.flatMap fun (l, i) => l.adapterLayout lora i).map Prod.fst := by
  rw [← h.trainable_layout, List.map_map]
  rfl

end CausalLM

/-! ## Adapter names are distinct -/

/-- A list is split at the first occurrence of a marker: what stands before it and what
follows are determined. -/
theorem append_cons_cancel_of_notMem {α : Type} [DecidableEq α] {a : α} {x₁ x₂ z₁ z₂ : List α}
    (h₁ : a ∉ x₁) (h₂ : a ∉ x₂) (h : x₁ ++ a :: z₁ = x₂ ++ a :: z₂) : x₁ = x₂ ∧ z₁ = z₂ := by
  have hbefore : ∀ x z, a ∉ x → (x ++ a :: z).takeWhile (· != a) = x := by
    intro x z hx
    have hkeep : ∀ b ∈ x, (b != a) = true := by
      intro b hb
      rw [bne_iff_ne]
      rintro rfl
      exact hx hb
    rw [List.takeWhile_append_of_pos hkeep, List.takeWhile_cons_of_neg (by simp), List.append_nil]
  have hx : x₁ = x₂ := by rw [← hbefore x₁ z₁ h₁, h, hbefore x₂ z₂ h₂]
  subst hx
  exact ⟨rfl, (List.cons.inj (List.append_cancel_left h)).2⟩

/-- The modules of a layer's projections, in the layout's order. -/
def projectionModules : List String :=
  ["self_attn.q_proj", "self_attn.k_proj", "self_attn.v_proj", "self_attn.o_proj",
   "mlp.gate_proj", "mlp.up_proj", "mlp.down_proj"]

theorem DecoderLayer.map_fst_projections (l : DecoderLayer) :
    l.projections.map Prod.fst = projectionModules := rfl

/-- What follows a layer's part in the name of an adapter matrix: the module, then `lora_A`
or `lora_B`. -/
def adapterNameEnds : List String :=
  projectionModules.flatMap fun module =>
    [module ++ ".lora_A.default.weight", module ++ ".lora_B.default.weight"]

theorem adapterNameEnds_nodup : adapterNameEnds.Nodup := by decide

/-- The start of every parameter name of layer `i`, up to the dot before its module. -/
def layerPrefix (i : Nat) : String :=
  parameterPrefix ++ "." ++ "model.layers." ++ toString i ++ "."

/-- The layer number and the rest of a name are read back from it. -/
theorem layerPrefix_append_inj {i j : Nat} {s t : String}
    (h : layerPrefix i ++ s = layerPrefix j ++ t) : i = j ∧ s = t := by
  simp only [layerPrefix, String.append_assoc, String.append_right_inj] at h
  have hdot : ".".toList = ['.'] := by decide
  have hl := congrArg String.toList h
  simp only [String.toList_append, Json.toList_toString, hdot, List.singleton_append] at hl
  -- the layer number's digits hold no dot
  have hno : ∀ n : Nat, '.' ∉ Nat.toDigits 10 n := fun n hm => by
    simpa using Nat.isDigit_of_mem_toDigits (by decide) (by decide) hm
  obtain ⟨hd, hst⟩ := append_cons_cancel_of_notMem (hno i) (hno j) hl
  refine ⟨?_, String.toList_injective hst⟩
  rw [← Nat.ofDigitChars_toDigits (b := 10) (n := i) (by decide) (by decide), hd,
    Nat.ofDigitChars_toDigits (by decide) (by decide)]

theorem adapterLayout_names_sublist (lora : LoRAConfig) (i : Nat) (l : DecoderLayer) :
    List.Sublist ((l.adapterLayout lora i).map Prod.fst)
      (adapterNameEnds.map (layerPrefix i ++ ·)) := by
  unfold DecoderLayer.adapterLayout adapterNameEnds
  rw [List.map_flatMap, ← l.map_fst_projections, List.flatMap_map, List.map_flatMap]
  refine List.Sublist.flatMap_right _ fun mp _ => ?_
  obtain ⟨module, pr⟩ := mp
  dsimp only
  split
  · simp only [layerPrefix, Loader.modulePath_eq, String.append_assoc, List.map_cons, List.map_nil]
    exact List.Sublist.refl _
  · exact List.nil_sublist _

/-- Every adapter matrix of a model has its own name, whatever its layers hold. -/
theorem adapterLayout_names_nodup (lora : LoRAConfig) (ls : List DecoderLayer) :
    ((ls.zipIdx.flatMap fun (l, i) => l.adapterLayout lora i).map Prod.fst).Nodup := by
  rw [List.map_flatMap, List.nodup_flatMap]
  -- within a layer the names differ in their ends, between layers in their numbers
  have hinj : ∀ i, Function.Injective (layerPrefix i ++ ·) := fun i _ _ h =>
    (String.append_right_inj _).1 h
  refine ⟨fun li _ => ((adapterNameEnds_nodup.map (hinj li.2)).sublist
    (adapterLayout_names_sublist lora li.2 li.1)), ?_⟩
  have hlt : ls.zipIdx.Pairwise fun a b => a.2 < b.2 := by
    have hrange := List.pairwise_lt_range' (s := 0) (n := ls.length)
    rwa [← List.zipIdx_map_snd 0 ls, List.pairwise_map] at hrange
  refine hlt.imp fun {a b} hab x hxa hxb => ?_
  have hxa' : x ∈ (a.1.adapterLayout lora a.2).map Prod.fst := hxa
  have hxb' : x ∈ (b.1.adapterLayout lora b.2).map Prod.fst := hxb
  obtain ⟨s, -, rfl⟩ := List.mem_map.1 ((adapterLayout_names_sublist lora a.2 a.1).subset hxa')
  obtain ⟨t, -, ht⟩ := List.mem_map.1 ((adapterLayout_names_sublist lora b.2 b.1).subset hxb')
  exact Nat.ne_of_lt hab (layerPrefix_append_inj ht).1.symm

theorem CausalLM.Built.trainable_name {c : ModelConfig} {lora : LoRAConfig} {p : PrecisionConfig}
    {m : CausalLM} (h : CausalLM.Built c lora p m) {e : String × Tensor}
    (he : e ∈ m.trainableParameters) : ∃ i, ∃ s ∈ adapterNameEnds, e.1 = layerPrefix i ++ s := by
  have hmem : e.1 ∈ m.trainableParameters.map Prod.fst := List.mem_map_of_mem he
  rw [h.trainable_names, List.map_flatMap, List.mem_flatMap] at hmem
  obtain ⟨⟨l, i⟩, -, hname⟩ := hmem
  obtain ⟨s, hs, hs'⟩ := List.mem_map.1 ((adapterLayout_names_sublist lora i l).subset hname)
  exact ⟨i, s, hs, hs'.symm⟩

/-! ## Which names the adapter state selects -/

/-- A word that shares no letter with a nonempty middle part of a list is found on one side
of it. -/
theorem infix_either_side {α : Type} {w A D B : List α} (hw : w ≠ []) (hD : D ≠ [])
    (hdis : ∀ c ∈ w, c ∉ D) (h : w <:+: A ++ (D ++ B)) : w <:+: A ∨ w <:+: B := by
  -- a nonempty piece of the word that lies in the middle part shares a letter with it
  have hpiece : ∀ u, u ≠ [] → u ⊆ w → u ⊆ D → False := by
    intro u hu huw huD
    cases u with
    | nil => exact hu rfl
    | cons c _ => exact hdis c (huw List.mem_cons_self) (huD List.mem_cons_self)
  rcases List.infix_append_iff_ne_nil.1 h with hA | hDB | ⟨l₁, l₂, -, hl₂, rfl, -, hpre⟩
  · exact .inl hA
  · rcases List.infix_append_iff_ne_nil.1 hDB with hD' | hB | ⟨l₁, l₂, hl₁, -, rfl, hsuf, -⟩
    · exact (hpiece w hw (List.Subset.refl _) hD'.subset).elim
    · exact .inr hB
    · exact (hpiece l₁ hl₁ (List.subset_append_left _ _) hsuf.subset).elim
  · -- the part after the first side starts with the middle part's first letter
    obtain ⟨c, l₂, rfl⟩ := List.exists_cons_of_ne_nil hl₂
    obtain ⟨d, D, rfl⟩ := List.exists_cons_of_ne_nil hD
    rw [List.cons_append, List.cons_prefix_cons] at hpre
    rw [hpre.1] at hdis
    exact (hdis d (List.mem_append_right _ List.mem_cons_self) List.mem_cons_self).elim

/-- A word without a dot that lies in neither of two texts does not lie in the two joined,
when the second starts with a dot. -/
theorem not_infix_append_dot {w a b : List Char} (hw : w ≠ []) (hdot : '.' ∉ w)
    (ha : ¬ w <:+: a) (hb : ¬ w <:+: '.' :: b) : ¬ w <:+: a ++ '.' :: b := by
  intro h
  rcases infix_either_side (D := ['.']) hw (List.cons_ne_nil _ _)
    (fun c hc hcd => hdot (List.mem_singleton.1 hcd ▸ hc)) h with h | h
  · exact ha h
  · exact hb (h.trans (List.suffix_cons _ _).isInfix)

theorem isAdapterParameter_iff (n : String) :
    isAdapterParameter n = true ↔ "lora".toList <:+: n.toList.map Char.toLower := by
  simp [isAdapterParameter, String.toLower, String.toList_map]

theorem isAdapterParameter_eq_false_iff (n : String) :
    isAdapterParameter n = false ↔ ¬ "lora".toList <:+: n.toList.map Char.toLower := by
  rw [← isAdapterParameter_iff, Bool.not_eq_true]

theorem isAdapterParameter_append (s : String) {t : String} (h : isAdapterParameter t = true) :
    isAdapterParameter (s ++ t) = true := by
  rw [isAdapterParameter_iff, String.toList_append, List.map_append]
  exact List.infix_append_of_infix_right ((isAdapterParameter_iff t).1 h)

/-- Digits are not letters, so lowering them changes nothing. -/
theorem toLower_of_isDigit {c : Char} (h : c.isDigit = true) : c.toLower = c := by
  unfold Char.toLower
  rw [dif_neg]
  simp only [Char.isDigit, Bool.and_eq_true, decide_eq_true_eq] at h
  intro hup
  have h1 := hup.1
  have h2 := h.2
  simp only [UInt32.le_iff_toNat_le] at h1 h2
  -- uppercase letters come after the digits
  exact absurd (h1.trans h2) (by decide)

/-- A name of layer `i` whose end after the layer number holds no adapter word holds none: the
number's digits are not letters, so the word cannot run across them. -/
theorem isAdapterParameter_layer (i : Nat) {s : String} (hs : isAdapterParameter s = false) :
    isAdapterParameter (parameterPrefix ++ ("." ++ ("model.layers." ++ (toString i ++ s)))) =
      false := by
  have hdig : ∀ c ∈ Nat.toDigits 10 i, c.isDigit = true := fun c hc =>
    Nat.isDigit_of_mem_toDigits (by decide) (by decide) hc
  have hlow : (Nat.toDigits 10 i).map Char.toLower = Nat.toDigits 10 i :=
    (List.map_congr_left fun c hc => toLower_of_isDigit (hdig c hc)).trans (List.map_id' _)
  rw [Bool.eq_false_iff, ne_eq, isAdapterParameter_iff]
  intro h
  simp only [String.toList_append, List.map_append, Json.toList_toString, hlow] at h
  rw [← List.append_assoc, ← List.append_assoc] at h
  have hletters : ∀ c ∈ "lora".toList, c ∉ Nat.toDigits 10 i := by
    have hword : "lora".toList = ['l', 'o', 'r', 'a'] := by decide
    intro c hc hcd
    have hd := hdig c hcd
    rw [hword] at hc
    simp only [List.mem_cons, List.not_mem_nil, or_false] at hc
    rcases hc with rfl | rfl | rfl | rfl <;> exact absurd hd (by decide)
  rcases infix_either_side (by decide) Nat.toDigits_ne_nil hletters h with hA | hB
  · exact absurd hA (by decide)
  · exact (Bool.eq_false_iff.1 hs) ((isAdapterParameter_iff s).2 hB)

/-- The end of the name of a projection's own weight or bias, after the layer number, holds no
adapter word, whether or not the weight has moved under the base layer. -/
theorem isAdapterParameter_frozenEnd {l : DecoderLayer} {mp : String × Projection}
    (hmp : mp ∈ l.projections) (b : Bool) {kind : String} (hk : kind = ".weight" ∨ kind = ".bias") :
    isAdapterParameter ("." ++ (mp.1 ++ ((if b = true then ".base_layer" else "") ++ kind))) =
      false := by
  rw [isAdapterParameter_eq_false_iff]
  simp only [DecoderLayer.projections, List.mem_cons, List.not_mem_nil, or_false] at hmp
  -- the ending starts with a dot, which the word cannot cross: the module's name and the ending
  -- are checked apart
  obtain ⟨e, he, hne⟩ : ∃ e, ((if b = true then ".base_layer" else "") ++ kind).toList.map
      Char.toLower = '.' :: e ∧ ¬ "lora".toList <:+: '.' :: e := by
    rcases hk with rfl | rfl <;> cases b <;> exact ⟨_, rfl, by decide⟩
  rw [String.toList_append, String.toList_append, List.map_append, List.map_append, he,
    ← List.append_assoc]
  refine not_infix_append_dot (by decide) (by decide) ?_ hne
  rcases hmp with rfl | rfl | rfl | rfl | rfl | rfl | rfl <;> dsimp only <;> decide

namespace CausalLM

/-- The adapter state of any model is its trainable parameters: every frozen name lacks the
adapter word and every adapter name has it. -/
theorem adapterState_perm (m : CausalLM) : m.adapterState.Perm m.trainableParameters := by
  unfold adapterState namedParameters
  dsimp only
  refine ((List.mergeSort_perm _ _).filter _).trans ?_
  rw [List.filter_append, List.filter_eq_nil_iff.2 ?base, List.filter_eq_self.2 ?lora,
    List.nil_append]
  case lora =>
    intro a ha
    simp only [trainableParameters, List.mem_flatMap, List.mem_cons, List.not_mem_nil,
      or_false] at ha
    obtain ⟨ad, -, rfl | rfl⟩ := ha
    · exact isAdapterParameter_append _ ((isAdapterParameter_iff _).2 (by decide))
    · exact isAdapterParameter_append _ ((isAdapterParameter_iff _).2 (by decide))
  case base =>
    intro a ha
    rw [Bool.not_eq_true]
    simp only [List.mem_append, List.mem_cons, List.not_mem_nil, or_false, List.mem_flatMap,
      List.mem_map] at ha
    -- the embedding, the layers' parameters, the final norm and the output head
    rcases ha with ((rfl | ⟨⟨i, l⟩, -, ha⟩) | rfl) | ha
    · exact (isAdapterParameter_eq_false_iff
        (parameterPrefix ++ "." ++ "model.embed_tokens.weight")).2 (by decide)
    · simp only [String.append_assoc] at ha
      rcases ha with (rfl | rfl) | ⟨mp, hmp, rfl | ha⟩
      · exact isAdapterParameter_layer i ((isAdapterParameter_eq_false_iff _).2 (by decide))
      · exact isAdapterParameter_layer i ((isAdapterParameter_eq_false_iff _).2 (by decide))
      · exact isAdapterParameter_layer i (isAdapterParameter_frozenEnd hmp _ (.inl rfl))
      · split at ha
        · rw [List.mem_singleton] at ha
          subst ha
          exact isAdapterParameter_layer i (isAdapterParameter_frozenEnd hmp _ (.inr rfl))
        · cases ha
    · exact (isAdapterParameter_eq_false_iff (parameterPrefix ++ "." ++ "model.norm.weight")).2
        (by decide)
    · split at ha
      · rw [List.mem_singleton] at ha
        subst ha
        exact (isAdapterParameter_eq_false_iff (parameterPrefix ++ "." ++ "lm_head.weight")).2
          (by decide)
      · cases ha

theorem adapterState_sorted (m : CausalLM) : m.adapterState.Pairwise fun a b => a.1 ≤ b.1 := by
  unfold adapterState namedParameters
  refine (List.Pairwise.filter _ (List.pairwise_mergeSort ?trans ?total _)).imp of_decide_eq_true
  case trans =>
    exact fun _ _ _ hab hbc =>
      decide_eq_true (String.le_trans (of_decide_eq_true hab) (of_decide_eq_true hbc))
  case total =>
    exact fun a b => by simpa using String.le_total a.1 b.1

/-! ## Frozen weights -/

/-- A projection's own weight is among the named parameters, under `base_layer` when it has an
adapter. -/
theorem frozenWeight_mem_namedParameters {m : CausalLM} {l : DecoderLayer} {i : Nat}
    (hl : (l, i) ∈ m.layers.zipIdx) {mp : String × Projection} (hmp : mp ∈ l.projections) :
    (parameterPrefix ++ "." ++ Loader.modulePath i mp.1 ++
        (if mp.2.adapter.isSome then ".base_layer" else "") ++ ".weight", mp.2.weight) ∈
      m.namedParameters := by
  unfold namedParameters
  dsimp only
  rw [List.mem_mergeSort]
  simp only [List.mem_append, List.mem_flatMap, List.mem_map]
  refine .inl (.inl (.inl (.inr ⟨(i, l), ⟨(l, i), hl, rfl⟩, .inr ⟨mp, hmp, .inl ?_⟩⟩)))
  simp only [Loader.modulePath_eq, String.append_assoc, List.mem_singleton]

end CausalLM

end LowRankTuner
