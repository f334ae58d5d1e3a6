import LowRankTuner.Proofs.AdapterLayout
import LowRankTuner.Proofs.SafetensorsRoundTrip
import LowRankTuner.Proofs.CheckpointRotation
/-!
# Exporting the adapter state and reading it back

`exportAdapter` writes a model's adapter state as one safetensors file; `loadAdapter` reads
every tensor of a file back and `inspectAdapter` counts them from the header alone.  For a
built model the adapter state is describable by the file format (`CausalLM.Built.describable`):
its names are sorted and distinct, plain enough to stand in a JSON string, its tensors share
the adapter format, and each holds the bytes its shape asks for.  Within the format's limits
(a header under `headerLimit`, sizes in 64 bits) the written file therefore loads back as the
stored state (`loadAdapter_encode`) and inspects as the sizes the export reported
(`inspectAdapter_stored`).

`AdapterStateSpec` gathers what the adapter state of a built model is, and
`build_adapterStateSpec` proves it of every model that `CausalLM.build` returns.
-/

namespace LowRankTuner

/-! ## Stored tensors -/

namespace Tensor

@[simp] theorem shape_stored (t : Tensor) : t.stored.shape = t.shape := by
  unfold stored
  split <;> rfl

theorem size_stored_dtype (t : Tensor) : t.stored.dtype.size = t.dtype.byteSize := by
  unfold stored
  split <;> rename_i h <;> rw [h] <;> rfl

theorem size_bytes_stored (t : Tensor) : t.stored.bytes.size = t.data.size * t.dtype.byteSize := by
  unfold stored
  split <;> rename_i h <;>
    simp [ByteArray.size, List.length_flatMap, Safetensors.length_leBytes, h, DType.byteSize]

/-- Single and half data load as they are stored. -/
theorem loaded_stored (t : Tensor) : t.stored.loaded? = some t.stored := by
  unfold stored
  split <;> rfl

theorem dtype_stored_eq {t u : Tensor} (h : t.dtype = u.dtype) :
    t.stored.dtype = u.stored.dtype := by
  unfold stored
  rw [h]
  cases u.dtype <;> rfl

end Tensor

/-! ## The adapter state as a file describes it -/

/-- Every character of a layer's name prefix can stand in a JSON string as it is. -/
theorem plain_layerPrefix (i : Nat) : (layerPrefix i).toList.all Json.plainChar = true := by
  have hdigits : (Nat.toDigits 10 i).all Json.plainChar = true := by
    rw [List.all_eq_true]
    intro c hc
    have hd := Nat.isDigit_of_mem_toDigits (by decide) (by decide) hc
    simp only [Char.isDigit, Bool.and_eq_true, decide_eq_true_eq] at hd
    simp only [Json.plainChar, Bool.and_eq_true, decide_eq_true_eq, bne_iff_ne, ne_eq]
    -- digits lie between the quote and the backslash
    refine ⟨⟨⟨Nat.le_trans (by decide) hd.1, Nat.lt_of_le_of_lt hd.2 (by decide)⟩, ?_⟩, ?_⟩
    · rintro rfl
      exact absurd hd.1 (by decide)
    · rintro rfl
      exact absurd hd.2 (by decide)
  simp only [layerPrefix, String.toList_append, List.all_append, Json.toList_toString, hdigits,
    Bool.and_true]
  decide

theorem plain_adapterNameEnds : ∀ s ∈ adapterNameEnds, s.toList.all Json.plainChar = true := by
  -- each end is a module's name and one of two suffixes, checked apart
  have hmod : ∀ m ∈ projectionModules, m.toList.all Json.plainChar = true := by decide
  intro s hs
  obtain ⟨m, hm, hs⟩ := List.mem_flatMap.1 hs
  simp only [List.mem_cons, List.not_mem_nil, or_false] at hs
  rcases hs with rfl | rfl <;>
    rw [String.toList_append, List.all_append, hmod m hm, Bool.true_and] <;> decide

theorem layerPrefix_append_ne_metadata (i : Nat) (s : String) :
    layerPrefix i ++ s ≠ "__metadata__" := by
  intro h
  have hhead := congrArg (fun x : String => x.toList.head?) h
  have hpre : parameterPrefix.toList = 'b' :: "ase_model.model".toList := by decide
  simp only [layerPrefix, String.toList_append, hpre, List.cons_append, List.head?_cons] at hhead
  exact absurd hhead (by decide)

namespace CausalLM

variable {c : ModelConfig} {lora : LoRAConfig} {p : PrecisionConfig} {m : CausalLM}

/-- Every trainable matrix of a built model is in the adapter format, and holds as many
elements as its shape has whenever that number fits in 64 bits. -/
theorem Built.trainable_tensor (h : Built c lora p m) {e : String × Tensor}
    (he : e ∈ m.trainableParameters) :
    e.2.dtype = p.adapter ∧
      (e.2.shape.numel ≤ Safetensors.wordMax → e.2.data.size = e.2.shape.numel) := by
  rw [trainableParameters_eq] at he
  simp only [List.mem_flatMap, Option.mem_toList, List.mem_cons, List.not_mem_nil, or_false] at he
  obtain ⟨l, hl, mp, hmp, ad, had, rfl | rfl⟩ := he
  all_goals
    obtain ⟨i, hshape⟩ := h.exists_layerShape hl
    have hs := (hshape mp hmp).adapter ad had
  · -- `A` holds as many draws as the count taken modulo 2^64
    refine ⟨hs.dtypeA, fun hnumel => ?_⟩
    rw [hs.sizeA]
    rw [hs.shapeA] at hnumel ⊢
    simp only [Shape.numel, List.foldl_cons, List.foldl_nil, Nat.one_mul] at hnumel ⊢
    exact Nat.mod_eq_of_lt (Nat.lt_of_le_sub_one (Nat.two_pow_pos 64) hnumel)
  · exact ⟨hs.dtypeB, fun _ => by rw [hs.sizeB, hs.shapeB]⟩

theorem Built.describable (h : Built c lora p m)
    (hl : Safetensors.WithinLimits (m.adapterState.map fun (n, t) => (n, t.stored))) :
    Safetensors.Describable (m.adapterState.map fun (n, t) => (n, t.stored)) := by
  have hperm := adapterState_perm m
  have hnodup : (m.adapterState.map Prod.fst).Nodup := by
    rw [(hperm.map Prod.fst).nodup_iff, h.trainable_names]
    exact adapterLayout_names_nodup lora m.layers
  -- what the stored state holds, entry by entry
  have hentry : ∀ q ∈ m.adapterState.map (fun (n, t) => (n, t.stored)),
      ∃ e ∈ m.trainableParameters, q = (e.1, e.2.stored) := by
    intro q hq
    obtain ⟨e, he, rfl⟩ := List.mem_map.1 hq
    exact ⟨e, hperm.subset he, rfl⟩
  refine ⟨?sorted, ?plain, ?notMetadata, ?oneType, ?sizes⟩
  case sorted =>
    rw [List.pairwise_map]
    exact ((adapterState_sorted m).and (List.pairwise_map.1 hnodup)).imp fun h =>
      lt_of_le_of_ne h.1 h.2
  case plain =>
    intro q hq
    obtain ⟨e, he, rfl⟩ := hentry q hq
    obtain ⟨i, s, hs, hname⟩ := h.trainable_name he
    rw [hname, String.toList_append, List.all_append, plain_layerPrefix, plain_adapterNameEnds s hs]
    rfl
  case notMetadata =>
    intro q hq
    obtain ⟨e, he, rfl⟩ := hentry q hq
    obtain ⟨i, s, -, hname⟩ := h.trainable_name he
    rw [hname]
    exact layerPrefix_append_ne_metadata i s
  case oneType =>
    intro q hq r hr
    obtain ⟨e, he, rfl⟩ := hentry q hq
    obtain ⟨e', he', rfl⟩ := hentry r hr
    exact Tensor.dtype_stored_eq ((h.trainable_tensor he).1.trans (h.trainable_tensor he').1.symm)
  case sizes =>
    -- the format's limit on the whole shape makes the draw count exact
    intro q hq
    have hnumel := hl.prefixes q hq q.2.shape.length
    obtain ⟨e, he, rfl⟩ := hentry q hq
    dsimp only at hnumel ⊢
    rw [Tensor.shape_stored, List.take_length] at hnumel
    rw [Tensor.size_bytes_stored, Tensor.shape_stored, Tensor.size_stored_dtype,
      (h.trainable_tensor he).2 hnumel]

end CausalLM

/-! ## Reading an exported adapter back -/

/-- A `mapM` whose every step succeeds returns the steps' values. -/
theorem mapM_eq_ok_map {ε α β : Type} {f : α → Except ε β} {g : α → β} :
    ∀ {l : List α}, (∀ x ∈ l, f x = .ok (g x)) → l.mapM f = .ok (l.map g)
  | [], _ => rfl
  | x :: l, h => by
    rw [List.mapM_cons, h x List.mem_cons_self,
      mapM_eq_ok_map fun y hy => h y (List.mem_cons_of_mem x hy)]
    rfl

/-- After a successful write of named tensors the path reads back as the file written, and the
sizes reported are those of the tensors. -/
theorem saveAdapterState_readBytes {st : List (String × Tensor)} {path : String} {d d' : Disk}
    {stats : AdapterStats} (h : (saveAdapterState st path).run.run d = (.ok stats, d')) :
    stats = AdapterStats.ofState st ∧
      d'.readBytes path = .ok (Safetensors.encode (st.map fun (n, t) => (n, t.stored))) := by
  obtain ⟨hs, dm, -, hw⟩ := saveAdapterState_inv h
  obtain ⟨hch, hentry⟩ := Disk.writeBytes_changes hw
  refine ⟨hs, ?_⟩
  unfold Disk.readBytes Disk.entry?
  rw [hch.locate_eq, hentry]

theorem Safetensors.shapes_entriesFrom (start : Nat) (ts : List (String × Stored)) :
    (entriesFrom start ts).map (fun e => (e.shape, e.stop - e.start)) =
      ts.map fun q => (q.2.shape, q.2.bytes.size) := by
  induction ts generalizing start with
  | nil => rfl
  | cons q ts ih =>
    obtain ⟨name, s⟩ := q
    simp [entriesFrom, ih]

section ReadBack

variable {d : Disk} {path : String}

/-- Loading a file written for describable tensors within the format's limits gives back the
tensors, when each loads as it is stored. -/
theorem loadAdapter_encode {ts : List (String × Safetensors.Stored)}
    (hread : d.readBytes path = .ok (Safetensors.encode ts)) (hd : Safetensors.Describable ts)
    (hl : Safetensors.WithinLimits ts) (hload : ∀ q ∈ ts, q.2.loaded? = some q.2) :
    loadAdapter d path = .ok ts := by
  have hsorted : ts.Pairwise fun a b => decide (a.1 ≤ b.1) = true :=
    hd.sorted.imp fun h => decide_eq_true (Safetensors.le_of_lt_name h)
  unfold loadAdapter
  simp only [hread, Except.mapError, Safetensors.read_encode hd hl, bind, Except.bind]
  have hviews := Safetensors.views_read ts
  generalize (⟨{ entries := Safetensors.entriesFrom 0 ts }, Safetensors.concatBytes ts⟩ :
    Safetensors.SafetensorsFile) = file at hviews ⊢
  -- every entry's view is one of the tensors, which loads as it is
  rw [mapM_eq_ok_map (g := fun e => (e.name, file.view e)) ?steps, hviews]
  case steps =>
    intro e he
    have hq := List.mem_map_of_mem (f := fun e => (e.name, file.view e)) he
    rw [hviews] at hq
    rw [hload _ hq]
    rfl
  show Except.ok (ts.mergeSort fun a b => decide (a.1 ≤ b.1)) = _
  rw [List.mergeSort_of_pairwise hsorted]

/-- Inspecting a file written for describable tensors within the format's limits counts the
tensors, their elements and their bytes. -/
theorem inspectAdapter_encode {ts : List (String × Safetensors.Stored)}
    (hread : d.readBytes path = .ok (Safetensors.encode ts)) (hd : Safetensors.Describable ts)
    (hl : Safetensors.WithinLimits ts) :
    inspectAdapter d path = .ok (.ofCounts ts.length
      ((ts.map (Shape.numel ·.2.shape)).foldr (· + ·) 0)
      ((ts.map (·.2.bytes.size)).foldr (· + ·) 0)) := by
  have hfields := Safetensors.shapes_entriesFrom 0 ts
  have hlen : (Safetensors.entriesFrom 0 ts).length = ts.length := by
    simpa using congrArg List.length hfields
  have hshapes : (Safetensors.entriesFrom 0 ts).map (fun e => e.shape.numel) =
      ts.map (fun q => q.2.shape.numel) := by
    simpa [Function.comp_def] using congrArg (List.map fun x => Shape.numel x.1) hfields
  have hsizes : (Safetensors.entriesFrom 0 ts).map (fun e => e.stop - e.start) =
      ts.map (fun q => q.2.bytes.size) := by
    simpa [Function.comp_def] using congrArg (List.map Prod.snd) hfields
  unfold inspectAdapter
  simp only [hread, Except.mapError, Safetensors.read_encode hd hl, bind, Except.bind, pure,
    Except.pure]
  rw [hlen, hshapes, hsizes]

/-- A state of single and half tensors written within the format's limits inspects as the sizes
its writer reported. -/
theorem inspectAdapter_stored {st : List (String × Tensor)}
    (hread : d.readBytes path = .ok (Safetensors.encode (st.map fun (n, t) => (n, t.stored))))
    (hd : Safetensors.Describable (st.map fun (n, t) => (n, t.stored)))
    (hl : Safetensors.WithinLimits (st.map fun (n, t) => (n, t.stored))) :
    inspectAdapter d path = .ok (AdapterStats.ofState st) := by
  rw [inspectAdapter_encode hread hd hl]
  -- the stored bytes of a tensor are its elements times their width
  have hbytes : ∀ q ∈ st, q.2.stored.bytes.size = q.2.numel * q.2.dtype.byteSize := by
    intro q hq
    rw [hd.sizes _ (List.mem_map_of_mem hq), Tensor.shape_stored, Tensor.size_stored_dtype]
    rfl
  simp only [AdapterStats.ofState, List.length_map, List.map_map]
  congr 3
  · exact List.map_congr_left fun q _ => by simp [Tensor.numel]
  · exact List.map_congr_left fun q hq => hbytes q hq

end ReadBack

/-! ## The adapter state of a built model -/

/-- What the adapter state of a model built for `c` with adapter settings `lora` is. -/
structure AdapterStateSpec (c : ModelConfig) (lora : LoRAConfig) (m : CausalLM) : Prop where
  /-- The adapter state holds exactly the trainable parameters, name and tensor alike. -/
  perm : m.adapterState.Perm m.trainableParameters
  /-- No two trainable parameters share a name. -/
  names_nodup : (m.trainableParameters.map Prod.fst).Nodup
  layers_length : m.layers.length = c.numHiddenLayers
  /-- By name and shape, the trainable parameters are `lora_A : [rank, in]` and
  `lora_B : [out, rank]` for every targeted projection of every layer, in order. -/
  layout : m.trainableParameters.map (fun e => (e.1, e.2.shape)) =
    m.layers.zipIdx.flatMap fun (l, i) => l.adapterLayout lora i
  /-- Every projection's weight is a matrix, has an adapter exactly when its module is a
  target, and is named under `base_layer` exactly then. -/
  frozen : ∀ l i, (l, i) ∈ m.layers.zipIdx → ∀ mp ∈ l.projections,
    mp.2.weight.rank = 2 ∧ mp.2.adapter.isSome = lora.targets (Loader.moduleName mp.1) ∧
      (parameterPrefix ++ "." ++ Loader.modulePath i mp.1 ++
        (if lora.targets (Loader.moduleName mp.1) then ".base_layer" else "") ++ ".weight",
        mp.2.weight) ∈ m.namedParameters
  /-- Exported within the format's limits, the state loads back as it was stored and inspects
  as the sizes the export reported. -/
  round_trip : ∀ (path : String) (d d' : Disk) (stats : AdapterStats),
    Safetensors.WithinLimits (m.adapterState.map fun (n, t) => (n, t.stored)) →
    (exportAdapter m path).run.run d = (.ok stats, d') →
    loadAdapter d' path = .ok (m.adapterState.map fun (n, t) => (n, t.stored)) ∧
      inspectAdapter d' path = .ok stats

/-- Every model the builder returns has the adapter state `AdapterStateSpec` describes. -/
theorem build_adapterStateSpec {c : ModelConfig} {weights : WeightMap} {lora : LoRAConfig}
    {p : PrecisionConfig} {seed : UInt64} {m : CausalLM}
    (hb : CausalLM.build c weights lora p seed = .ok m) : AdapterStateSpec c lora m := by
  have h := CausalLM.build_built hb
  refine ⟨CausalLM.adapterState_perm m, ?_, ?_, h.trainable_layout, ?_, ?_⟩
  · rw [h.trainable_names]
    exact adapterLayout_names_nodup lora m.layers
  · simpa using h.layers_built.length_eq.symm
  · intro l i hl mp hmp
    have hpr := h.layerShape hl mp hmp
    have hadapted : mp.2.adapter.isSome = lora.targets (Loader.moduleName mp.1) := by
      rw [hpr.adapted, Loader.moduleName_modulePath]
    refine ⟨hpr.rank, hadapted, ?_⟩
    rw [← hadapted]
    exact CausalLM.frozenWeight_mem_namedParameters hl hmp
  · intro path d d' stats hl hexp
    obtain ⟨hstats, hread⟩ := saveAdapterState_readBytes hexp
    have hd := h.describable hl
    refine ⟨loadAdapter_encode hread hd hl fun q hq => ?_, ?_⟩
    · obtain ⟨e, -, rfl⟩ := List.mem_map.1 hq
      exact Tensor.loaded_stored e.2
    · rw [hstats]
      exact inspectAdapter_stored hread hd hl

/-- The pattern weights of the default configuration build with the default adapters, and the
model has the specified adapter state. -/
theorem build_adapterStateSpec_on_pattern_weights :
    let c : ModelConfig :=
      { vocabSize := 24, hiddenSize := 8, intermediateSize := 16, numHiddenLayers := 1,
        numAttentionHeads := 2, numKeyValueHeads := some 1, tieWordEmbeddings := true }
    ∃ m, CausalLM.build c (WeightMap.pattern c false) {} (PrecisionConfig.forProcessor false) 42 =
      .ok m ∧ AdapterStateSpec c {} m := by
  intro c
  have hok : (CausalLM.build c (WeightMap.pattern c false) {}
      (PrecisionConfig.forProcessor false) 42).isOk = true := by
    decide +kernel
  cases hb : CausalLM.build c (WeightMap.pattern c false) {} (PrecisionConfig.forProcessor false) 42
    with
  | error e =>
    rw [hb] at hok
    cases hok
  | ok m => exact ⟨m, rfl, build_adapterStateSpec hb⟩

end LowRankTuner
