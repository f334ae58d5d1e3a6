import Mathlib
import LowRankTuner.Proofs.PrettyRoundTrip
import LowRankTuner.Proofs.CheckpointRotation
/-!
# Trainer states read back from their checkpoint

A save writes the trainer state as indented JSON, and `loadState` reads it back: the text
is parsed (`LowRankTuner.Proofs.PrettyRoundTrip`), and the struct reader takes the fields of
the state and of each log entry from the objects, in the order they are written, checking
each value's type.

What comes back is not always the state saved.  Each number comes back as its own text
reads: a step as itself when it fits in 64 bits, a float as the float that its shortest
digits convert to, which the reader's two roundings do not always make the float written,
and a float that is not finite not at all, since it is written `null` and a float field
refuses `null`.  `TrainerState.readBack?` is the state rebuilt from those values, and the
main statement, `loadState_after_save`, is that loading a checkpoint that a save has just
written, when its clean-up has kept it, gives exactly that: the state rebuilt when every number
reads back, and a failure when one does not.
-/

namespace LowRankTuner

namespace Json

/-! ### Records written in their field order -/

section Records

variable {β : Type} {fields : List (String × (Json → Except String Unit))}

/-- A key finds its own entry in a list where no key is given twice. -/
theorem lookup_of_nodup : ∀ {l : List (String × β)}, (l.map (·.1)).Nodup →
    ∀ f ∈ l, l.lookup f.1 = some f.2
  | [], _, _, hf => absurd hf List.not_mem_nil
  | (k, b) :: l, hnd, f, hf => by
    rw [List.map_cons, List.nodup_cons] at hnd
    rcases List.mem_cons.1 hf with rfl | hf
    · exact List.lookup_cons_self
    · have hne : (f.1 == k) = false := by
        simp only [beq_eq_false_iff_ne]
        exact fun e => hnd.1 (List.mem_map.2 ⟨f, hf, e⟩)
      rw [List.lookup_cons, hne]
      exact lookup_of_nodup hnd.2 f hf

/-- The entries of the fields `fs`, each given once and after the entries `pre` already
found, are taken in turn: each value is checked, and its entry added. -/
theorem foldlM_recordEntry (hkeys : (fields.map (·.1)).Nodup) :
    ∀ (fs : List (String × (Json → Except String Unit))) (vs : List Json) (pre : List (String × Json)),
      (∀ f ∈ fs, f ∈ fields) → (pre.map (·.1) ++ fs.map (·.1)).Nodup → vs.length = fs.length →
      ((fs.map (·.1)).zip vs).foldlM (recordEntry fields) pre =
        (forM (fs.zip vs) fun p => p.1.2 p.2) >>= fun _ => pure (pre ++ (fs.map (·.1)).zip vs)
  | [], [], pre, _, _, _ => by simp
  | f :: fs, v :: vs, pre, hsub, hnd, hlen => by
    have hf := hsub f (List.mem_cons_self ..)
    rw [List.map_cons, List.nodup_append] at hnd
    -- the key is new: no entry found so far has it
    have hfresh : pre.any (·.1 == f.1) = false := by
      rw [List.any_eq_false]
      intro p hp hpf
      exact hnd.2.2 p.1 (List.mem_map_of_mem hp) f.1 (List.mem_cons_self ..) (by simpa using hpf)
    have hentry : recordEntry fields pre (f.1, v) = f.2 v >>= fun _ => pure (pre ++ [(f.1, v)]) := by
      simp only [recordEntry, lookup_of_nodup hkeys f hf, hfresh]
      rfl
    have hnd' : ((pre ++ [(f.1, v)]).map (·.1) ++ fs.map (·.1)).Nodup := by
      rw [List.map_append, List.map_singleton, List.append_assoc, List.singleton_append]
      exact List.nodup_append.2 hnd
    rw [List.map_cons, List.zip_cons_cons, List.foldlM_cons, hentry, bind_assoc, List.zip_cons_cons,
      List.forM_cons, bind_assoc]
    simp only [pure_bind]
    rw [foldlM_recordEntry hkeys fs vs _ (fun g hg => hsub g (List.mem_cons_of_mem _ hg)) hnd'
      (by simpa using hlen)]
    simp only [List.append_assoc, List.singleton_append]

/-- The fields read from the entries `found`, when each finds its value there. -/
theorem mapM_recordValue {found : List (String × Json)} :
    ∀ {fs : List (String × (Json → Except String Unit))} {vs : List Json},
      List.Forall₂ (fun f v => found.lookup f.1 = some v) fs vs → fs.mapM (recordValue found) = pure vs
  | _, _, .nil => rfl
  | f :: fs, v :: vs, .cons h hs => by
    have hf : recordValue found f = pure v := by simp only [recordValue, h]
    rw [List.mapM_cons, hf, mapM_recordValue hs]
    rfl

/-- In entries that are the fields' keys, each once, with the values `vs`, each field finds
its own value. -/
theorem forall₂_lookup_zip : ∀ {fs : List (String × β)} {vs : List Json}, (fs.map (·.1)).Nodup →
    vs.length = fs.length → List.Forall₂ (fun f v => ((fs.map (·.1)).zip vs).lookup f.1 = some v) fs vs
  | [], [], _, _ => .nil
  | f :: fs, v :: vs, hnd, hlen => by
    rw [List.map_cons, List.nodup_cons] at hnd
    have hne : ∀ g ∈ fs, g.1 ≠ f.1 := fun g hg e => hnd.1 (e ▸ List.mem_map_of_mem hg)
    refine .cons (by simp) (((List.forall₂_and_left _ _).2 ⟨hne, forall₂_lookup_zip hnd.2
      (by simpa using hlen)⟩).imp fun g w ⟨hg, h⟩ => ?_)
    rw [List.map_cons, List.zip_cons_cons, List.lookup_cons, beq_false_of_ne hg]
    exact h

/-- An object whose entries are a record's fields in their order, each once, reads as its
values: each is checked in turn, and the first that fails its check is the error. -/
theorem recordFields_in_order (name : String) (hkeys : (fields.map (·.1)).Nodup) {vs : List Json}
    (hlen : vs.length = fields.length) :
    recordFields name fields (.obj ((fields.map (·.1)).zip vs)) =
      (forM (fields.zip vs) fun p => p.1.2 p.2) >>= fun _ => pure vs := by
  rw [recordFields, foldlM_recordEntry hkeys fields vs [] (fun _ h => h) (by simpa using hkeys) hlen,
    bind_assoc]
  simp only [pure_bind, List.nil_append]
  rw [mapM_recordValue (forall₂_lookup_zip hkeys hlen)]

end Records

end Json

/-! ### The documents of a log entry and of a trainer state -/

/-- The struct reader takes a log entry's fields from its document as their typed readers do. -/
theorem LogEntry.ofJson_in_order (a b c d e : Json) :
    (LogEntry.ofJson (.obj [("step", a), ("epoch", b), ("loss", c), ("learning_rate", d),
      ("grad_norm", e)])).toOption =
      (do pure ⟨← a.toUsize.toOption, ← b.toF64.toOption, ← c.toF32.toOption, ← d.toF64.toOption,
        ← e.toF32.toOption⟩) := by
  have hkeys : (LogEntry.fields.map (·.1)).Nodup := by decide
  rw [LogEntry.ofJson, show [("step", a), ("epoch", b), ("loss", c), ("learning_rate", d),
    ("grad_norm", e)] = (LogEntry.fields.map (·.1)).zip [a, b, c, d, e] from rfl,
    Json.recordFields_in_order _ hkeys rfl]
  simp only [LogEntry.fields, List.zip_cons_cons, List.zip_nil_right, List.forM_cons, List.forM_nil,
    bind_assoc, pure_bind]
  -- each check is the reader that follows it, its value discarded
  cases a.toUsize <;> cases b.toF64 <;> cases c.toF32 <;> cases d.toF64 <;> cases e.toF32 <;> rfl

/-- The struct reader takes a trainer state's fields from its document as their typed readers
do. -/
theorem TrainerState.ofJson_in_order (a b c d e : Json) :
    (TrainerState.ofJson (.obj [("global_step", a), ("max_steps", b), ("epoch", c),
      ("timestamp", d), ("log_history", e)])).toOption =
      (do pure ⟨← a.toUsize.toOption, ← b.toUsize.toOption, ← c.toF64.toOption,
        ← (TrainerState.stampOfJson d).toOption, ← (LogEntry.listOfJson e).toOption⟩) := by
  have hkeys : (TrainerState.fields.map (·.1)).Nodup := by decide
  rw [TrainerState.ofJson, show [("global_step", a), ("max_steps", b), ("epoch", c),
    ("timestamp", d), ("log_history", e)] = (TrainerState.fields.map (·.1)).zip [a, b, c, d, e] from rfl,
    Json.recordFields_in_order _ hkeys rfl]
  simp only [TrainerState.fields, List.zip_cons_cons, List.zip_nil_right, List.forM_cons,
    List.forM_nil, bind_assoc, pure_bind]
  -- each check is the reader that follows it, its value discarded
  cases a.toUsize <;> cases b.toUsize <;> cases c.toF64 <;> cases TrainerState.stampOfJson d <;>
    cases LogEntry.listOfJson e <;> rfl

/-! ### What each number reads back as -/

/-- What the text of a step reads back as where a `usize` is expected. -/
def usizeBack? (n : Nat) : Option Nat :=
  (Json.readAlone? (.num (.nat n))).bind fun j => j.toUsize.toOption

/-- What the text of a float reads back as where a float is expected. -/
def floatBack? (x : Float) : Option Float :=
  (Json.readAlone? (.num (.float x))).bind fun j => j.toF64.toOption

/-- What the text of a 32-bit float reads back as where a 32-bit float is expected. -/
def float32Back? (x : Float32) : Option Float32 :=
  (Json.readAlone? (.num (.float32 x))).bind fun j => j.toF32.toOption

/-- A log entry with each of its numbers read back, when all of them are. -/
def LogEntry.readBack? (e : LogEntry) : Option LogEntry := do
  pure ⟨← usizeBack? e.step, ← floatBack? e.epoch, ← float32Back? e.loss,
    ← floatBack? e.learningRate, ← float32Back? e.gradNorm⟩

/-- A trainer state with each of its numbers read back, when all of them are. -/
def TrainerState.readBack? (s : TrainerState) : Option TrainerState := do
  pure ⟨← usizeBack? s.globalStep, ← usizeBack? s.maxSteps, ← floatBack? s.epoch, s.timestamp,
    ← s.logHistory.mapM LogEntry.readBack?⟩

/-- A step that fits in 64 bits reads back as itself. -/
theorem usizeBack?_of_le {n : Nat} (hn : n ≤ Json.u64Max) : usizeBack? n = some n := by
  rw [usizeBack?, (Json.readsInPlace_nat hn).readAlone]
  rfl

/-- A 32-bit float that is not finite is written `null`, which a 32-bit float field refuses. -/
theorem float32Back?_of_not_finite {x : Float32}
    (hx : ∀ neg m q, FloatClass.ofFloat32 x ≠ .finite neg m q) : float32Back? x = none := by
  have hnull : Json.readAlone? (.num (.float32 x)) = some .null := by
    rw [← Json.readsInPlace_null.readAlone]
    show (Json.parseBytesAsWritten (Json.numberText (.float32 x)).toUTF8).toOption = _
    rw [Json.numberText]
    split
    · next neg m q h => exact absurd h (hx neg m q)
    · rfl
  rw [float32Back?, hnull]
  rfl

/-- A log with an entry that does not read back does not read back. -/
theorem LogEntry.mapM_readBack?_of_mem {e : LogEntry} (h : e.readBack? = none) :
    ∀ {es : List LogEntry}, e ∈ es → es.mapM LogEntry.readBack? = none
  | a :: es, he => by
    rw [List.mapM_cons]
    rcases List.mem_cons.1 he with rfl | he
    · simp [h]
    · cases a.readBack? <;> simp [LogEntry.mapM_readBack?_of_mem h he]

/-- A state whose log holds a gradient norm that is not finite, as a clipping that overflowed
leaves, does not read back: the norm is written `null`, and a 32-bit float field refuses it. -/
theorem TrainerState.readBack?_of_gradNorm {s : TrainerState} {e : LogEntry}
    (he : e ∈ s.logHistory) (h : ∀ neg m q, FloatClass.ofFloat32 e.gradNorm ≠ .finite neg m q) :
    s.readBack? = none := by
  have hentry : e.readBack? = none := by
    simp [LogEntry.readBack?, float32Back?_of_not_finite h]
  simp [TrainerState.readBack?, LogEntry.mapM_readBack?_of_mem hentry he]

theorem Except.toOption_bind {ε α β : Type} (x : Except ε α) (f : α → Except ε β) :
    (x >>= f).toOption = x.toOption.bind fun a => (f a).toOption := by
  cases x <;> rfl

theorem Except.toOption_pure {ε α : Type} (a : α) : (pure a : Except ε α).toOption = some a := rfl

theorem Except.toOption_ok {ε α : Type} (a : α) : (Except.ok a : Except ε α).toOption = some a := rfl

theorem Except.toOption_mapError {ε ε' α : Type} (x : Except ε α) (f : ε → ε') :
    (x.mapError f).toOption = x.toOption := by
  cases x <;> rfl

/-- Read back from its document, a log entry is the entry with each number read back. -/
theorem LogEntry.readBack?_toJson (e : LogEntry) :
    (Json.readBack? e.toJson).bind (fun j => (LogEntry.ofJson j).toOption) = e.readBack? := by
  simp only [LogEntry.toJson, Json.readBack?, Json.readBackFields?, LogEntry.readBack?, usizeBack?,
    floatBack?, float32Back?, Json.ofNat, Json.ofFloat, Json.ofFloat32]
  -- the five numbers are read independently: the entry is read when each of them is
  generalize (Json.num (.nat e.step)).readAlone? = r₁
  generalize (Json.num (.float e.epoch)).readAlone? = r₂
  generalize (Json.num (.float32 e.loss)).readAlone? = r₃
  generalize (Json.num (.float e.learningRate)).readAlone? = r₄
  generalize (Json.num (.float32 e.gradNorm)).readAlone? = r₅
  cases r₁ <;> cases r₂ <;> cases r₃ <;> cases r₄ <;> cases r₅ <;> simp [LogEntry.ofJson_in_order]

/-- Read back from their documents, the entries of a log are the entries read back. -/
theorem LogEntry.readBackItems?_toJson :
    ∀ es : List LogEntry, (Json.readBackItems? (es.map LogEntry.toJson)).bind
      (fun items => (items.mapM LogEntry.ofJson).toOption) = es.mapM LogEntry.readBack?
  | [] => rfl
  | e :: es => by
    rw [List.mapM_cons, ← LogEntry.readBack?_toJson, ← LogEntry.readBackItems?_toJson es,
      List.map_cons, Json.readBackItems?]
    -- the first entry is read on its own, before the others
    cases Json.readBack? e.toJson with
    | none => rfl
    | some v =>
      simp only [Option.bind_some, Option.bind_map, Function.comp_def, List.mapM_cons,
        Except.toOption_bind, Except.toOption_pure]
      cases (LogEntry.ofJson v).toOption with
      | none => simp
      | some a => simp [Option.bind_assoc]

/-- Read back from its document, a trainer state with a plain timestamp is the state with
each number read back. -/
theorem TrainerState.readBack?_toJson (s : TrainerState)
    (hstamp : s.timestamp.toList.all Json.plainChar = true) :
    (Json.readBack? s.toJson).bind (fun j => (TrainerState.ofJson j).toOption) = s.readBack? := by
  have hstr : Json.readAlone? (.str s.timestamp) = some (.str s.timestamp) :=
    (Json.readsInPlace_str hstamp).readAlone
  simp only [TrainerState.toJson, Json.readBack?, Json.readBackFields?, TrainerState.readBack?,
    usizeBack?, floatBack?, Json.ofNat, Json.ofFloat, hstr, ← LogEntry.readBackItems?_toJson]
  -- the two steps, the epoch and the log are read independently
  generalize (Json.num (.nat s.globalStep)).readAlone? = r₁
  generalize (Json.num (.nat s.maxSteps)).readAlone? = r₂
  generalize (Json.num (.float s.epoch)).readAlone? = r₃
  generalize Json.readBackItems? (s.logHistory.map LogEntry.toJson) = r₄
  cases r₁ <;> cases r₂ <;> cases r₃ <;> cases r₄ <;>
    simp [TrainerState.ofJson_in_order, TrainerState.stampOfJson, Json.typed, Json.str?,
      LogEntry.listOfJson, Except.toOption_ok]

theorem LogEntry.printableIn_toJson (e : LogEntry) : Json.printableIn 1 e.toJson = true := rfl

/-- A trainer state's document nests three levels deep, and its only string is the
timestamp. -/
theorem TrainerState.printableIn_toJson (s : TrainerState)
    (hstamp : s.timestamp.toList.all Json.plainChar = true) : Json.printableIn 3 s.toJson = true := by
  have hlog : ∀ es : List LogEntry, Json.printableItemsIn 1 (es.map LogEntry.toJson) = true := by
    intro es
    induction es with
    | nil => rfl
    | cons e es ih =>
      simp only [List.map_cons, Json.printableItemsIn, LogEntry.printableIn_toJson, ih, Bool.and_self]
  simp only [TrainerState.toJson, Json.printableIn, Json.printableFieldsIn, hstamp, hlog]
  rfl

/-- The text a save writes for a trainer state reads back as the state with each number read
back: the state itself when every number is, and a failure when one is not. -/
theorem TrainerState.ofText_pretty (s : TrainerState)
    (hstamp : s.timestamp.toList.all Json.plainChar = true) :
    (TrainerState.ofText (Json.pretty 0 s.toJson)).toOption = s.readBack? := by
  have hparse := Json.parseBytesAsWritten_pretty (s.printableIn_toJson hstamp) (by decide)
  rw [TrainerState.ofText, Except.toOption_bind, Except.toOption_mapError, hparse]
  simp only [Except.toOption_mapError]
  exact s.readBack?_toJson hstamp

/-! ### Loading the checkpoint a save has written -/

/-- A file holding the bytes of a text reads as that text. -/
theorem Disk.readText_of_file {d : Disk} {p s : String}
    (h : d.entryAt (d.locate p) = some (.file s.toUTF8)) : d.readText p = .ok s := by
  simp only [Disk.readText, Disk.readBytes, Disk.entry?, h, bind, Except.bind, Json.fromUTF8?_toUTF8]

namespace CheckpointManager

open Disk

/-- Loading the checkpoint that a save has just written, when the save's clean-up has kept it,
gives the trainer state saved with each number read back: the state rebuilt when every number
reads back, and a failure when one does not. -/
theorem loadState_after_save {m : CheckpointManager} {model : CausalLM} {state : TrainerState}
    {d d' : Disk} {r : String × AdapterStats} (hwf : d.WellFormed)
    (hstamp : state.timestamp.toList.all Json.plainChar = true)
    (hsave : (m.save model state).run.run d = (.ok r, d'))
    (hkept : d'.entryAt (d'.locate r.1) = some .dir) :
    (loadState d' ⟨state.globalStep, r.1⟩).toOption = state.readBack? := by
  obtain ⟨hr, dw, hs, hfile, rfl⟩ := save_run hsave
  have hK := checkpointDir_dir hs
  obtain ⟨cs, hl, -, -, hmem⟩ := list_spec (hs.wf hwf) hK
  have hR := (cleanup_spec (hs.wf hwf) hK hl).1
  have hloc : (m.cleanup dw).locate = d.locate := (locate_eq_of_cwd hR.cwd).trans hs.locate_eq
  have hdir := locate_join_name (isName_checkpoint state.globalStep) d m.checkpointDir
  have hname := locate_join_name isName_checkpointFiles.2.2 d
    (Disk.join m.checkpointDir ("checkpoint-" ++ toString state.globalStep))
  rw [hloc, hr, hdir] at hkept
  rw [hname, hdir] at hfile
  -- the file lies inside the checkpoint's directory, which the clean-up kept as it was
  have hin : (m.cleanup dw).entryAt (d.locate m.checkpointDir ++
      ["checkpoint-" ++ toString state.globalStep] ++ [trainerStateFile]) =
      dw.entryAt (d.locate m.checkpointDir ++
        ["checkpoint-" ++ toString state.globalStep] ++ [trainerStateFile]) := by
    refine hR.entryAt_inside (n := "checkpoint-" ++ toString state.globalStep)
      (fun c hc => (hmem c).1 (List.mem_of_mem_take hc)) ?_ ?_
    · rw [hs.locate_eq]
      exact List.prefix_append _ _
    · rw [hs.locate_eq]
      exact hkept
  have hentry : (m.cleanup dw).entryAt ((m.cleanup dw).locate (Disk.join r.1 trainerStateFile)) =
      some (.file (Json.pretty 0 state.toJson).toUTF8) := by
    rw [hloc, hr, hname, hdir, hin, hfile]
  rw [loadState, Except.toOption_bind, Except.toOption_mapError, Disk.readText_of_file hentry,
    Except.toOption_ok, Option.bind_some]
  exact TrainerState.ofText_pretty state hstamp

/-- A save of step 5 beside a stale `checkpoint-100`, keeping every checkpoint, loads back. -/
theorem loadState_after_save_beside_stale_step :
    let m := CheckpointManager.new "" 0 none
    let d : Disk := ⟨[(["checkpoints"], .dir), (["checkpoints", "checkpoint-100"], .dir)], []⟩
    let config : ModelConfig :=
      { vocabSize := 3, hiddenSize := 1, intermediateSize := 1, numHiddenLayers := 0
        numAttentionHeads := 1 }
    let model : CausalLM := ⟨config, {}, PrecisionConfig.ofMode .fullSingle,
      Tensor.zeros .f32 [3, 1], [], ⟨Tensor.zeros .f32 [1], 1e-6⟩, none, []⟩
    let state : TrainerState := ⟨5, 100, 0.5, "1970-01-01T00:00:00Z", []⟩
    ∃ r d', d.WellFormed ∧ state.timestamp.toList.all Json.plainChar = true ∧
      (m.save model state).run.run d = (.ok r, d') ∧ d'.entryAt (d'.locate r.1) = some .dir ∧
      (loadState d' ⟨state.globalStep, r.1⟩).toOption = state.readBack? := by
  intro m d config model state
  have hwf : d.WellFormed := ⟨by decide⟩
  have hstamp : state.timestamp.toList.all Json.plainChar = true := by decide
  have hloc : d.locate (Disk.join m.checkpointDir ("checkpoint-" ++ toString state.globalStep)) =
      ["checkpoints", "checkpoint-5"] := by decide +kernel
  obtain ⟨r, d', h⟩ : ∃ r d', (m.save model state).run.run d = (.ok r, d') :=
    save_ok (fun k' _ b => entryAt_ne_file (by simp [d]) k' b) (fun f _ => by rw [hloc]; simp [d, entryAt])
  -- keeping every checkpoint, the clean-up changes nothing
  have hkept : d'.entryAt (d'.locate r.1) = some .dir := by
    obtain ⟨hr, dw, hs, -, rfl⟩ := save_run h
    have hid : m.cleanup dw = dw := by
      unfold CheckpointManager.cleanup
      split <;> simp [m, CheckpointManager.new]
    rw [hid, hs.locate_eq, hr]
    exact hs.dirs _ (List.prefix_refl _)
  exact ⟨r, d', hwf, hstamp, h, hkept, loadState_after_save hwf hstamp h hkept⟩

end CheckpointManager

end LowRankTuner
