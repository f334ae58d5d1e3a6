import LowRankTuner.Training.Checkpoint
import LowRankTuner.Proofs.DiskLaws
import LowRankTuner.Proofs.Outcomes
/-!
# Checkpoint rotation

Each save writes the checkpoint of its step under the checkpoint directory and then keeps only
the newest `maxCheckpoints` of the checkpoints that the directory lists.  On a well-formed disk:

* the listing is exactly the directories named `checkpoint-` and a step, sorted by step, one
  per path (`list_spec`);
* `cleanup` removes the oldest of them, those before the last `maxCheckpoints`, with everything
  under them, and touches no other location (`cleanup_spec`); with `maxCheckpoints = 0` it
  does nothing;
* a save changes only the checkpoint it writes and the directories above it, before the
  clean-up (`save_spec`).

The checkpoint a save has just written is therefore kept when fewer than `maxCheckpoints` other
checkpoints have a step at least its own, and removed at once when that many others have a
larger step: checkpoints left by an earlier run with larger steps push out the new one.
-/

namespace LowRankTuner

open Disk

/-! ## Checkpoint names -/

/-- The step a checkpoint directory's name carries: `checkpoint-` followed by a step. -/
def checkpointStep? (n : String) : Option Nat :=
  if n.startsWith "checkpoint-" then parseStep? (String.ofList (n.toList.drop 11)) else none

/-- `parseStep?` adds up decimal digits as `Nat.ofDigitChars` does. -/
theorem foldl_digits_eq (cs : List Char) :
    cs.foldl (fun acc c => 10 * acc + (c.toNat - 48)) 0 = Nat.ofDigitChars 10 cs 0 := rfl

/-- A step reads back from its decimal text exactly when it is below `2 ^ 64`. -/
theorem parseStep?_toString (s : Nat) :
    parseStep? (toString s) = if s < 2 ^ 64 then some s else none := by
  have hdig : ∀ c ∈ Nat.toDigits 10 s, c.isDigit := fun c hc =>
    Nat.isDigit_of_mem_toDigits (by decide) (by decide) hc
  obtain ⟨c, rest, hcr⟩ := List.exists_cons_of_ne_nil (Nat.toDigits_ne_nil : Nat.toDigits 10 s ≠ [])
  have hc : c ≠ '+' := by
    intro h
    have := hdig c (by simp [hcr])
    simp [h] at this
  unfold parseStep?
  simp only [Nat.toString_eq_repr, Nat.toList_repr, hcr]
  -- the text starts with a digit, so no plus sign is taken off
  split
  · rename_i r heq
    simp at heq
    exact absurd heq.1 hc
  · rw [← hcr, foldl_digits_eq, Nat.ofDigitChars_ten_toDigits]
    have hall : (Nat.toDigits 10 s).all Char.isDigit = true := by simpa using hdig
    simp [hall, Nat.toDigits_ne_nil]

/-- A text that reads as a step is digits after at most one plus sign. -/
theorem digits_of_parseStep? {t : String} {s : Nat} (h : parseStep? t = some s) :
    ∃ cs, (t.toList = cs ∨ t.toList = '+' :: cs) ∧ ∀ c ∈ cs, c.isDigit := by
  unfold parseStep? at h
  dsimp only at h
  split at h
  · rename_i rest heq
    refine ⟨rest, .inr heq, ?_⟩
    split at h
    · cases h
    · rename_i hok
      simp only [Bool.or_eq_true, Bool.not_eq_true', not_or, Bool.not_eq_false] at hok
      simpa using hok.2
  · refine ⟨t.toList, .inl rfl, ?_⟩
    split at h
    · cases h
    · rename_i hok
      simp only [Bool.or_eq_true, Bool.not_eq_true', not_or, Bool.not_eq_false] at hok
      simpa using hok.2

theorem slash_not_mem_of_parseStep? {t : String} {s : Nat} (h : parseStep? t = some s) :
    '/' ∉ t.toList := by
  obtain ⟨cs, ht, hdig⟩ := digits_of_parseStep? h
  have hslash : '/' ∉ cs := fun hm => by simpa using hdig '/' hm
  rcases ht with ht | ht <;> simp [ht, hslash]

/-- A name that starts with `checkpoint-` and holds no separator is a single component. -/
theorem isName_of_checkpoint_head {n : String} (hpre : "checkpoint-".toList <+: n.toList)
    (hslash : '/' ∉ n.toList) : IsName n := by
  refine ⟨?_, ?_, ?_, hslash⟩ <;> rintro rfl <;> simp at hpre

theorem isName_of_checkpointStep? {n : String} {s : Nat} (h : checkpointStep? n = some s) :
    IsName n := by
  unfold checkpointStep? at h
  split at h
  · rename_i hstart
    have hpre : "checkpoint-".toList <+: n.toList := String.startsWith_string_iff.1 hstart
    obtain ⟨t, ht⟩ := hpre
    have hdrop : n.toList.drop 11 = t := by rw [← ht]; simp
    rw [hdrop] at h
    have ht' := slash_not_mem_of_parseStep? h
    rw [String.toList_ofList] at ht'
    refine isName_of_checkpoint_head ⟨t, ht⟩ ?_
    rw [← ht]
    simpa using ht'
  · cases h

/-- The name a save gives the checkpoint of step `s` carries `s` when it is below `2 ^ 64`. -/
theorem checkpointStep?_name (s : Nat) :
    checkpointStep? ("checkpoint-" ++ toString s) = if s < 2 ^ 64 then some s else none := by
  have hdrop : ("checkpoint-" ++ toString s).toList.drop 11 = (toString s).toList := by
    simp [String.toList_append]
  unfold checkpointStep?
  rw [if_pos (String.startsWith_string_iff.2 ⟨(toString s).toList, by simp [String.toList_append]⟩),
    hdrop, String.ofList_toList, parseStep?_toString]

theorem isName_checkpoint (s : Nat) : IsName ("checkpoint-" ++ toString s) := by
  refine isName_of_checkpoint_head ⟨(toString s).toList, by simp [String.toList_append]⟩ ?_
  have hdig : '/' ∉ Nat.toDigits 10 s := fun hm => by
    simpa using Nat.isDigit_of_mem_toDigits (by decide) (by decide) hm
  simpa [String.toList_append] using hdig

/-- The files of a checkpoint are single names inside its directory. -/
theorem isName_checkpointFiles :
    IsName adapterWeightsFile ∧ IsName adapterConfigFile ∧ IsName trainerStateFile := by
  unfold IsName adapterWeightsFile adapterConfigFile trainerStateFile
  decide

/-! ## Listing -/

/-- The entry directly inside the location `K` that an entry of a disk is, by its name. -/
def childOf (K : List String) (e : List String × Entry) : Option (String × Entry) :=
  if e.1.length == K.length + 1 && e.1.take K.length == K then e.1.getLast?.map fun n => (n, e.2)
  else none

theorem childOf_eq_some {K : List String} {e : List String × Entry} {n : String} {v : Entry} :
    childOf K e = some (n, v) ↔ e = (K ++ [n], v) := by
  obtain ⟨k, v'⟩ := e
  constructor
  · intro h
    unfold childOf at h
    split at h
    · rename_i hc
      simp only [Bool.and_eq_true, beq_iff_eq] at hc
      obtain ⟨x, hx, hxe⟩ := Option.map_eq_some_iff.1 h
      simp only [Prod.mk.injEq] at hxe
      obtain ⟨rfl, rfl⟩ := hxe
      -- a location one longer than `K` that starts with `K` is `K` and its last name
      have hlen : (k.drop K.length).length = 1 := by simp; omega
      obtain ⟨y, hy⟩ := List.length_eq_one_iff.1 hlen
      have hk : k = K ++ [y] := by rw [← List.take_append_drop K.length k, hc.2, hy]
      rw [hk, List.getLast?_concat, Option.some.injEq] at hx
      rw [hk, hx]
    · cases h
  · intro h
    simp only [Prod.mk.injEq] at h
    obtain ⟨rfl, rfl⟩ := h
    simp [childOf]

theorem listDir_eq {d : Disk} {p : String} (h : d.entryAt (d.locate p) = some .dir) :
    d.listDir p =
      .ok ((d.entries.filterMap (childOf (d.locate p))).mergeSort fun a b => a.1 ≤ b.1) := by
  simp only [listDir, h]
  rfl

/-! ## Writing a checkpoint -/

/-- A successful write of named tensors first makes the directory above the path, unless the
path names none, and then writes the file. -/
theorem saveAdapterState_inv {st : List (String × Tensor)} {p : String} {d d' : Disk}
    {stats : AdapterStats} (h : (saveAdapterState st p).run.run d = (.ok stats, d')) :
    stats = AdapterStats.ofState st ∧
      ∃ dm, (dm = d ∨ ∃ q, Disk.parent p = some q ∧ q ≠ "" ∧ d.createDirAll q = .ok dm) ∧
        dm.writeBytes p (Safetensors.encode (st.map fun (n, t) => (n, t.stored))) = .ok d' := by
  -- what the write and the answer after the directory step leave
  have htail : ∀ dm, (DiskM.change (·.writeBytes p (Safetensors.encode
      (st.map fun (n, t) => (n, t.stored)))) writeFault >>= fun _ =>
        (pure (AdapterStats.ofState st) : DiskM AdapterStats)).run.run dm = (.ok stats, d') →
      stats = AdapterStats.ofState st ∧
        dm.writeBytes p (Safetensors.encode (st.map fun (n, t) => (n, t.stored))) = .ok d' := by
    intro dm hdm
    rw [DiskM.run_bind, DiskM.run_change] at hdm
    revert hdm
    cases dm.writeBytes p _ with
    | error e => intro hdm; cases hdm
    | ok dw =>
      intro hdm
      dsimp only at hdm
      rw [DiskM.run_pure] at hdm
      cases hdm
      exact ⟨rfl, rfl⟩
  unfold saveAdapterState at h
  dsimp only at h
  cases hpar : Disk.parent p with
  | none =>
    rw [hpar] at h
    obtain ⟨hs, hw⟩ := htail d h
    exact ⟨hs, d, .inl rfl, hw⟩
  | some q =>
    rw [hpar] at h
    dsimp only at h
    by_cases hq : q = ""
    · rw [if_neg (by simp [hq])] at h
      obtain ⟨hs, hw⟩ := htail d h
      exact ⟨hs, d, .inl rfl, hw⟩
    · rw [if_pos (by simpa using hq), DiskM.run_bind, DiskM.run_change] at h
      revert h
      cases hc : d.createDirAll q with
      | error e => intro h; cases h
      | ok dm =>
        intro h
        dsimp only at h
        obtain ⟨hs, hw⟩ := htail dm h
        exact ⟨hs, dm, .inr ⟨q, rfl, hq, hc⟩, hw⟩

/-- A location is not inside one of its own subdirectories. -/
theorem snoc_not_prefix_self (k : List String) (f : String) : ¬ k ++ [f] <+: k := fun h => by
  have := h.length_le
  rw [List.length_append, List.length_singleton] at this
  omega

/-- `dw` is `d` with a directory at every prefix of the location `k`, and differs from `d` only
at those prefixes and at or under `k`. -/
structure Saved (d dw : Disk) (k : List String) : Prop where
  cwd : dw.cwd = d.cwd
  dirs : ∀ k', k' <+: k → dw.entryAt k' = some .dir
  frame : ∀ k', ¬ k' <+: k → ¬ k <+: k' → dw.entryAt k' = d.entryAt k'
  wf : d.WellFormed → dw.WellFormed

namespace Saved

variable {d d₁ d₂ : Disk} {k : List String}

theorem of_createDirAll {p : String} (h : d.createDirAll p = .ok d₁) : Saved d d₁ (d.locate p) :=
  let h := createDirAll_inv h
  ⟨h.cwd, h.dirs, fun k' hk' _ => h.changes.entryAt k' hk', h.wf⟩

/-- A write strictly under `k` keeps the invariant. -/
theorem write {p : String} {b : ByteArray} (hs : Saved d d₁ k) (hw : d₁.writeBytes p b = .ok d₂)
    (hk : k <+: d₁.locate p) (hnk : ¬ d₁.locate p <+: k) : Saved d d₂ k := by
  obtain ⟨hch, -⟩ := writeBytes_changes hw
  refine ⟨hch.cwd.trans hs.cwd, fun k' hk' => ?_, fun k' h₁ h₂ => ?_,
    fun hwf => (hs.wf hwf).writeBytes hw⟩
  · rw [hch.entryAt k' (fun e => hnk (e ▸ hk')), hs.dirs k' hk']
  · rw [hch.entryAt k' (fun e => h₂ (e ▸ hk)), hs.frame k' h₁ h₂]

/-- Making the directories of `k` again changes nothing. -/
theorem createDirAll {q : String} (hs : Saved d d₁ k) (hc : d₁.createDirAll q = .ok d₂)
    (hq : d₁.locate q = k) : Saved d d₂ k := by
  have hm := createDirAll_inv hc
  have heq : ∀ k', d₂.entryAt k' = d₁.entryAt k' :=
    hm.entryAt_eq fun k' hk' _ => by rw [hs.dirs k' (hq ▸ hk')]; simp
  refine ⟨hm.cwd.trans hs.cwd, fun k' hk' => ?_, fun k' h₁ h₂ => ?_, fun hwf => hm.wf (hs.wf hwf)⟩
  · rw [heq, hs.dirs k' hk']
  · rw [heq, hs.frame k' h₁ h₂]

theorem locate_eq (hs : Saved d d₁ k) : d₁.locate = d.locate := locate_eq_of_cwd hs.cwd

/-- Writing a file named `f` in the directory `path` keeps the invariant at `path`. -/
theorem writeText {path f text : String} (hs : Saved d d₁ (d.locate path)) (hf : IsName f)
    (hw : d₁.writeText (Disk.join path f) text = .ok d₂) : Saved d d₂ (d.locate path) :=
  hs.write hw (by rw [hs.locate_eq, locate_join_name hf]; exact List.prefix_append _ _)
    (by rw [hs.locate_eq, locate_join_name hf]; exact snoc_not_prefix_self _ _)

/-- Writing the adapter weights as a file named `f` in the directory `path` keeps the invariant
at `path`: the directory step finds every directory there. -/
theorem saveAdapterState {path f : String} {st : List (String × Tensor)} {stats : AdapterStats}
    (hs : Saved d d₁ (d.locate path)) (hf : IsName f)
    (h : (LowRankTuner.saveAdapterState st (Disk.join path f)).run.run d₁ = (.ok stats, d₂)) :
    Saved d d₂ (d.locate path) := by
  obtain ⟨-, dm, hdm, hw⟩ := saveAdapterState_inv h
  have hsm : Saved d dm (d.locate path) := by
    rcases hdm with rfl | ⟨q, hq, hne, hc⟩
    · exact hs
    · refine hs.createDirAll hc ?_
      rw [hs.locate_eq]
      exact resolve_parent_join hf d.cwd hq hne
  exact hsm.write hw (by rw [hsm.locate_eq, locate_join_name hf]; exact List.prefix_append _ _)
    (by rw [hsm.locate_eq, locate_join_name hf]; exact snoc_not_prefix_self _ _)

end Saved

/-- `d` can take the files `fs` into the directory `path`: every prefix of its location is a
directory and none of the names in `fs` is one there. -/
structure Ready (d : Disk) (path : String) (fs : List String) : Prop where
  dirs : ∀ k', k' <+: d.locate path → d.entryAt k' = some .dir
  slots : ∀ f ∈ fs, d.entryAt (d.locate path ++ [f]) ≠ some .dir

namespace Ready

variable {d d' : Disk} {path : String} {fs : List String}

/-- A write makes no directory and, standing on none, removes none. -/
theorem writeBytes {p : String} {b : ByteArray} (hr : Ready d path fs)
    (hw : d.writeBytes p b = .ok d') : Ready d' path fs := by
  have hnd := writeBytes_not_dir hw
  obtain ⟨rfl, hne⟩ := writeBytes_inv hw
  refine ⟨fun k' hk' => ?_, fun f hf => ?_⟩
  · rw [entryAt_setEntry _ _ hne, if_neg (fun e => hnd (by rw [← e]; exact hr.dirs k' hk'))]
    exact hr.dirs k' hk'
  · rw [entryAt_setEntry _ _ hne]
    split
    · simp
    · exact hr.slots f hf

/-- Making the directories of `path` again succeeds and changes nothing. -/
theorem createDirAll {q : String} (hr : Ready d path fs) (hq : d.locate q = d.locate path) :
    ∃ d', d.createDirAll q = .ok d' ∧ Ready d' path fs := by
  obtain ⟨d', hc⟩ := createDirAll_ok fun k' hk' b => by
    rw [hr.dirs k' (hq ▸ hk')]
    simp
  have hm := createDirAll_inv hc
  have heq : ∀ k', d'.entryAt k' = d.entryAt k' :=
    hm.entryAt_eq fun k' hk' _ => by rw [hr.dirs k' (hq ▸ hk')]; simp
  have hloc : d'.locate = d.locate := locate_eq_of_cwd hm.cwd
  refine ⟨d', hc, fun k' hk' => ?_, fun f hf => ?_⟩
  · rw [heq, hr.dirs k' (hloc ▸ hk')]
  · rw [heq, hloc]
    exact hr.slots f hf

/-- The file named `f` of `fs` is written in `path`. -/
theorem writeText_ok {f : String} (hr : Ready d path fs) (hf : IsName f) (hmem : f ∈ fs)
    (text : String) : ∃ d', d.writeText (Disk.join path f) text = .ok d' ∧ Ready d' path fs :=
  have hw := writeBytes_join_name hf (hr.dirs _ (List.prefix_refl _)) (hr.slots f hmem)
  ⟨_, hw, hr.writeBytes hw⟩

/-- The adapter weights are written as the file named `f` of `fs` in `path`: the directory
step finds every directory there. -/
theorem saveAdapterState_ok {f : String} (hr : Ready d path fs) (hf : IsName f) (hmem : f ∈ fs)
    (st : List (String × Tensor)) : ∃ d', (LowRankTuner.saveAdapterState st (Disk.join path f)).run.run d =
      (.ok (AdapterStats.ofState st), d') ∧ Ready d' path fs := by
  -- the write and the answer, after whichever directory step
  have htail : ∀ d₁, Ready d₁ path fs → ∃ d', (DiskM.change (·.writeBytes (Disk.join path f)
      (Safetensors.encode (st.map fun (n, t) => (n, t.stored)))) writeFault >>= fun _ =>
        (pure (AdapterStats.ofState st) : DiskM AdapterStats)).run.run d₁ =
      (.ok (AdapterStats.ofState st), d') ∧ Ready d' path fs := by
    intro d₁ hr₁
    have hw : d₁.writeBytes (Disk.join path f) (Safetensors.encode (st.map fun (n, t) => (n, t.stored))) =
        .ok _ := writeBytes_join_name hf (hr₁.dirs _ (List.prefix_refl _)) (hr₁.slots f hmem)
    exact ⟨_, by rw [DiskM.run_change_bind_of_ok (f := fun x => x.writeBytes _ _) hw, DiskM.run_pure], hr₁.writeBytes hw⟩
  unfold LowRankTuner.saveAdapterState
  dsimp only
  obtain ⟨q, hq⟩ : ∃ q, Disk.parent (Disk.join path f) = some q := ⟨_, parent_join_name hf path⟩
  rw [hq]
  dsimp only
  by_cases hqe : q = ""
  · rw [if_neg (by simpa using hqe)]
    exact htail d hr
  · obtain ⟨d₁, hc, hr₁⟩ := hr.createDirAll (resolve_parent_join hf d.cwd hq hqe)
    rw [if_pos (by simpa using hqe), DiskM.run_change_bind_of_ok (f := fun x => x.createDirAll _) hc]
    exact htail d₁ hr₁

end Ready

namespace CheckpointManager

variable {m : CheckpointManager} {d : Disk}

/-- The checkpoint that an entry of the checkpoint directory is, if any. -/
def checkpointOf (m : CheckpointManager) (entry : String × Entry) : Option CheckpointInfo :=
  match entry.2 with
  | .dir => (checkpointStep? entry.1).map fun s => ⟨s, Disk.join m.checkpointDir entry.1⟩
  | .file _ => none

/-- A checkpoint of `m` on `d`: a directory directly inside the checkpoint directory, named
`checkpoint-` and the checkpoint's step, at the checkpoint's path. -/
def Listed (m : CheckpointManager) (d : Disk) (c : CheckpointInfo) : Prop :=
  ∃ n, checkpointStep? n = some c.step ∧ c.path = Disk.join m.checkpointDir n ∧
    d.entryAt (d.locate m.checkpointDir ++ [n]) = some .dir

theorem list_eq (hK : d.entryAt (d.locate m.checkpointDir) = some .dir) :
    m.list d = .ok ((((d.entries.filterMap (childOf (d.locate m.checkpointDir))).mergeSort
      fun a b => a.1 ≤ b.1).filterMap m.checkpointOf).mergeSort fun a b => a.step ≤ b.step) := by
  have hexists : d.exists? m.checkpointDir = true := by simp [exists?, entry?, hK]
  simp only [list, hexists, Bool.not_true, Bool.false_eq_true, if_false, listDir_eq hK,
    Except.mapError, bind, Except.bind, pure, Except.pure]
  -- the filter written inline in the listing is checkpointOf, entry by entry
  congr 3
  funext x
  obtain ⟨name, e⟩ := x
  cases e with
  | file _ => rfl
  | dir =>
    simp only [checkpointOf, checkpointStep?]
    split <;> rfl

theorem checkpointOf_eq_some {n : String} {v : Entry} {c : CheckpointInfo} :
    m.checkpointOf (n, v) = some c ↔
      v = .dir ∧ checkpointStep? n = some c.step ∧ c.path = Disk.join m.checkpointDir n := by
  obtain ⟨s, path⟩ := c
  cases v with
  | file _ => simp [checkpointOf]
  | dir =>
    simp only [checkpointOf, Option.map_eq_some_iff, CheckpointInfo.mk.injEq, true_and]
    constructor
    · rintro ⟨s', hs', rfl, rfl⟩
      exact ⟨hs', rfl⟩
    · rintro ⟨hs, rfl⟩
      exact ⟨s, hs, rfl, rfl⟩

/-- The checkpoint an entry of a disk stands for, as `list` reads it. -/
theorem checkpointOf_child_eq_some {K : List String} {e : List String × Entry}
    {c : CheckpointInfo} :
    (childOf K e).bind m.checkpointOf = some c ↔
      ∃ n, e = (K ++ [n], .dir) ∧ checkpointStep? n = some c.step ∧
        c.path = Disk.join m.checkpointDir n := by
  rw [Option.bind_eq_some_iff]
  constructor
  · rintro ⟨⟨n, v⟩, hchild, hof⟩
    obtain ⟨rfl, hs, hp⟩ := checkpointOf_eq_some.1 hof
    exact ⟨n, childOf_eq_some.1 hchild, hs, hp⟩
  · rintro ⟨n, rfl, hs, hp⟩
    exact ⟨(n, .dir), childOf_eq_some.2 rfl, checkpointOf_eq_some.2 ⟨rfl, hs, hp⟩⟩

/-- A listed checkpoint is the directory one level below the checkpoint directory under its
name, and its path locates that directory. -/
theorem Listed.locate_eq {c : CheckpointInfo} (h : m.Listed d c) :
    ∃ n, checkpointStep? n = some c.step ∧
      d.locate c.path = d.locate m.checkpointDir ++ [n] ∧
      d.entryAt (d.locate c.path) = some .dir := by
  obtain ⟨n, hs, hp, hdir⟩ := h
  have hloc : d.locate c.path = d.locate m.checkpointDir ++ [n] := by
    rw [hp, locate_join_name (isName_of_checkpointStep? hs)]
  exact ⟨n, hs, hloc, hloc ▸ hdir⟩

/-- Two listed checkpoints at one path are the same checkpoint. -/
theorem Listed.eq_of_path {c c' : CheckpointInfo} (h : m.Listed d c) (h' : m.Listed d c')
    (hp : c.path = c'.path) : c = c' := by
  obtain ⟨n, hs, hloc, -⟩ := h.locate_eq
  obtain ⟨n', hs', hloc', -⟩ := h'.locate_eq
  have hn : n = n' := by
    have := hloc.symm.trans (hp ▸ hloc')
    simpa using this
  subst hn
  obtain ⟨s, path⟩ := c
  obtain ⟨s', path'⟩ := c'
  simp only at hs hs' hp
  rw [hs] at hs'
  cases hs'
  cases hp
  rfl

/-- What `list` returns on a well-formed disk whose checkpoint directory exists: the listed
checkpoints, each once, sorted by step. -/
theorem list_spec (hwf : d.WellFormed) (hK : d.entryAt (d.locate m.checkpointDir) = some .dir) :
    ∃ cs, m.list d = .ok cs ∧ cs.Pairwise (fun a b => a.step ≤ b.step) ∧
      cs.Pairwise (fun a b => a.path ≠ b.path) ∧ ∀ c, c ∈ cs ↔ m.Listed d c := by
  refine ⟨_, list_eq hK, ?_, ?_, ?_⟩
  · -- `mergeSort` sorts by its comparison, which is transitive and total on steps
    have hsorted := @List.pairwise_mergeSort CheckpointInfo (fun a b => decide (a.step ≤ b.step))
      (fun a b c hab hbc => by simp only [decide_eq_true_eq] at hab hbc ⊢; omega)
      (fun a b => by simp only [Bool.or_eq_true, decide_eq_true_eq]; omega)
    simpa using hsorted _
  · have hperm : List.Perm ((((d.entries.filterMap (childOf (d.locate m.checkpointDir))).mergeSort
        fun a b => a.1 ≤ b.1).filterMap m.checkpointOf).mergeSort fun a b => a.step ≤ b.step)
        (d.entries.filterMap fun e => (childOf (d.locate m.checkpointDir) e).bind m.checkpointOf) := by
      refine (List.mergeSort_perm _ _).trans ?_
      rw [← List.filterMap_filterMap]
      exact ((List.mergeSort_perm _ _).filterMap _)
    refine (hperm.pairwise_iff (fun h e => h e.symm)).2 ?_
    have hkeys : d.entries.Pairwise (fun a b => a.1 ≠ b.1) := List.pairwise_map.1 hwf.keys
    refine hkeys.filterMap _ ?_
    intro a b hab c hc c' hc' hpath
    obtain ⟨n, rfl, hs, hp⟩ := checkpointOf_child_eq_some.1 hc
    obtain ⟨n', rfl, hs', hp'⟩ := checkpointOf_child_eq_some.1 hc'
    have hloc := congrArg d.locate hpath
    rw [hp, hp', locate_join_name (isName_of_checkpointStep? hs),
      locate_join_name (isName_of_checkpointStep? hs')] at hloc
    exact hab (by simpa using hloc)
  · intro c
    rw [List.mem_mergeSort, List.mem_filterMap]
    constructor
    · rintro ⟨⟨n, v⟩, hmem, hof⟩
      obtain ⟨rfl, hs, hp⟩ := checkpointOf_eq_some.1 hof
      rw [List.mem_mergeSort, List.mem_filterMap] at hmem
      obtain ⟨e, he, hchild⟩ := hmem
      have := childOf_eq_some.1 hchild
      subst this
      exact ⟨n, hs, hp, (hwf.entryAt_eq_some_iff (by simp) _).2 he⟩
    · rintro ⟨n, hs, hp, hdir⟩
      refine ⟨(n, .dir), ?_, checkpointOf_eq_some.2 ⟨rfl, hs, hp⟩⟩
      rw [List.mem_mergeSort, List.mem_filterMap]
      exact ⟨_, (hwf.entryAt_eq_some_iff (by simp) _).1 hdir, childOf_eq_some.2 rfl⟩

/-- Whether a checkpoint is listed depends only on the working directory and on the entry at
its path. -/
theorem Listed.congr {d' : Disk} {c : CheckpointInfo} (h : m.Listed d c) (hcwd : d'.cwd = d.cwd)
    (hent : d'.entryAt (d.locate c.path) = d.entryAt (d.locate c.path)) : m.Listed d' c := by
  obtain ⟨n, hs, hp, hdir⟩ := h
  have hloc : d.locate c.path = d.locate m.checkpointDir ++ [n] := by
    rw [hp, locate_join_name (isName_of_checkpointStep? hs)]
  refine ⟨n, hs, hp, ?_⟩
  rw [locate_eq_of_cwd hcwd, ← hloc, hent, hloc, hdir]

/-- The directories of two listed checkpoints with different paths are not inside each
other. -/
theorem Listed.not_prefix_of_ne {c c' : CheckpointInfo} (h : m.Listed d c) (h' : m.Listed d c')
    (hp : c.path ≠ c'.path) : ¬ d.locate c.path <+: d.locate c'.path := by
  intro hpre
  obtain ⟨n, hs, hpath, -⟩ := h
  obtain ⟨n', hs', hpath', -⟩ := h'
  rw [hpath, hpath', locate_join_name (isName_of_checkpointStep? hs),
    locate_join_name (isName_of_checkpointStep? hs')] at hpre
  have hn : n = n' := by simpa using hpre.eq_of_length (by simp)
  exact hp (by rw [hpath, hpath', hn])

/-- The step of `cleanup`: removing a checkpoint's directory, or keeping the disk when that
fails. -/
def removeStep (acc : Disk) (c : CheckpointInfo) : Disk :=
  (acc.removeDirAll c.path).toOption.getD acc

/-- How many checkpoints a clean-up removes from a listing of `n`: those beyond the newest
`maxCheckpoints`, and none when that is zero. -/
def excess (m : CheckpointManager) (n : Nat) : Nat :=
  if m.maxCheckpoints = 0 then 0 else n - m.maxCheckpoints

/-- `cleanup` removes the oldest `excess` checkpoints of the listing, one after another. -/
theorem cleanup_eq {cs : List CheckpointInfo} (hl : m.list d = .ok cs) :
    m.cleanup d = (cs.take (m.excess cs.length)).foldl removeStep d := by
  unfold cleanup excess
  rw [hl]
  dsimp only
  by_cases h0 : m.maxCheckpoints = 0
  · simp [h0]
  · by_cases hle : cs.length ≤ m.maxCheckpoints
    · have : cs.length - m.maxCheckpoints = 0 := by omega
      simp [h0, hle, this]
    · have hb : (m.maxCheckpoints == 0) = false := by simpa using h0
      have hd : decide (cs.length ≤ m.maxCheckpoints) = false := by simpa using hle
      simp only [h0, hb, hd, Bool.or_self, Bool.false_eq_true, if_false]
      rfl

/-- `d'` is `d` without the directories of the checkpoints `rm` and everything under them. -/
structure Removed (d d' : Disk) (rm : List CheckpointInfo) : Prop where
  cwd : d'.cwd = d.cwd
  wf : d.WellFormed → d'.WellFormed
  entryAt : ∀ k, d'.entryAt k =
    if k ≠ [] ∧ ∃ c ∈ rm, d.locate c.path <+: k then none else d.entryAt k

/-- Removing listed checkpoints with distinct paths one after another removes each of them
with everything under it, and nothing else: each removal finds its directory still there. -/
theorem foldl_removeStep {rm : List CheckpointInfo} (hrm : ∀ c ∈ rm, m.Listed d c)
    (hdist : rm.Pairwise (fun a b => a.path ≠ b.path)) : Removed d (rm.foldl removeStep d) rm := by
  induction rm generalizing d with
  | nil => exact ⟨rfl, id, fun k => by simp⟩
  | cons c rm ih =>
    obtain ⟨hc, hrest⟩ := List.forall_mem_cons.1 hrm
    obtain ⟨hne, hdist⟩ := List.pairwise_cons.1 hdist
    obtain ⟨-, -, -, hdir⟩ := hc.locate_eq
    have hstep : removeStep d c = d.prune (d.locate c.path) := by
      simp [removeStep, removeDirAll_eq hdir, Except.toOption]
    -- the other checkpoints are still listed once `c` is gone
    have hlisted : ∀ c' ∈ rm, m.Listed (d.prune (d.locate c.path)) c' := by
      intro c' hc'
      refine (hrest c' hc').congr rfl ?_
      rw [entryAt_prune, if_neg (fun h => hc.not_prefix_of_ne (hrest c' hc') (hne c' hc') h.2)]
    have hrec := ih hlisted hdist
    rw [List.foldl_cons, hstep]
    refine ⟨hrec.cwd, fun hwf => hrec.wf (hwf.prune _), fun k => ?_⟩
    rw [hrec.entryAt k, entryAt_prune, locate_eq_of_cwd (prune_cwd d _)]
    by_cases hk : k = []
    · simp [hk]
    · by_cases hck : d.locate c.path <+: k
      · simp [hk, hck]
      · simp [hk, hck]

/-- After removing some listed checkpoints, the listed checkpoints are the others. -/
theorem Removed.listed_iff {d' : Disk} {rm : List CheckpointInfo} (hR : Removed d d' rm)
    (hrm : ∀ c ∈ rm, m.Listed d c) (c : CheckpointInfo) : m.Listed d' c ↔ m.Listed d c ∧ c ∉ rm := by
  have hloc : d'.locate = d.locate := locate_eq_of_cwd hR.cwd
  constructor
  · rintro ⟨n, hs, hp, hdir⟩
    have hpath : d.locate c.path = d.locate m.checkpointDir ++ [n] := by
      rw [hp, locate_join_name (isName_of_checkpointStep? hs)]
    rw [hloc, hR.entryAt, ← hpath] at hdir
    split at hdir
    · cases hdir
    · rename_i hcond
      refine ⟨⟨n, hs, hp, hpath ▸ hdir⟩, fun hc => hcond ⟨?_, c, hc, List.prefix_refl _⟩⟩
      simp [hpath]
  · rintro ⟨hc, hnot⟩
    refine hc.congr hR.cwd ?_
    rw [hR.entryAt, if_neg]
    rintro ⟨-, c', hc', hpre⟩
    by_cases hp : c'.path = c.path
    · exact hnot (hc.eq_of_path (hrm c' hc') hp.symm ▸ hc')
    · exact (hrm c' hc').not_prefix_of_ne hc hp hpre

/-- Removing listed checkpoints keeps the contents of each checkpoint directory that stays:
every removed directory lies one level below the checkpoint directory, as a kept one does, so it
is not above anything inside a kept one. -/
theorem Removed.entryAt_inside {d' : Disk} {rm : List CheckpointInfo} (hR : Removed d d' rm)
    (hrm : ∀ c ∈ rm, m.Listed d c) {n : String} {k : List String}
    (hk : d.locate m.checkpointDir ++ [n] <+: k)
    (hkept : d'.entryAt (d.locate m.checkpointDir ++ [n]) = some .dir) : d'.entryAt k = d.entryAt k := by
  rw [hR.entryAt, if_neg]
  rintro ⟨-, c, hc, hck⟩
  obtain ⟨n', -, hloc, -⟩ := (hrm c hc).locate_eq
  have hpre : d.locate c.path <+: d.locate m.checkpointDir ++ [n] :=
    List.prefix_of_prefix_length_le hck hk (by simp [hloc])
  rw [hR.entryAt, if_pos ⟨by simp, c, hc, hpre⟩] at hkept
  cases hkept

/-- Checkpoints at distinct paths are distinct. -/
theorem nodup_of_paths {cs : List CheckpointInfo} (h : cs.Pairwise (fun a b => a.path ≠ b.path)) :
    cs.Nodup :=
  h.imp fun hab e => hab (congrArg CheckpointInfo.path e)

/-- What `cleanup` does on a well-formed disk whose checkpoint directory exists: it removes the
oldest `excess` checkpoints of the listing with everything under them, and afterwards the
directory lists exactly the rest. -/
theorem cleanup_spec (hwf : d.WellFormed) (hK : d.entryAt (d.locate m.checkpointDir) = some .dir)
    {cs : List CheckpointInfo} (hl : m.list d = .ok cs) :
    Removed d (m.cleanup d) (cs.take (m.excess cs.length)) ∧
      ∃ after, m.list (m.cleanup d) = .ok after ∧
        List.Perm after (cs.drop (m.excess cs.length)) := by
  obtain ⟨cs', hl', -, hdist, hmem⟩ := list_spec hwf hK
  rw [hl] at hl'
  cases hl'
  have hrm : ∀ c ∈ cs.take (m.excess cs.length), m.Listed d c :=
    fun c hc => (hmem c).1 (List.mem_of_mem_take hc)
  have hR := foldl_removeStep hrm (hdist.sublist (List.take_sublist _ _))
  rw [← cleanup_eq hl] at hR
  refine ⟨hR, ?_⟩
  -- the checkpoint directory itself stays, as every removed directory lies one level below it
  have hK' : (m.cleanup d).entryAt ((m.cleanup d).locate m.checkpointDir) = some .dir := by
    rw [locate_eq_of_cwd hR.cwd, hR.entryAt, if_neg, hK]
    rintro ⟨-, c, hc, hpre⟩
    obtain ⟨n, -, hloc, -⟩ := (hrm c hc).locate_eq
    have := hpre.length_le
    rw [hloc, List.length_append, List.length_singleton] at this
    omega
  obtain ⟨after, hla, -, hdista, hmema⟩ := list_spec (hR.wf hwf) hK'
  refine ⟨after, hla, (List.perm_ext_iff_of_nodup ?_ ?_).2 fun c => ?_⟩
  · exact nodup_of_paths hdista
  · exact (nodup_of_paths hdist).sublist (List.drop_sublist _ _)
  · have hnd : cs.Nodup := nodup_of_paths hdist
    rw [hmema, hR.listed_iff hrm, ← hmem]
    -- a checkpoint of the listing is in exactly one of its two parts
    have hsplit := List.take_append_drop (m.excess cs.length) cs
    have hdisj := (List.nodup_append.1 (hsplit ▸ hnd)).2.2
    constructor
    · rintro ⟨hc, hnot⟩
      rw [← hsplit] at hc
      rcases List.mem_append.1 hc with h | h
      · exact absurd h hnot
      · exact h
    · intro hc
      exact ⟨List.mem_of_mem_drop hc, fun ht => hdisj c ht c hc rfl⟩

/-- A save that returns has written its checkpoint's directory and files, the trainer state's
text last, which makes the directories above it and changes nothing outside them, and has then
cleaned up. -/
theorem save_run {model : CausalLM} {state : TrainerState} {d' : Disk} {r : String × AdapterStats}
    (h : (m.save model state).run.run d = (.ok r, d')) :
    r.1 = Disk.join m.checkpointDir ("checkpoint-" ++ toString state.globalStep) ∧
      ∃ dw, Saved d dw (d.locate (Disk.join m.checkpointDir ("checkpoint-" ++ toString state.globalStep))) ∧
        dw.entryAt (d.locate (Disk.join (Disk.join m.checkpointDir
          ("checkpoint-" ++ toString state.globalStep)) trainerStateFile)) =
          some (.file (Json.pretty 0 state.toJson).toUTF8) ∧
        d' = m.cleanup dw := by
  unfold CheckpointManager.save at h
  obtain ⟨d₁, hc, h⟩ := DiskM.run_change_bind_ok h
  obtain ⟨stats, d₂, hsave, h⟩ := DiskM.run_bind_ok h
  have hs₂ := (Saved.of_createDirAll hc).saveAdapterState isName_checkpointFiles.1 hsave
  -- the trainer state, then the clean-up; `hs` is the invariant on the disk before them
  have htail : ∀ d₃, Saved d d₃ (d.locate
      (Disk.join m.checkpointDir ("checkpoint-" ++ toString state.globalStep))) →
      (DiskM.change (·.writeText (Disk.join (Disk.join m.checkpointDir
        ("checkpoint-" ++ toString state.globalStep)) trainerStateFile) (Json.pretty 0 state.toJson))
        Failure.io >>= fun _ => modify m.cleanup >>= fun _ =>
          (pure (Disk.join m.checkpointDir ("checkpoint-" ++ toString state.globalStep), stats) :
            DiskM (String × AdapterStats))).run.run d₃ = (.ok r, d') →
      r.1 = Disk.join m.checkpointDir ("checkpoint-" ++ toString state.globalStep) ∧
        ∃ dw, Saved d dw (d.locate (Disk.join m.checkpointDir
          ("checkpoint-" ++ toString state.globalStep))) ∧
          dw.entryAt (d.locate (Disk.join (Disk.join m.checkpointDir
            ("checkpoint-" ++ toString state.globalStep)) trainerStateFile)) =
            some (.file (Json.pretty 0 state.toJson).toUTF8) ∧
          d' = m.cleanup dw := by
    intro d₃ hs₃ h
    obtain ⟨d₄, hw, h⟩ := DiskM.run_change_bind_ok h
    rw [DiskM.run_bind, DiskM.run_modify] at h
    dsimp only at h
    rw [DiskM.run_pure] at h
    cases h
    have hfile := (writeBytes_changes hw).2
    rw [hs₃.locate_eq] at hfile
    exact ⟨rfl, d₄, hs₃.writeText isName_checkpointFiles.2.2 hw, hfile, rfl⟩
  cases hcfg : m.adapterConfig with
  | none =>
    rw [hcfg] at h
    exact htail d₂ hs₂ h
  | some c =>
    rw [hcfg] at h
    obtain ⟨d₃, hw, h⟩ := DiskM.run_change_bind_ok h
    exact htail d₃ (hs₂.writeText isName_checkpointFiles.2.1 hw) h

/-- A save that returns has written its checkpoint's directory and files, which makes the
directories above it and changes nothing outside them, and has then cleaned up. -/
theorem save_inv {model : CausalLM} {state : TrainerState} {d' : Disk} {r : String × AdapterStats}
    (h : (m.save model state).run.run d = (.ok r, d')) :
    r.1 = Disk.join m.checkpointDir ("checkpoint-" ++ toString state.globalStep) ∧
      ∃ dw, Saved d dw (d.locate (Disk.join m.checkpointDir ("checkpoint-" ++ toString state.globalStep))) ∧
        d' = m.cleanup dw := by
  obtain ⟨hr, dw, hs, -, hd⟩ := save_run h
  exact ⟨hr, dw, hs, hd⟩

/-- A save succeeds on every disk where no prefix of its checkpoint's location is a file and
none of the checkpoint's files is a directory there; what the clean-up meets cannot make it
fail. -/
theorem save_ok {model : CausalLM} {state : TrainerState}
    (hfree : ∀ k', k' <+: d.locate (Disk.join m.checkpointDir
      ("checkpoint-" ++ toString state.globalStep)) → ∀ b, d.entryAt k' ≠ some (.file b))
    (hslots : ∀ f ∈ [adapterWeightsFile, adapterConfigFile, trainerStateFile],
      d.entryAt (d.locate (Disk.join m.checkpointDir ("checkpoint-" ++ toString state.globalStep)) ++
        [f]) ≠ some .dir) :
    ∃ r d', (m.save model state).run.run d = (.ok r, d') := by
  obtain ⟨d₁, hc⟩ := createDirAll_ok hfree
  have hm := createDirAll_inv hc
  have hloc : d₁.locate = d.locate := locate_eq_of_cwd hm.cwd
  have hr₁ : Ready d₁ (Disk.join m.checkpointDir ("checkpoint-" ++ toString state.globalStep))
      [adapterWeightsFile, adapterConfigFile, trainerStateFile] := by
    refine ⟨fun k' hk' => hm.dirs k' (hloc ▸ hk'), fun f hf => ?_⟩
    rw [hm.entryAt, hloc, if_neg (fun h => snoc_not_prefix_self _ _ h.2.1)]
    exact hslots f hf
  obtain ⟨d₂, h₂, hr₂⟩ :=
    hr₁.saveAdapterState_ok isName_checkpointFiles.1 (by simp) model.adapterState
  -- the trainer state, then the clean-up, which cannot fail
  have htail : ∀ d₃, Ready d₃ (Disk.join m.checkpointDir ("checkpoint-" ++ toString state.globalStep))
      [adapterWeightsFile, adapterConfigFile, trainerStateFile] → ∃ r d',
      (DiskM.change (·.writeText (Disk.join (Disk.join m.checkpointDir
        ("checkpoint-" ++ toString state.globalStep)) trainerStateFile) (Json.pretty 0 state.toJson))
        Failure.io >>= fun _ => modify m.cleanup >>= fun _ =>
          (pure (Disk.join m.checkpointDir ("checkpoint-" ++ toString state.globalStep),
            AdapterStats.ofState model.adapterState) :
            DiskM (String × AdapterStats))).run.run d₃ = (.ok r, d') := by
    intro d₃ hr₃
    obtain ⟨d₄, hw, -⟩ :=
      hr₃.writeText_ok isName_checkpointFiles.2.2 (by simp) (Json.pretty 0 state.toJson)
    exact ⟨_, _, by rw [DiskM.run_change_bind_of_ok (f := fun x => x.writeText _ _) hw, DiskM.run_bind, DiskM.run_modify]; rfl⟩
  unfold CheckpointManager.save
  rw [DiskM.run_change_bind_of_ok (f := fun x => x.createDirAll _) hc, DiskM.run_bind_of_ok h₂]
  cases hcfg : m.adapterConfig with
  | none => exact htail d₂ hr₂
  | some c =>
    dsimp only
    obtain ⟨d₃, hw, hr₃⟩ :=
      hr₂.writeText_ok isName_checkpointFiles.2.1 (by simp) (Json.pretty 0 c.toJson)
    rw [DiskM.run_change_bind_of_ok (f := fun x => x.writeText _ _) hw]
    exact htail d₃ hr₃

/-! ## The rotation of a save -/

/-- In a listing sorted by step, each of the first `j` checkpoints has a step at most that of
each later one. -/
theorem step_le_of_take_drop {cs : List CheckpointInfo}
    (hsort : cs.Pairwise (fun a b => a.step ≤ b.step)) {j : Nat} {a b : CheckpointInfo}
    (ha : a ∈ cs.take j) (hb : b ∈ cs.drop j) : a.step ≤ b.step := by
  rw [← List.take_append_drop j cs] at hsort
  exact (List.pairwise_append.1 hsort).2.2 a ha b hb

/-- A checkpoint of a sorted listing stays among its last ones when fewer of them than that
are other checkpoints with a step at least its own. -/
theorem mem_drop_of_countP_lt {cs : List CheckpointInfo}
    (hsort : cs.Pairwise (fun a b => a.step ≤ b.step))
    (hdist : cs.Pairwise (fun a b => a.path ≠ b.path)) {w : CheckpointInfo} (hw : w ∈ cs)
    {j : Nat} (hcount : (cs.countP fun c => c.path != w.path && decide (w.step ≤ c.step)) <
      (cs.drop j).length) : w ∈ cs.drop j := by
  have hsplit := List.take_append_drop j cs
  rw [← hsplit] at hw
  rcases List.mem_append.1 hw with hwt | hwd
  · -- otherwise every later checkpoint is another one with a step at least `w`'s
    have hall : ∀ b ∈ cs.drop j, (b.path != w.path && decide (w.step ≤ b.step)) = true := by
      intro b hb
      have hne : w.path ≠ b.path := by
        rw [← hsplit] at hdist
        exact (List.pairwise_append.1 hdist).2.2 w hwt b hb
      simp [Ne.symm hne, step_le_of_take_drop hsort hwt hb]
    have hle : (cs.drop j).length ≤ cs.countP fun c => c.path != w.path && decide (w.step ≤ c.step) :=
      calc (cs.drop j).length
          = (cs.drop j).countP fun c => c.path != w.path && decide (w.step ≤ c.step) :=
            (List.countP_eq_length.2 hall).symm
        _ ≤ cs.countP fun c => c.path != w.path && decide (w.step ≤ c.step) :=
            (List.drop_sublist j cs).countP_le
    omega
  · exact hwd

/-- Among the last checkpoints of a sorted listing, one is outnumbered there by none: fewer
checkpoints than the last ones have a larger step. -/
theorem countP_lt_of_mem_drop {cs : List CheckpointInfo}
    (hsort : cs.Pairwise (fun a b => a.step ≤ b.step)) {w : CheckpointInfo} {j : Nat}
    (hw : w ∈ cs.drop j) : (cs.countP fun c => decide (w.step < c.step)) < (cs.drop j).length := by
  have htake : (cs.take j).countP (fun c => decide (w.step < c.step)) = 0 := by
    rw [List.countP_eq_zero]
    intro a ha
    have := step_le_of_take_drop hsort ha hw
    simp only [decide_eq_true_eq]
    omega
  have hdrop : (cs.drop j).countP (fun c => decide (w.step < c.step)) < (cs.drop j).length := by
    -- `w` itself does not have a larger step than its own
    rw [List.countP_eq_length_filter]
    exact List.length_filter_lt_length_iff_exists.2 ⟨w, hw, by simp⟩
  calc cs.countP (fun c => decide (w.step < c.step))
      = (cs.take j).countP (fun c => decide (w.step < c.step)) +
          (cs.drop j).countP (fun c => decide (w.step < c.step)) := by
        rw [← List.countP_append, List.take_append_drop]
    _ < (cs.drop j).length := by omega

/-- Just after the writes of a save, the checkpoint directory is a directory. -/
theorem checkpointDir_dir {dw : Disk} {s : Nat}
    (hs : Saved d dw (d.locate (Disk.join m.checkpointDir ("checkpoint-" ++ toString s)))) :
    dw.entryAt (dw.locate m.checkpointDir) = some .dir := by
  rw [hs.locate_eq]
  exact hs.dirs _ (locate_join_name (isName_checkpoint s) d m.checkpointDir ▸ List.prefix_append _ _)

/-- Just after the writes of a save, the checkpoint directory lists the new checkpoint, when its
step reads back, and the earlier checkpoints at other paths. -/
theorem listed_after_write {dw : Disk} {s : Nat}
    (hs : Saved d dw (d.locate (Disk.join m.checkpointDir ("checkpoint-" ++ toString s))))
    (c : CheckpointInfo) :
    m.Listed dw c ↔
      (c = ⟨s, Disk.join m.checkpointDir ("checkpoint-" ++ toString s)⟩ ∧ s < 2 ^ 64) ∨
        (m.Listed d c ∧ c.path ≠ Disk.join m.checkpointDir ("checkpoint-" ++ toString s)) := by
  have hKp := locate_join_name (isName_checkpoint s) d m.checkpointDir
  have hloc : dw.locate = d.locate := hs.locate_eq
  -- a location one level below the checkpoint directory other than the new checkpoint's is
  -- neither above nor below it, so the writes left it alone
  have hother : ∀ n, n ≠ "checkpoint-" ++ toString s →
      dw.entryAt (d.locate m.checkpointDir ++ [n]) = d.entryAt (d.locate m.checkpointDir ++ [n]) := by
    intro n hn
    apply hs.frame
    · rw [hKp]
      intro h
      exact hn (by simpa using h.eq_of_length (by simp))
    · rw [hKp]
      intro h
      exact hn (by simpa using (h.eq_of_length (by simp)).symm)
  constructor
  · rintro ⟨n, hstep, hp, hdir⟩
    rw [hloc] at hdir
    by_cases hn : n = "checkpoint-" ++ toString s
    · subst hn
      rw [checkpointStep?_name] at hstep
      split at hstep
      · rename_i hlt
        have hcs : s = c.step := Option.some.inj hstep
        obtain ⟨st, path⟩ := c
        simp only at hcs hp
        subst hcs hp
        exact .inl ⟨rfl, hlt⟩
      · cases hstep
    · refine .inr ⟨⟨n, hstep, hp, (hother n hn) ▸ hdir⟩, fun h => hn ?_⟩
      have := congrArg d.locate (hp.symm.trans h)
      rw [locate_join_name (isName_of_checkpointStep? hstep), hKp] at this
      simpa using this
  · rintro (⟨rfl, hlt⟩ | ⟨⟨n, hstep, hp, hdir⟩, hne⟩)
    · refine ⟨"checkpoint-" ++ toString s, ?_, rfl, ?_⟩
      · rw [checkpointStep?_name, if_pos hlt]
      · rw [hloc, ← hKp]
        exact hs.dirs _ (List.prefix_refl _)
    · have hn : n ≠ "checkpoint-" ++ toString s := fun e => hne (by rw [hp, e])
      exact ⟨n, hstep, hp, by rw [hloc, hother n hn, hdir]⟩

/-- What a save of step `s` that returned `path` has done to the checkpoint directory: `cs` is
what the directory listed once the new checkpoint was written, and `after` what it lists at the
end. -/
structure Rotated (m : CheckpointManager) (d d' : Disk) (s : Nat) (path : String)
    (cs after : List CheckpointInfo) : Prop where
  /-- Before the clean-up the directory lists the new checkpoint, when its step reads back,
  and the checkpoints that were there at other paths. -/
  listed : ∀ c, c ∈ cs ↔ (c = ⟨s, path⟩ ∧ s < 2 ^ 64) ∨ (m.Listed d c ∧ c.path ≠ path)
  sorted : cs.Pairwise (fun a b => a.step ≤ b.step)
  /-- The clean-up keeps the last of them by step, and nothing more. -/
  kept : List.Perm after (cs.drop (m.excess cs.length))
  atMost : 0 < m.maxCheckpoints → after.length ≤ m.maxCheckpoints
  newest : ∀ c ∈ cs.take (m.excess cs.length), ∀ c' ∈ after, c.step ≤ c'.step
  keepAll : m.maxCheckpoints = 0 → List.Perm after cs
  /-- Inside the checkpoint directory, only the new checkpoint and the removed ones changed. -/
  untouched : ∀ k, d.locate m.checkpointDir <+: k → k ≠ d.locate m.checkpointDir →
    ¬ d.locate path <+: k → (∀ c ∈ cs.take (m.excess cs.length), ¬ d.locate c.path <+: k) →
    d'.entryAt k = d.entryAt k
  /-- The new checkpoint stays when fewer than `maxCheckpoints` others have a step at least its
  own. -/
  keepsNew : s < 2 ^ 64 → (m.maxCheckpoints = 0 ∨
    (cs.countP fun c => c.path != path && decide (s ≤ c.step)) < m.maxCheckpoints) →
    (⟨s, path⟩ : CheckpointInfo) ∈ after
  /-- It is removed at once when `maxCheckpoints` others have a larger step. -/
  dropsNew : 0 < m.maxCheckpoints →
    m.maxCheckpoints ≤ (cs.countP fun c => decide (s < c.step)) → ∀ c ∈ after, c.path ≠ path

/-- The last part of a listing left by a clean-up holds at most `maxCheckpoints`, when that is
not zero. -/
theorem length_drop_excess_le (hL : 0 < m.maxCheckpoints) (cs : List CheckpointInfo) :
    (cs.drop (m.excess cs.length)).length ≤ m.maxCheckpoints := by
  simp only [List.length_drop, excess, Nat.ne_of_gt hL, if_false]
  omega

/-- A checkpoint outnumbered by `maxCheckpoints` listed ones of a larger step is not among the
last ones that the clean-up keeps. -/
theorem not_mem_drop_excess {cs : List CheckpointInfo}
    (hsort : cs.Pairwise (fun a b => a.step ≤ b.step)) (hL : 0 < m.maxCheckpoints)
    {w : CheckpointInfo} (hcount : m.maxCheckpoints ≤ cs.countP fun c => decide (w.step < c.step)) :
    w ∉ cs.drop (m.excess cs.length) := fun hw => by
  have hlt := countP_lt_of_mem_drop hsort hw
  have := length_drop_excess_le hL cs
  omega

/-- A save on a well-formed disk that returns has written the checkpoint of its step and then
kept the newest `maxCheckpoints` checkpoints of the directory, all of them when that is zero;
the checkpoint it has just written is among them when fewer than that many others have a step
at least its own, and is removed when that many others have a larger step. -/
theorem save_rotates_checkpoints {model : CausalLM} {state : TrainerState} {d' : Disk}
    {r : String × AdapterStats} (hwf : d.WellFormed)
    (hsave : (m.save model state).run.run d = (.ok r, d')) :
    r.1 = Disk.join m.checkpointDir ("checkpoint-" ++ toString state.globalStep) ∧
      d'.WellFormed ∧
      ∃ cs after, m.list d' = .ok after ∧ Rotated m d d' state.globalStep r.1 cs after := by
  obtain ⟨hr, dw, hs, rfl⟩ := save_inv hsave
  have hKp := locate_join_name (isName_checkpoint state.globalStep) d m.checkpointDir
  have hK := checkpointDir_dir hs
  obtain ⟨cs, hl, hsort, hdist, hmem⟩ := list_spec (hs.wf hwf) hK
  obtain ⟨hR, after, hla, hperm⟩ := cleanup_spec (hs.wf hwf) hK hl
  have hmem' : ∀ c, c ∈ cs ↔ (c = ⟨state.globalStep, r.1⟩ ∧ state.globalStep < 2 ^ 64) ∨
      (m.Listed d c ∧ c.path ≠ r.1) := fun c => by rw [hmem, hr, listed_after_write hs]
  have hafter : ∀ c, c ∈ after → c ∈ cs.drop (m.excess cs.length) := fun c hc => hperm.subset hc
  refine ⟨hr, hR.wf (hs.wf hwf), cs, after, hla, ⟨hmem', hsort, hperm, ?_, ?_, ?_, ?_, ?_, ?_⟩⟩
  · -- at most `maxCheckpoints`
    intro hL
    rw [hperm.length_eq]
    exact length_drop_excess_le hL cs
  · -- the removed are older than the kept
    intro c hc c' hc'
    exact step_le_of_take_drop hsort hc (hafter c' hc')
  · -- with no limit nothing is removed
    intro h0
    simpa [excess, h0] using hperm
  · -- the frame inside the checkpoint directory
    intro k hKk hne hpk hrm
    rw [hR.entryAt k, if_neg (fun h => by
      obtain ⟨-, c, hc, hpre⟩ := h
      exact hrm c hc (hs.locate_eq ▸ hpre))]
    refine hs.frame k (fun hk => ?_) (hr ▸ hpk)
    -- a location strictly inside the directory and above the new checkpoint is the checkpoint
    rw [hKp] at hk
    rcases List.prefix_concat_iff.1 hk with h | h
    · have hk' : d.locate r.1 = k := by rw [hr, hKp, h]
      exact hpk (hk' ▸ List.prefix_refl _)
    · exact hne (List.IsPrefix.eq_of_length hKk (Nat.le_antisymm hKk.length_le h.length_le)).symm
  · -- the new checkpoint is kept
    intro hlt hcount
    have hw : (⟨state.globalStep, r.1⟩ : CheckpointInfo) ∈ cs := (hmem' _).2 (.inl ⟨rfl, hlt⟩)
    refine hperm.mem_iff.2 ?_
    by_cases hfew : cs.length ≤ m.maxCheckpoints ∨ m.maxCheckpoints = 0
    · have h0 : m.excess cs.length = 0 := by
        unfold excess
        split <;> omega
      rw [h0, List.drop_zero]
      exact hw
    · have hlen : (cs.drop (m.excess cs.length)).length = m.maxCheckpoints := by
        simp only [List.length_drop, excess]
        split <;> omega
      rcases hcount with h0 | hcount
      · exact absurd (.inr h0) hfew
      · exact mem_drop_of_countP_lt hsort hdist hw (hlen ▸ hcount)
  · -- and removed at once when outnumbered by larger steps
    intro hL hcount c hc hpath
    have hcs := hafter c hc
    obtain ⟨rfl, -⟩ | ⟨-, hne⟩ := (hmem' c).1 (List.mem_of_mem_drop hcs)
    · exact not_mem_drop_excess hsort hL hcount hcs
    · exact hne hpath

theorem save_rotates_checkpoints_beside_stale_step :
    let m := CheckpointManager.new "" 1 none
    let d : Disk := ⟨[(["checkpoints"], .dir), (["checkpoints", "checkpoint-100"], .dir)], []⟩
    let config : ModelConfig :=
      { vocabSize := 3, hiddenSize := 1, intermediateSize := 1, numHiddenLayers := 0
        numAttentionHeads := 1 }
    let model : CausalLM := ⟨config, {}, PrecisionConfig.ofMode .fullSingle,
      Tensor.zeros .f32 [3, 1], [], ⟨Tensor.zeros .f32 [1], 1e-6⟩, none, []⟩
    let state : TrainerState := ⟨5, 100, 0.5, "1970-01-01T00:00:00Z", []⟩
    d.WellFormed ∧ ∃ r d', (m.save model state).run.run d = (.ok r, d') ∧
      r.1 = Disk.join m.checkpointDir ("checkpoint-" ++ toString state.globalStep) ∧
      d'.WellFormed ∧ ∃ cs after, m.list d' = .ok after ∧ Rotated m d d' state.globalStep r.1 cs after := by
  intro m d config model state
  have hwf : d.WellFormed := ⟨by decide⟩
  have hloc : d.locate (Disk.join m.checkpointDir ("checkpoint-" ++ toString state.globalStep)) =
      ["checkpoints", "checkpoint-5"] := by decide +kernel
  obtain ⟨r, d', h⟩ : ∃ r d', (m.save model state).run.run d = (.ok r, d') :=
    save_ok (fun k' _ b => entryAt_ne_file (by simp [d]) k' b) (fun f _ => by rw [hloc]; simp [d, entryAt])
  exact ⟨hwf, r, d', h, save_rotates_checkpoints hwf h⟩

/-- The checkpoint a save has just written can be removed at once: keeping one checkpoint, a
save of step 5 beside a stale `checkpoint-100` returns the path of `checkpoint-5`, and the
directory then lists no checkpoint there. -/
theorem save_removes_new_checkpoint_below_stale_one :
    let m := CheckpointManager.new "" 1 none
    let d : Disk := ⟨[(["checkpoints"], .dir), (["checkpoints", "checkpoint-100"], .dir)], []⟩
    let config : ModelConfig :=
      { vocabSize := 3, hiddenSize := 1, intermediateSize := 1, numHiddenLayers := 0
        numAttentionHeads := 1 }
    let model : CausalLM := ⟨config, {}, PrecisionConfig.ofMode .fullSingle,
      Tensor.zeros .f32 [3, 1], [], ⟨Tensor.zeros .f32 [1], 1e-6⟩, none, []⟩
    let state : TrainerState := ⟨5, 100, 0.5, "1970-01-01T00:00:00Z", []⟩
    ∃ r d' after, (m.save model state).run.run d = (.ok r, d') ∧ r.1 = "checkpoints/checkpoint-5" ∧
      m.list d' = .ok after ∧ ∀ c ∈ after, c.path ≠ r.1 := by
  intro m d config model state
  have hwf : d.WellFormed := ⟨by decide⟩
  have hloc : d.locate (Disk.join m.checkpointDir ("checkpoint-" ++ toString state.globalStep)) =
      ["checkpoints", "checkpoint-5"] := by decide +kernel
  obtain ⟨r, d', h⟩ : ∃ r d', (m.save model state).run.run d = (.ok r, d') :=
    save_ok (fun k' _ b => entryAt_ne_file (by simp [d]) k' b) (fun f _ => by rw [hloc]; simp [d, entryAt])
  obtain ⟨hr, dw, hs, rfl⟩ := save_inv h
  obtain ⟨cs, hl, hsort, -, hmem⟩ := list_spec (hs.wf hwf) (checkpointDir_dir hs)
  obtain ⟨-, after, hla, hperm⟩ := cleanup_spec (hs.wf hwf) (checkpointDir_dir hs) hl
  -- the stale checkpoint is listed beside the new one, and outnumbers it
  have hstale : (⟨100, "checkpoints/checkpoint-100"⟩ : CheckpointInfo) ∈ cs := by
    rw [hmem, listed_after_write hs]
    have hK : d.locate m.checkpointDir = ["checkpoints"] := by decide +kernel
    exact .inr ⟨⟨"checkpoint-100", by decide +kernel, by decide +kernel, by rw [hK]; rfl⟩,
      by decide +kernel⟩
  have hcount : m.maxCheckpoints ≤ cs.countP fun c => decide (state.globalStep < c.step) :=
    List.countP_pos_iff.2 ⟨_, hstale, by decide⟩
  refine ⟨r, _, after, h, by rw [hr]; decide +kernel, hla, fun c hc hpath => ?_⟩
  have hcs : c ∈ cs.drop (m.excess cs.length) := hperm.subset hc
  rcases (listed_after_write hs c).1 ((hmem c).1 (List.mem_of_mem_drop hcs)) with ⟨rfl, -⟩ | ⟨-, hne⟩
  · exact not_mem_drop_excess hsort (by decide) hcount hcs
  · exact hne (hr ▸ hpath)

end CheckpointManager

end LowRankTuner
