import LowRankTuner.Proofs.CheckpointRotation
/-!
# Where training writes

Training writes its checkpoints below the checkpoint directory of its output directory, and
the only other trace it leaves on the disk is a directory made where there was nothing: one
of the directories above a checkpoint that did not exist yet.  This holds of every run,
including one that fails halfway, because a failed run keeps what it wrote before the failure.

`Disk.Confined d d' S` says that `d'` differs from `d` only at the locations of `S`, apart
from such new directories; `DiskM.Confines x S` says that every run of `x` leaves its disk so
confined, `S` being read from the working directory (`Disk.Below dir` for the locations
strictly below the directory `dir`, `Disk.At p` for the location of the path `p`).  The
rules for `pure`, `bind`, a lifted `Except`, a change of the files and a fold confine a loop
of file steps one step at a time.  Saving a
checkpoint and the clean-up after it are the only steps that change anything
(`CheckpointManager.save_confines`), so the whole training loop is confined
(`LoRATrainer.train_confines`).
-/

namespace LowRankTuner

namespace Disk

/-- The location `k` lies strictly below the location `K`. -/
def Inside (K k : List String) : Prop := ∃ x, K ++ [x] <+: k

theorem inside_append (K : List String) (x : String) (rest : List String) :
    Inside K (K ++ x :: rest) :=
  ⟨x, rest, by simp⟩

/-- The locations strictly below the directory `dir`, read from the working directory `cwd`. -/
def Below (dir : String) (cwd : List String) : List String → Prop := Inside (resolve cwd dir)

/-- The location of the path `p`, read from the working directory `cwd`. -/
def At (p : String) (cwd k : List String) : Prop := k = resolve cwd p

/-- `d'` is `d` changed only at the locations of `S`, and elsewhere only by directories made
where `d` had nothing. -/
structure Confined (d d' : Disk) (S : List String → Prop) : Prop where
  cwd : d'.cwd = d.cwd
  entryAt : ∀ k, ¬ S k →
    d'.entryAt k = d.entryAt k ∨ (d.entryAt k = none ∧ d'.entryAt k = some .dir)

namespace Confined

variable {d d₁ d₂ d₃ : Disk} {S : List String → Prop} {k : List String} {b : ByteArray}

theorem refl (d : Disk) (S : List String → Prop) : Confined d d S := ⟨rfl, fun _ _ => .inl rfl⟩

theorem trans (h₁ : Confined d₁ d₂ S) (h₂ : Confined d₂ d₃ S) : Confined d₁ d₃ S where
  cwd := h₂.cwd.trans h₁.cwd
  entryAt k hk := by
    rcases h₁.entryAt k hk with e₁ | ⟨n₁, m₁⟩ <;> rcases h₂.entryAt k hk with e₂ | ⟨n₂, m₂⟩
    · exact .inl (e₂.trans e₁)
    · exact .inr ⟨e₁ ▸ n₂, m₂⟩
    · exact .inr ⟨n₁, e₂.trans m₁⟩
    -- a location cannot be made a directory twice
    · rw [m₁] at n₂
      cases n₂

theorem locate_eq (h : Confined d₁ d₂ S) : d₂.locate = d₁.locate := locate_eq_of_cwd h.cwd

theorem of_changesWithin {T : List String → Prop} (h : ChangesWithin d₁ d₂ T)
    (hT : ∀ k, T k → S k) : Confined d₁ d₂ S :=
  ⟨h.cwd, fun k hk => .inl (h.entryAt k fun ht => hk (hT k ht))⟩

/-- A file outside `S` stays as it was. -/
theorem entryAt_file (h : Confined d₁ d₂ S) (hk : ¬ S k)
    (hf : d₁.entryAt k = some (.file b)) : d₂.entryAt k = some (.file b) := by
  rcases h.entryAt k hk with e | ⟨n, -⟩
  · rw [e, hf]
  · rw [hf] at n
    cases n

/-- Outside `S`, every file of the new disk was already there. -/
theorem file_of_entryAt (h : Confined d₁ d₂ S) (hk : ¬ S k)
    (hf : d₂.entryAt k = some (.file b)) : d₁.entryAt k = some (.file b) := by
  rcases h.entryAt k hk with e | ⟨-, m⟩
  · rw [← e, hf]
  · rw [hf] at m
    cases m

end Confined

/-- Making the directories of a path is confined to every set of locations. -/
theorem DirsMade.confined {d acc : Disk} {pre : List String} (h : DirsMade d acc pre)
    (S : List String → Prop) : Confined d acc S :=
  ⟨h.cwd, fun k _ => by
    rw [h.entryAt k]
    split
    · rename_i hc
      exact .inr ⟨hc.2.2, rfl⟩
    · exact .inl rfl⟩

/-- Two names joined to a directory lie strictly below it. -/
theorem below_join_join {n₁ n₂ : String} (h₁ : IsName n₁) (h₂ : IsName n₂) (d : Disk)
    (p : String) : Below p d.cwd (d.locate (join (join p n₁) n₂)) := by
  rw [locate_join_name h₂, locate_join_name h₁, List.append_assoc]
  exact inside_append _ _ _

end Disk

namespace DiskM

open Disk

variable {α β σ : Type} {S : List String → List String → Prop}

/-- Every run of `x`, returning or failing, leaves the disk it started on confined to the
locations `S` names from its working directory. -/
def Confines (x : DiskM α) (S : List String → List String → Prop) : Prop :=
  ∀ d, Confined d (x.run.run d).2 (S d.cwd)

theorem confines_pure (a : α) : (pure a : DiskM α).Confines S := fun d => .refl d _

theorem confines_throw (e : Failure) : (throw e : DiskM α).Confines S := fun d => .refl d _

theorem confines_liftExcept (r : Except Failure α) : (liftExcept r).Confines S := by
  cases r with
  | error e => exact confines_throw e
  | ok a => exact confines_pure a

theorem confines_bind {x : DiskM α} {f : α → DiskM β} (hx : x.Confines S)
    (hf : ∀ a, (f a).Confines S) : (x >>= f).Confines S := by
  intro d
  rw [run_bind]
  rcases h : x.run.run d with ⟨r, d₁⟩
  have h₁ : Confined d d₁ (S d.cwd) := by simpa only [h] using hx d
  cases r with
  | error e => exact h₁
  | ok a =>
    -- the second half starts where the first stopped, in the same working directory
    have h₂ := hf a d₁
    rw [h₁.cwd] at h₂
    exact h₁.trans h₂

/-- A failure ends the run where it is, whatever was to follow. -/
theorem confines_throw_bind (e : Failure) (f : α → DiskM β) :
    (throw e >>= f).Confines S := by
  intro d
  rw [run_bind]
  exact .refl d _

theorem confines_change {f : Disk → Except String Disk} {err : String → Failure}
    (h : ∀ d d', f d = .ok d' → Confined d d' (S d.cwd)) :
    (DiskM.change f err).Confines S := by
  intro d
  rw [run_change]
  cases hf : f d with
  | error e => exact .refl d _
  | ok d' => exact h d d' hf

theorem confines_modify {g : Disk → Disk} (h : ∀ d, Confined d (g d) (S d.cwd)) :
    (modify g : DiskM Unit).Confines S := fun d => by
  rw [run_modify]
  exact h d

theorem confines_foldlM {f : σ → α → DiskM σ} (hf : ∀ s a, (f s a).Confines S) :
    ∀ (l : List α) (s : σ), (l.foldlM f s).Confines S
  | [], s => confines_pure s
  | a :: l, s => by
    rw [List.foldlM_cons]
    exact confines_bind (hf s a) fun s' => confines_foldlM hf l s'

theorem confines_createDirAll (p : String) (err : String → Failure) :
    (DiskM.change (·.createDirAll p) err).Confines S :=
  confines_change fun _ _ h => (createDirAll_inv h).confined _

/-- Writing a file at a location of `S` is confined to `S`. -/
theorem confines_writeBytes {p : String} {b : ByteArray} (err : String → Failure)
    (hp : ∀ d : Disk, S d.cwd (d.locate p)) :
    (DiskM.change (·.writeBytes p b) err).Confines S :=
  confines_change fun d _ h => .of_changesWithin (writeBytes_changes h).1 fun _ hk => hk ▸ hp d

theorem confines_writeText {p text : String} (err : String → Failure)
    (hp : ∀ d : Disk, S d.cwd (d.locate p)) :
    (DiskM.change (·.writeText p text) err).Confines S :=
  confines_writeBytes err hp

end DiskM

open Disk DiskM

variable {S : List String → List String → Prop}

theorem saveAdapterState_confines (state : List (String × Tensor)) {p : String}
    (hp : ∀ d : Disk, S d.cwd (d.locate p)) :
    (saveAdapterState state p).Confines S := by
  unfold saveAdapterState
  dsimp only
  -- the directory of the file is made first, when the path names one
  split
  · split
    · exact confines_bind (confines_createDirAll _ _) fun _ =>
        confines_bind (confines_writeBytes _ hp) fun _ => confines_pure _
    · exact confines_bind (confines_writeBytes _ hp) fun _ => confines_pure _
  · exact confines_bind (confines_writeBytes _ hp) fun _ => confines_pure _

namespace CheckpointManager

variable {m : CheckpointManager} {d : Disk}

/-- A directory that is not there lists nothing. -/
theorem listDir_of_not_dir {p : String} (h : d.entryAt (d.locate p) ≠ some .dir) :
    ∃ e, d.listDir p = .error e := by
  unfold listDir
  dsimp only
  split
  · contradiction
  · exact ⟨_, rfl⟩
  · exact ⟨_, rfl⟩

/-- Every checkpoint the listing finds is named one level below the checkpoint directory. -/
theorem path_of_mem_list {cs : List CheckpointInfo} (hl : m.list d = .ok cs)
    {c : CheckpointInfo} (hc : c ∈ cs) : ∃ n, IsName n ∧ c.path = join m.checkpointDir n := by
  by_cases hK : d.entryAt (d.locate m.checkpointDir) = some .dir
  · rw [list_eq hK] at hl
    cases hl
    rw [List.mem_mergeSort, List.mem_filterMap] at hc
    obtain ⟨⟨n, v⟩, -, hof⟩ := hc
    obtain ⟨-, hs, hp⟩ := checkpointOf_eq_some.1 hof
    exact ⟨n, isName_of_checkpointStep? hs, hp⟩
  · -- without its directory the listing is empty, or fails
    unfold list at hl
    split at hl
    · cases hl
      cases hc
    · obtain ⟨e, he⟩ := listDir_of_not_dir hK
      simp [he, Except.mapError, bind, Except.bind] at hl

/-- The clean-up removes checkpoints, each one level below the checkpoint directory. -/
theorem cleanup_confined (m : CheckpointManager) (d : Disk) :
    Confined d (m.cleanup d) (Below m.checkpointDir d.cwd) := by
  cases hl : m.list d with
  | error e =>
    unfold cleanup
    rw [hl]
    exact .refl d _
  | ok cs =>
    rw [cleanup_eq hl]
    -- each removal prunes a listed checkpoint, or leaves the disk when it cannot
    have hstep : ∀ acc c, c ∈ cs → Confined d acc (Below m.checkpointDir d.cwd) →
        Confined d (removeStep acc c) (Below m.checkpointDir d.cwd) := by
      intro acc c hc hacc
      obtain ⟨n, hn, hp⟩ := path_of_mem_list hl hc
      unfold removeStep
      cases hr : acc.removeDirAll c.path with
      | error e => exact hacc
      | ok d' =>
        obtain ⟨-, rfl⟩ := removeDirAll_inv hr
        refine hacc.trans (.of_changesWithin (changesWithin_prune acc _) fun k hk => ?_)
        rw [hp, locate_join_name hn, hacc.locate_eq] at hk
        exact ⟨n, hk⟩
    have hfold : ∀ (rm : List CheckpointInfo) (acc : Disk), (∀ c ∈ rm, c ∈ cs) →
        Confined d acc (Below m.checkpointDir d.cwd) →
        Confined d (rm.foldl removeStep acc) (Below m.checkpointDir d.cwd) := by
      intro rm
      induction rm with
      | nil => exact fun acc _ hacc => hacc
      | cons c rm ih =>
        intro acc hrm hacc
        exact ih _ (fun c' hc' => hrm c' (List.mem_cons_of_mem _ hc'))
          (hstep acc c (hrm c List.mem_cons_self) hacc)
    exact hfold _ d (fun c hc => List.mem_of_mem_take hc) (.refl d _)

/-- Saving a checkpoint is confined below the checkpoint directory: its files lie one level
below the checkpoint's own directory, and the clean-up removes whole checkpoints. -/
theorem save_confines (m : CheckpointManager) (model : CausalLM) (state : TrainerState) :
    (m.save model state).Confines (Below m.checkpointDir) := by
  have hfile : ∀ f, IsName f → ∀ d : Disk, Below m.checkpointDir d.cwd
      (d.locate (join (join m.checkpointDir ("checkpoint-" ++ toString state.globalStep)) f)) :=
    fun f hf d => below_join_join (isName_checkpoint _) hf d _
  unfold save
  dsimp only
  refine confines_bind (confines_createDirAll _ _) fun _ => ?_
  refine confines_bind (saveAdapterState_confines _ (hfile _ isName_checkpointFiles.1)) fun _ => ?_
  split
  · refine confines_bind (confines_writeText _ (hfile _ isName_checkpointFiles.2.1)) fun _ => ?_
    exact confines_bind (confines_writeText _ (hfile _ isName_checkpointFiles.2.2)) fun _ =>
      confines_bind (confines_modify (cleanup_confined m)) fun _ => confines_pure _
  · exact confines_bind (confines_writeText _ (hfile _ isName_checkpointFiles.2.2)) fun _ =>
      confines_bind (confines_modify (cleanup_confined m)) fun _ => confines_pure _

end CheckpointManager

namespace LoRATrainer

variable (t : LoRATrainer) (dataset : WeightedDataset) (ckpt : CheckpointManager)
  (amb : Ambient)

theorem record_confines (total : Nat) (p : Progress) (norm : Float32) (lr epochProgress : Float) :
    (t.record ckpt amb total p norm lr epochProgress).Confines (Below ckpt.checkpointDir) := by
  unfold record
  dsimp only
  split
  · refine confines_bind (ckpt.save_confines _ _) fun r => ?_
    obtain ⟨path, stats⟩ := r
    exact confines_pure _
  · exact confines_pure _

theorem absorb_confines (epoch : Nat) (p : Progress) (indices : List Nat) :
    (t.absorb dataset amb epoch p indices).Confines (Below ckpt.checkpointDir) := by
  unfold absorb
  refine confines_bind (confines_liftExcept _) fun _ => ?_
  refine confines_bind (confines_liftExcept _) fun r => ?_
  obtain ⟨value, incoming⟩ := r
  exact confines_bind (confines_liftExcept _) fun _ => confines_pure _

theorem batch_confines (batchesPerEpoch total epoch : Nat) (p : Progress)
    (item : List Nat × Nat) :
    (t.batch dataset ckpt amb batchesPerEpoch total epoch p item).Confines
      (Below ckpt.checkpointDir) := by
  obtain ⟨indices, bi⟩ := item
  unfold batch
  refine confines_bind (t.absorb_confines dataset ckpt amb _ _ _) fun r => ?_
  obtain ⟨p', grads⟩ := r
  dsimp only
  split
  · exact confines_pure _
  · exact t.record_confines ckpt amb _ _ _ _ _

theorem runEpoch_confines (sampler : WeightedSampler) (batchesPerEpoch total : Nat) (p : Progress)
    (epoch : Nat) :
    (t.runEpoch dataset ckpt sampler amb batchesPerEpoch total p epoch).Confines
      (Below ckpt.checkpointDir) := by
  unfold runEpoch
  split
  exact confines_foldlM (fun p item => t.batch_confines dataset ckpt amb _ _ _ p item) _ _

/-- Training is confined below the checkpoint directory of its output directory, whether it
returns or fails. -/
theorem train_confines (model : CausalLM) :
    (t.train model dataset amb).Confines (Below (join t.outputDir "checkpoints")) := by
  unfold train
  dsimp only
  split
  · exact confines_throw_bind _ _
  split
  · exact confines_throw_bind _ _
  refine confines_bind (confines_liftExcept _) fun sampler => ?_
  refine confines_bind (confines_liftExcept _) fun _ => ?_
  refine confines_bind (confines_liftExcept _) fun _ => ?_
  refine confines_bind (confines_foldlM (fun p epoch => ?_) _ _) fun _ => confines_pure _
  exact t.runEpoch_confines dataset _ amb sampler _ _ p epoch

end LoRATrainer

end LowRankTuner
