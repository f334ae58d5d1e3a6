import Mathlib
import LowRankTuner.Cli.Session
import LowRankTuner.Proofs.TrainingFootprint
import LowRankTuner.Proofs.WrittenParent
/-!
# What a training run leaves on the disk

A run reads its queue, model and tokenizer, trains, exports the adapter, reads the export
back and may archive the queue.  Only three of its steps change the disk: training (below
the checkpoint directory, `LoRATrainer.train_confines`), the export (at the output path)
and the archive (a rename of the queue file).  So a failed run leaves the queue file as it
was, unless the queue file is the output file and the export has begun (the read-back still
refuses an export whose header is too large), and the output file unwritten until the export
begins; a check writes nothing, and the queue is moved only by a successful run that was asked
to archive it (`Cli.TrainArgs.run_footprint`).

The proof walks the run with Hoare triples over session steps, `SessionM.Triple P x Q E`:
from a session satisfying `P`, the step `x` ends in `Q` with its value or in `E` with its
failure.  Printing and reporting keep the disk and every printed line, so assertions about
those (`SessionM.Stable`) pass through them; the steps that change the disk get triples of
their own from what their disk programs may change.
-/

namespace LowRankTuner

namespace Session

/-- `s'` holds the disk of `s` and every line `s` printed: it has at most printed and
reported more. -/
def Grows (s s' : Session) : Prop := s'.disk = s.disk ∧ ∀ l ∈ s.printed, l ∈ s'.printed

theorem Grows.refl (s : Session) : Grows s s := ⟨rfl, fun _ h => h⟩

end Session

namespace SessionM

open Session

variable {α β : Type} {P : Session → Prop} {Q : α → Session → Prop}
  {E : Failure → Session → Prop}

/-- From every session satisfying `P`, the step `x` ends in a session satisfying `Q` with
the value it returns, or one satisfying `E` with the failure it raises. -/
def Triple (P : Session → Prop) (x : SessionM α) (Q : α → Session → Prop)
    (E : Failure → Session → Prop) : Prop :=
  ∀ s, P s → match x.run.run s with
    | (.ok a, s') => Q a s'
    | (.error e, s') => E e s'

/-- An assertion that printing and reporting cannot falsify. -/
def Stable (P : Session → Prop) : Prop := ∀ s s', Grows s s' → P s → P s'

/-- A step that keeps the disk and every printed line, whether it returns or fails. -/
def Keeps (x : SessionM α) : Prop := ∀ s, Grows s (x.run.run s).2

/-- A step that keeps the disk and every printed line and never fails. -/
def Quiet (x : SessionM α) : Prop := Keeps x ∧ ∀ s, ∃ a, (x.run.run s).1 = .ok a

theorem run_bind (x : SessionM β) (f : β → SessionM α) (s : Session) :
    (x >>= f).run.run s = match x.run.run s with
      | (.ok b, s') => (f b).run.run s'
      | (.error e, s') => (.error e, s') := by
  simp only [ExceptT.run_bind, StateT.run_bind]
  rcases x.run.run s with ⟨r, s'⟩
  cases r <;> rfl

theorem run_onDisk (m : DiskM β) (s : Session) :
    (onDisk m).run.run s = ((m.run.run s.disk).1, { s with disk := (m.run.run s.disk).2 }) :=
  rfl

/-! ### The steps that only print, report and read -/

theorem grows_push (s : Session) (l : String) :
    Grows s { s with printed := s.printed.push l } :=
  ⟨rfl, fun _ h => Array.mem_push.2 (.inl h)⟩

@[simp] theorem quiet_say (l : String) : Quiet (say l) :=
  ⟨fun s => grows_push s l, fun _ => ⟨(), rfl⟩⟩

@[simp] theorem quiet_note (level : Level) (target message : String) :
    Quiet (note level target message) :=
  ⟨fun s => Grows.refl s, fun _ => ⟨(), rfl⟩⟩

@[simp] theorem quiet_noteAll (es : List LogEvent) : Quiet (noteAll es) :=
  ⟨fun s => Grows.refl s, fun _ => ⟨(), rfl⟩⟩

@[simp] theorem quiet_disk : Quiet disk := ⟨fun s => Grows.refl s, fun s => ⟨s.disk, rfl⟩⟩

@[simp] theorem keeps_lift (r : Except Failure α) : Keeps (lift r) := fun s => Grows.refl s

@[simp] theorem keeps_reported (m : ReportM α) : Keeps (reported m) := fun s => Grows.refl s

@[simp] theorem keeps_of_quiet {x : SessionM α} (h : Quiet x) : Keeps x := h.1

/-! ### Rules -/

namespace Triple

variable {γ : Type}

theorem of_each {x : SessionM α} (h : ∀ s₁, P s₁ → Triple (· = s₁) x Q E) : Triple P x Q E :=
  fun s hs => h s hs s rfl

theorem conseq {P' : Session → Prop} {Q' : α → Session → Prop} {E' : Failure → Session → Prop}
    {x : SessionM α} (h : Triple P x Q E) (hP : ∀ s, P' s → P s) (hQ : ∀ a s, Q a s → Q' a s)
    (hE : ∀ e s, E e s → E' e s) : Triple P' x Q' E' := by
  intro s hs
  have h' := h s (hP s hs)
  revert h'
  rcases x.run.run s with ⟨r, s'⟩
  cases r with
  | error e => exact hE e s'
  | ok a => exact hQ a s'

theorem bind {R : β → Session → Prop} {x : SessionM β} {f : β → SessionM α}
    (hx : Triple P x R E) (hf : ∀ b, Triple (R b) (f b) Q E) : Triple P (x >>= f) Q E := by
  intro s hs
  rw [run_bind]
  have h := hx s hs
  revert h
  rcases x.run.run s with ⟨r, s'⟩
  cases r with
  | error e => exact id
  | ok b => exact fun h => hf b s' h

theorem pure {a : α} (h : ∀ s, P s → Q a s) : Triple P (Pure.pure a) Q E := h

theorem throw_bind {e : Failure} {f : β → SessionM α} (h : ∀ s, P s → E e s) :
    Triple P (throw e >>= f) Q E := h

theorem map {R : β → Session → Prop} {g : β → α} {x : SessionM β}
    (hx : Triple P x R E) (h : ∀ b s, R b s → Q (g b) s) : Triple P (g <$> x) Q E := by
  rw [map_eq_pure_bind]
  exact bind hx fun b s hs => h b s hs

theorem ite {c : Prop} [Decidable c] {x y : SessionM α} (hx : c → Triple P x Q E)
    (hy : ¬ c → Triple P y Q E) : Triple P (if c then x else y) Q E := by
  by_cases hc : c
  · rw [if_pos hc]
    exact hx hc
  · rw [if_neg hc]
    exact hy hc

/-- Two branches that continue the same way: the continuation is proved once. -/
theorem ite_bind {c : Prop} [Decidable c] {x y : SessionM β} {f : β → SessionM α}
    {R : β → Session → Prop} (hx : c → Triple P x R E) (hy : ¬ c → Triple P y R E)
    (hf : ∀ b, Triple (R b) (f b) Q E) : Triple P (if c then x >>= f else y >>= f) Q E :=
  ite (fun hc => bind (hx hc) hf) fun hc => bind (hy hc) hf

/-- A step that keeps what a stable assertion reads passes it on, and fails only where it
held. -/
theorem keeps {x : SessionM α} (hx : Keeps x) (hP : Stable P) (hE : ∀ e s, P s → E e s) :
    Triple P x (fun _ => P) E := by
  intro s hs
  have hs' := hP s _ (hx s) hs
  revert hs'
  rcases x.run.run s with ⟨r, s'⟩
  cases r with
  | error e => exact hE e s'
  | ok a => exact id

theorem quiet {x : SessionM α} (hx : Quiet x) (hP : Stable P) : Triple P x (fun _ => P) E := by
  intro s hs
  obtain ⟨a, ha⟩ := hx.2 s
  have hs' := hP s _ (hx.1 s) hs
  revert ha hs'
  rcases x.run.run s with ⟨r, s'⟩
  rintro rfl
  exact id

theorem keeps_bind {x : SessionM β} {f : β → SessionM α} (hx : Keeps x) (hP : Stable P)
    (hE : ∀ e s, P s → E e s) (hf : ∀ b, Triple P (f b) Q E) : Triple P (x >>= f) Q E :=
  bind (keeps hx hP hE) hf

theorem quiet_bind {x : SessionM β} {f : β → SessionM α} (hx : Quiet x) (hP : Stable P)
    (hf : ∀ b, Triple P (f b) Q E) : Triple P (x >>= f) Q E :=
  bind (quiet hx hP) hf

/-- A step the run takes only when `c` holds, followed by what it does in either case. -/
theorem jp_ite {c : Prop} [Decidable c] {x : SessionM Unit} {jp : Unit → SessionM α}
    (hx : Keeps x) (hP : Stable P) (hE : ∀ e s, P s → E e s) (hjp : ∀ u, Triple P (jp u) Q E) :
    Triple P (if c then x >>= jp else jp ()) Q E :=
  ite (fun _ => keeps_bind hx hP hE hjp) fun _ => hjp ()

/-- Reading the disk where the assertion fixes it. -/
theorem disk_bind_of {d : Disk} {f : Disk → SessionM α} (hd : ∀ s, P s → s.disk = d)
    (hf : Triple P (f d) Q E) : Triple P (disk >>= f) Q E := by
  intro s hs
  have h := hf s hs
  rw [← hd s hs] at h
  exact h

/-- A lifted result: its failure is raised where the assertion held, its value is known. -/
theorem lift_bind {r : Except Failure β} {f : β → SessionM α} (hE : ∀ e s, P s → E e s)
    (hf : ∀ b, r = .ok b → Triple P (f b) Q E) : Triple P (lift r >>= f) Q E := by
  intro s hs
  rw [run_bind]
  cases r with
  | error e => exact hE e s hs
  | ok b => exact hf b rfl s hs

/-- A printed line that the assertion after it records. -/
theorem say_bind (R : Session → Prop) {l : String} {f : Unit → SessionM α}
    (h : ∀ s, P s → R { s with printed := s.printed.push l }) (hf : Triple R (f ()) Q E) :
    Triple P (say l >>= f) Q E :=
  bind (show Triple P (say l) (fun _ => R) E from h) fun _ => hf

theorem modify_bind (R : Session → Prop) {g : Session → Session} {f : Unit → SessionM α}
    (h : ∀ s, P s → R (g s)) (hf : Triple R (f ()) Q E) : Triple P (modify g >>= f) Q E :=
  bind (show Triple P (modify g) (fun _ => R) E from h) fun _ => hf

/-- A step on the disk, from what every run of its disk program leaves, returning or
failing. -/
theorem onDisk {m : DiskM β} {R : Session → Prop}
    (hR : ∀ s, P s → R { s with disk := (m.run.run s.disk).2 }) (hE : ∀ e s, R s → E e s) :
    Triple P (onDisk m) (fun _ => R) E := by
  intro s hs
  rw [run_onDisk]
  have h := hR s hs
  revert h
  rcases (m.run.run s.disk).1 with e | b
  · exact hE e _
  · exact id

/-- A triple whose two outcomes are one assertion on the result, read at the run. -/
theorem run_of {R : Except Failure α → Session → Prop} {x : SessionM α}
    (h : Triple P x (fun a => R (.ok a)) (fun e => R (.error e))) {s : Session} (hs : P s) :
    R (x.run.run s).1 (x.run.run s).2 := by
  have h' := h s hs
  revert h'
  rcases x.run.run s with ⟨r, s'⟩
  cases r <;> exact id

end Triple

end SessionM

/-! ### The steps that change the disk -/

open Disk DiskM

/-- A rename that succeeds moved a file: the file at the source is at the target, unless the
target is the root. -/
theorem Disk.rename_moves {d d' : Disk} {src dst : String} (h : d.rename src dst = .ok d') :
    d'.cwd = d.cwd ∧ ∃ b, d.entryAt (d.locate src) = some (.file b) ∧
      (d.locate dst ≠ [] → d'.entryAt (d.locate dst) = some (.file b)) := by
  unfold Disk.rename at h
  dsimp only at h
  split at h
  · rename_i b hb
    split at h
    · cases h
      refine ⟨rfl, b, hb, fun hk => ?_⟩
      rw [entryAt_setEntry _ _ hk, if_pos rfl]
    · cases h
  · cases h
  · cases h

/-- An archive name is a single name when its stamp holds no separator. -/
theorem isName_archiveName {stamp : String} (hstamp : '/' ∉ stamp.toList) (suffix : Nat) :
    IsName (archiveName stamp suffix) := by
  have hdig : '/' ∉ Nat.toDigits 10 suffix := fun hm => by
    simpa using Nat.isDigit_of_mem_toDigits (by decide) (by decide) hm
  have hslash : '/' ∉ (archiveName stamp suffix).toList := by
    unfold archiveName
    split <;> simp [String.toList_append, hstamp, hdig, Nat.toString_eq_repr, Nat.toList_repr]
  -- the name starts with a fixed word, so it is none of the empty name, `.` and `..`
  have hpre : "training_queue_archive_".toList <+: (archiveName stamp suffix).toList := by
    unfold archiveName
    rw [String.toList_append, String.toList_append, String.toList_append, List.append_assoc,
      List.append_assoc]
    exact List.prefix_append _ _
  refine ⟨?_, ?_, ?_, hslash⟩ <;> intro h <;> rw [h] at hpre <;> simp at hpre

/-- Every path the archive tries is an archive name in the archive directory. -/
theorem freeArchivePath_eq_join (d : Disk) (dir stamp : String) :
    ∀ fuel suffix, ∃ k, freeArchivePath d dir stamp fuel suffix = join dir (archiveName stamp k)
  | 0, suffix => ⟨suffix, rfl⟩
  | fuel + 1, suffix => by
    unfold freeArchivePath
    dsimp only
    split
    · exact freeArchivePath_eq_join d dir stamp fuel (suffix + 1)
    · exact ⟨suffix, rfl⟩

/-- Archiving a queue that succeeds moved the file at its path to the path it returns. -/
theorem archiveQueue_moves {d d' : Disk} {path stamp p : String} (hstamp : '/' ∉ stamp.toList)
    (h : archiveQueue d path stamp = .ok (d', p)) :
    d'.cwd = d.cwd ∧ ∀ b, d.entryAt (d.locate path) = some (.file b) →
      d'.entryAt (d.locate p) = some (.file b) := by
  unfold archiveQueue at h
  cases hr : d.rename path (archivePath d path stamp) with
  | error e => simp [hr, Except.mapError, bind, Except.bind] at h
  | ok d₁ =>
    simp only [hr, Except.mapError, bind, Except.bind, pure, Except.pure, Except.ok.injEq,
      Prod.mk.injEq] at h
    obtain ⟨rfl, rfl⟩ := h
    obtain ⟨hcwd, b, hb, hmoved⟩ := rename_moves hr
    refine ⟨hcwd, fun b' hb' => ?_⟩
    rw [hb] at hb'
    cases hb'
    -- the archive path is a name inside a directory, so it is not the root
    obtain ⟨k, hk⟩ := freeArchivePath_eq_join d (archiveDir path) stamp d.entries.length 0
    apply hmoved
    rw [archivePath, hk, locate_join_name (isName_archiveName hstamp k)]
    simp

/-- The export writes at the output path only. -/
theorem exportAdapter_confines (m : CausalLM) (o : String) :
    (exportAdapter m o).Confines (At o) :=
  saveAdapterState_confines _ fun _ => rfl

theorem LoRATrainer.outputDir_of_new {args : TrainingArguments} {dir : String} {t : LoRATrainer}
    (h : LoRATrainer.new args dir = .ok t) : t.outputDir = dir := by
  unfold LoRATrainer.new at h
  cases hv : args.validate with
  | error e => simp [hv, bind, Except.bind] at h
  | ok u =>
    simp only [hv, bind, Except.bind, pure, Except.pure, Except.ok.injEq] at h
    rw [← h]

namespace SessionM

/-- `s'` is `s` with the file at `path` moved to `p`: same working directory, and every line
printed in `s` printed still. -/
structure Moved (path p : String) (s s' : Session) : Prop where
  cwd : s'.disk.cwd = s.disk.cwd
  printed : ∀ l ∈ s.printed, l ∈ s'.printed
  file : ∀ b, s.disk.entryAt (s.disk.locate path) = some (.file b) →
    s'.disk.entryAt (s.disk.locate p) = some (.file b)

variable {P : Session → Prop}

/-- Archiving the queue fails leaving the session as it was, or moves the queue file to the
path it returns. -/
theorem Triple.archiveQueueFile {path stamp : String} (hstamp : '/' ∉ stamp.toList) :
    Triple P (archiveQueueFile path stamp) (fun p s' => ∃ s, P s ∧ Moved path p s s')
      (fun _ => P) := by
  refine Triple.of_each fun s₁ hs₁ => ?_
  unfold LowRankTuner.archiveQueueFile
  refine Triple.disk_bind_of (fun s (hs : s = s₁) => congrArg Session.disk hs) ?_
  refine Triple.lift_bind (fun _ s hs => hs ▸ hs₁) fun r hr => ?_
  obtain ⟨d', p⟩ := r
  obtain ⟨hcwd, hfile⟩ := archiveQueue_moves hstamp hr
  -- after the move the disk stays, and printing only adds lines
  have hS : Stable fun s => s.disk = d' ∧ ∀ l ∈ s₁.printed, l ∈ s.printed :=
    fun s s' h hs => ⟨h.1.trans hs.1, fun l hl => h.2 l (hs.2 l hl)⟩
  refine Triple.modify_bind (fun s => s.disk = d' ∧ ∀ l ∈ s₁.printed, l ∈ s.printed)
    (fun s (hs : s = s₁) => hs ▸ ⟨rfl, fun _ h => h⟩) ?_
  refine Triple.quiet_bind (by simp) hS fun _ => ?_
  refine Triple.quiet_bind (by simp) hS fun _ => ?_
  exact Triple.pure fun s hs => ⟨s₁, hs₁, hs.1 ▸ hcwd, hs.2, fun b hb => hs.1 ▸ hfile b hb⟩

end SessionM

namespace Cli.TrainArgs

open SessionM

variable (a : TrainArgs) (s₀ : Session)

/-- What a run from `s₀` that ended in `s` with the result `r` has done to the files it was
given. -/
structure Footprint (r : Except Failure TrainOutcome) (s : Session) : Prop where
  /-- Unless the run archived it, the queue file is as it was, or it is the output file and
  the export began. -/
  queue : (∀ summary adapter p, r ≠ .ok (.trained summary adapter (some p))) →
    s.disk.entryAt (s₀.disk.locate a.queueFile) = s₀.disk.entryAt (s₀.disk.locate a.queueFile) ∨
      s₀.disk.locate a.queueFile = s₀.disk.locate a.outputFile ∧
        "\nExporting adapter to " ++ a.outputFile ∈ s.printed
  /-- Every file at the output path was there from the start, unless the export began. -/
  output : (∀ b, s.disk.entryAt (s₀.disk.locate a.outputFile) = some (.file b) →
      s₀.disk.entryAt (s₀.disk.locate a.outputFile) = some (.file b)) ∨
    "\nExporting adapter to " ++ a.outputFile ∈ s.printed
  /-- A check leaves the disk as it was. -/
  checked : ∀ records trainable, r = .ok (.checked records trainable) → s.disk = s₀.disk
  /-- An archived queue was archived on request, by a run that exported and inspected its
  adapter, and the queue's contents are at the path the run returns. -/
  archived : ∀ summary adapter p, r = .ok (.trained summary adapter (some p)) →
    a.archiveQueue = true ∧ (s₀.disk.locate a.queueFile ≠ s₀.disk.locate a.outputFile →
      s.disk.entryAt (s₀.disk.locate p) = s₀.disk.entryAt (s₀.disk.locate a.queueFile))

/-- Training has run: the disk differs from the start only below the checkpoint directory,
apart from new directories. -/
def Trained (s : Session) : Prop :=
  Confined s₀.disk s.disk (Below (join a.outputDir "checkpoints") s₀.disk.cwd)

/-- The export has begun: its line is printed, the working directory is the start's, and the
queue file is as it was unless it is the output file. -/
structure Exporting (s : Session) : Prop where
  printed : "\nExporting adapter to " ++ a.outputFile ∈ s.printed
  cwd : s.disk.cwd = s₀.disk.cwd
  queue : s₀.disk.locate a.queueFile ≠ s₀.disk.locate a.outputFile →
    s.disk.entryAt (s₀.disk.locate a.queueFile) = s₀.disk.entryAt (s₀.disk.locate a.queueFile)

/-- The archive step is over, with its result `archived`: without an archive the export's
assertion holds, with one the queue's contents are at the archive path. -/
structure Finishing (archived : Option String) (s : Session) : Prop where
  printed : "\nExporting adapter to " ++ a.outputFile ∈ s.printed
  kept : archived = none → Exporting a s₀ s
  moved : ∀ p, archived = some p → a.archiveQueue = true ∧
    (s₀.disk.locate a.queueFile ≠ s₀.disk.locate a.outputFile →
      s.disk.entryAt (s₀.disk.locate p) = s₀.disk.entryAt (s₀.disk.locate a.queueFile))

variable {a s₀}

theorem stable_untouched : Stable fun s => s.disk = s₀.disk := fun _ _ h hs => h.1.trans hs

theorem stable_trained : Stable (Trained a s₀) := fun s s' h hs => by
  unfold Trained
  rw [h.1]
  exact hs

theorem stable_exporting : Stable (Exporting a s₀) := fun _ _ h hs =>
  ⟨h.2 _ hs.printed, h.1 ▸ hs.cwd, h.1 ▸ hs.queue⟩

theorem stable_finishing (archived : Option String) : Stable (Finishing a s₀ archived) :=
  fun s s' h hs =>
    ⟨h.2 _ hs.printed, fun hn => stable_exporting s s' h (hs.kept hn), h.1 ▸ hs.moved⟩

/-- Nothing written: whatever the result, short of a training, the footprint holds. -/
theorem footprint_of_untouched {r : Except Failure TrainOutcome} {s : Session}
    (h : s.disk = s₀.disk) (hr : ∀ summary adapter archived, r ≠ .ok (.trained summary adapter archived)) :
    Footprint a s₀ r s where
  queue _ := .inl (by rw [h])
  output := .inl fun b hb => by rwa [h] at hb
  checked _ _ _ := h
  archived summary adapter p hp := absurd hp (hr summary adapter (some p))

/-- After the export began, the queue file is as it was, or it is the output file. -/
theorem Exporting.queue_kept {s : Session} (h : Exporting a s₀ s) :
    s.disk.entryAt (s₀.disk.locate a.queueFile) = s₀.disk.entryAt (s₀.disk.locate a.queueFile) ∨
      s₀.disk.locate a.queueFile = s₀.disk.locate a.outputFile ∧
        "\nExporting adapter to " ++ a.outputFile ∈ s.printed := by
  by_cases heq : s₀.disk.locate a.queueFile = s₀.disk.locate a.outputFile
  · exact .inr ⟨heq, h.printed⟩
  · exact .inl (h.queue heq)

/-- A failure once training is over, short of the export, leaves the queue file and the output
file as they were: training wrote below the checkpoint directory only, and neither lies there. -/
theorem footprint_of_trained {s : Session} {b₀ : ByteArray}
    (hfile : s₀.disk.entryAt (s₀.disk.locate a.queueFile) = some (.file b₀))
    (hq : ¬ Below (join a.outputDir "checkpoints") s₀.disk.cwd (s₀.disk.locate a.queueFile))
    (h : Trained a s₀ s) (e : Failure) : Footprint a s₀ (.error e) s where
  queue _ := .inl ((h.entryAt_file hq hfile).trans hfile.symm)
  output := .inl fun _ hb =>
    h.file_of_entryAt (a.outputFile_not_below_checkpoints s₀.disk.cwd) hb
  checked _ _ he := by cases he
  archived _ _ _ he := by cases he

theorem footprint_of_exporting {s : Session} (h : Exporting a s₀ s) (e : Failure) :
    Footprint a s₀ (.error e) s where
  queue _ := h.queue_kept
  output := .inr h.printed
  checked _ _ he := by cases he
  archived _ _ _ he := by cases he

theorem footprint_of_finishing {s : Session} {archived : Option String}
    (h : Finishing a s₀ archived s) (summary : TrainingSummary) (adapter : AdapterStats) :
    Footprint a s₀ (.ok (.trained summary adapter archived)) s where
  queue hn := by
    cases archived with
    | none => exact (h.kept rfl).queue_kept
    | some p => exact absurd rfl (hn summary adapter p)
  output := .inr h.printed
  checked _ _ he := by cases he
  archived _ _ p he := by
    cases he
    exact h.moved p rfl

/-- The walk through a run: until the check every step only prints, reports or reads; then
training, the export and the archive each move the assertion on. -/
theorem triple_run (c : TrainConfig) (host : Host)
    (hq : ¬ Below (join a.outputDir "checkpoints") s₀.disk.cwd (s₀.disk.locate a.queueFile))
    (hstamp : '/' ∉ host.stamp.toList) :
    Triple (fun s => s.disk = s₀.disk) (a.run c host)
      (fun o => Footprint a s₀ (.ok o)) (fun e => Footprint a s₀ (.error e)) := by
  have hU : Stable fun s => s.disk = s₀.disk := stable_untouched
  have hfail : ∀ e s, s.disk = s₀.disk → Footprint a s₀ (.error e) s :=
    fun e s hs => footprint_of_untouched hs (by simp)
  unfold TrainArgs.run
  dsimp only
  refine Triple.disk_bind_of (fun s hs => hs) ?_
  refine Triple.ite (fun _ => Triple.throw_bind fun s hs => hfail _ s hs) fun hqueue => ?_
  obtain ⟨b₀, hb₀⟩ : ∃ b₀, s₀.disk.entryAt (s₀.disk.locate a.queueFile) = some (.file b₀) := by
    revert hqueue
    simp only [isFile, entry?, Bool.not_eq_true', Bool.not_eq_false]
    split <;> simp_all
  -- up to the check, each step keeps the disk, and a failure leaves it untouched
  repeat first
    | refine Triple.keeps_bind (by simp) hU hfail fun _ => ?_
    | refine Triple.jp_ite (by simp) hU hfail fun _ => ?_
  -- a check returns before anything is written
  refine Triple.ite (fun _ => Triple.quiet_bind (by simp) hU fun _ =>
    Triple.pure fun s hs => footprint_of_untouched hs (by simp)) fun _ => ?_
  refine Triple.lift_bind hfail fun trainer htrainer => ?_
  refine Triple.quiet_bind (by simp) hU fun _ => ?_
  -- training writes below the checkpoint directory of the output directory
  have hdir : (trainer.withAdapterConfig (c.lora.toPeftConfig a.baseModel)).outputDir = a.outputDir :=
    LoRATrainer.outputDir_of_new (t := trainer) htrainer
  refine Triple.bind (Triple.onDisk (R := Trained a s₀) (fun s hs => ?_)
    fun e s hs => footprint_of_trained hb₀ hq hs e) fun out => ?_
  · unfold Trained
    rw [← hs, ← hdir]
    exact LoRATrainer.train_confines _ _ _ _ s.disk
  let T := fun s => Trained a s₀ s ∧ "\nExporting adapter to " ++ a.outputFile ∈ s.printed
  have hT : Stable T := fun s s' h hs => ⟨stable_trained s s' h hs.1, h.2 _ hs.2⟩
  refine Triple.quiet_bind (by simp) stable_trained fun _ => ?_
  refine Triple.say_bind T (fun s hs => ⟨hs, Array.mem_push_self⟩) ?_
  refine Triple.quiet_bind (by simp) hT fun _ => ?_
  -- the export writes at the output path only
  refine Triple.bind (Triple.onDisk (R := Exporting a s₀) (fun s hs => ?_)
    fun e s hs => footprint_of_exporting hs e) fun stats => ?_
  · have h := exportAdapter_confines out.2 a.outputFile s.disk
    have hcwd : s.disk.cwd = s₀.disk.cwd := hs.1.cwd
    refine ⟨hs.2, h.cwd.trans hcwd, fun hne => ?_⟩
    rw [h.entryAt_file ?_ (hs.1.entryAt_file hq hb₀), hb₀]
    intro hat
    rw [hcwd] at hat
    exact hne hat
  -- reading the export back keeps the disk, and its failure leaves the export's assertion
  repeat first
    | refine Triple.keeps_bind (by simp) stable_exporting
        (fun e s hs => footprint_of_exporting hs e) fun _ => ?_
  -- the archive, when asked for, comes after the export and its inspection
  refine Triple.ite_bind (R := Finishing a s₀) (fun harch => ?_)
    (fun _ => Triple.pure fun s hs => ⟨hs.printed, fun _ => hs, (fun _ h => by cases h)⟩)
    fun archived => ?_
  · refine Triple.map (Triple.conseq (Triple.archiveQueueFile hstamp) (fun s hs => hs)
      (fun _ _ h => h) fun e s hs => footprint_of_exporting hs e) fun p s' hex => ?_
    obtain ⟨s, hs, hm⟩ := hex
    refine ⟨hm.printed _ hs.printed, (fun h => by cases h), fun p' hp => ?_⟩
    cases hp
    refine ⟨harch, fun hne => ?_⟩
    -- the export kept the queue file, and the archive moved it
    have hloc := locate_eq_of_cwd hs.cwd
    have hkept : s.disk.entryAt (s.disk.locate a.queueFile) = some (.file b₀) := by
      rw [hloc, hs.queue hne, hb₀]
    rw [← hloc, hm.file b₀ hkept, hloc, hb₀]
  repeat refine Triple.quiet_bind (by simp) (stable_finishing archived) fun _ => ?_
  exact Triple.pure fun s hs => footprint_of_finishing hs _ _

/-- **What a training run leaves on the disk.**  For a queue file outside the checkpoint
directory of the output directory, and an archive stamp without a separator (a date and
time written as digits), whatever the run returns: a failure leaves the queue file as
it was (or, when it is the output file itself, the export had begun) and the output file
unwritten until the export begins; a check leaves the disk as it was; and the queue file is
moved only by a run that was asked to archive it and returned its trained adapter, its contents
then at the path it returns. -/
theorem run_footprint (c : TrainConfig) (host : Host)
    (hq : ¬ Below (join a.outputDir "checkpoints") s₀.disk.cwd (s₀.disk.locate a.queueFile))
    (hstamp : '/' ∉ host.stamp.toList) :
    Footprint a s₀ ((a.run c host).run.run s₀).1 ((a.run c host).run.run s₀).2 :=
  Triple.run_of (R := Footprint a s₀) (triple_run c host hq hstamp) rfl

/-- A run on a disk that holds only its queue, asked to archive it. -/
theorem run_footprint_on_lone_queue :
    let a : TrainArgs :=
      { queueFile := "training_queue.jsonl", outputFile := "out/adapter.safetensors",
        baseModel := "model", archiveQueue := true }
    let s₀ : Session := { disk := ⟨[(["training_queue.jsonl"], .file ByteArray.empty)], []⟩ }
    let host : Host :=
      { draws := fun _ _ _ => 0.5, clock := fun _ => "2025-01-01T12:00:00Z",
        hub := fun _ _ => .error "offline", readTokenizer := Tokenizer.readEncoder,
        stamp := "20250101_120000" }
    let run := a.run {} host
    ¬ Below (join a.outputDir "checkpoints") s₀.disk.cwd (s₀.disk.locate a.queueFile) ∧
      '/' ∉ "20250101_120000".toList ∧ Footprint a s₀ (run.run.run s₀).1 (run.run.run s₀).2 := by
  intro a s₀ host run
  have hq : ¬ Below (join a.outputDir "checkpoints") s₀.disk.cwd (s₀.disk.locate a.queueFile) := by
    have hK : resolve s₀.disk.cwd (join a.outputDir "checkpoints") = ["out", "checkpoints"] := by
      decide +kernel
    have hQ : s₀.disk.locate a.queueFile = ["training_queue.jsonl"] := by decide +kernel
    rintro ⟨x, hx⟩
    rw [hK, hQ] at hx
    simpa using hx.length_le
  have hstamp : '/' ∉ "20250101_120000".toList := by decide
  exact ⟨hq, hstamp, run_footprint _ host hq hstamp⟩

end Cli.TrainArgs

end LowRankTuner
