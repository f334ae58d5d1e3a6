import Mathlib
import LowRankTuner.Proofs.RunEvents
import LowRankTuner.Proofs.StepCadence
import LowRankTuner.Proofs.CheckpointRotation
/-!
# The log and the checkpoints of a training run

A run logs after every `loggingSteps`-th optimiser step and after its last, and saves a
checkpoint after every `saveSteps`-th step and after its last.  This module reads a whole run
against those two cadences: which steps get a log entry and a checkpoint (`dueSteps`), which
micro-batches each entry's loss is the mean of (`windows`), at which fractional epoch each step
is taken (`Cadence.epochAt`), and what each save is handed.

The reading is carried through the loop by an invariant on what the run has done after `k`
micro-batches and `j` steps: `LogTally` for the log and the running statistics, `SaveTally` for
the saves.  Only the part of the progress that these read, its `Ledger`, is looked at, so the
moves of the loop that only touch the optimiser, the generator or the gradient sum keep the
invariant for free.  A micro-batch moves it from `k` to `k + 1` (`Tally.batchTraced`), an epoch
from `e · B` to `(e + 1) · B` (`Tally.runEpochTraced`), and a run from nothing to its end.
-/

namespace LowRankTuner

/-! ## What a run reports -/

namespace RunEvent

/-- The losses of the micro-batches among some events, in order. -/
def losses (evs : List RunEvent) : List Float32 :=
  evs.filterMap fun
    | .microBatch x => some x
    | .save .. => none

/-- The checkpoint saves among some events, in order, each with the state and the model it was
handed. -/
def saves (evs : List RunEvent) : List (TrainerState × CausalLM) :=
  evs.filterMap fun
    | .microBatch _ => none
    | .save st m => some (st, m)

@[simp] theorem losses_nil : losses [] = [] := rfl

@[simp] theorem losses_append (a b : List RunEvent) : losses (a ++ b) = losses a ++ losses b :=
  List.filterMap_append

@[simp] theorem losses_microBatch (x : Float32) : losses [.microBatch x] = [x] := rfl

@[simp] theorem losses_save (st : TrainerState) (m : CausalLM) : losses [.save st m] = [] := rfl

@[simp] theorem saves_nil : saves [] = [] := rfl

@[simp] theorem saves_append (a b : List RunEvent) : saves (a ++ b) = saves a ++ saves b :=
  List.filterMap_append

@[simp] theorem saves_microBatch (x : Float32) : saves [.microBatch x] = [] := rfl

@[simp] theorem saves_save (st : TrainerState) (m : CausalLM) : saves [.save st m] = [(st, m)] :=
  rfl

end RunEvent

/-! ## The statistics, the cadences and the windows -/

/-- The running sum of some losses in double precision, as the loop keeps it. -/
def sumLoss (xs : List Float32) : Float := xs.foldl (fun acc x => acc + x.toFloat) 0

/-- The mean loss of some micro-batches, as the loop reports it. -/
def meanLoss (xs : List Float32) : Float32 :=
  (sumLoss xs / natToFloat (max xs.length 1)).toFloat32

theorem sumLoss_concat (xs : List Float32) (x : Float32) :
    sumLoss (xs ++ [x]) = sumLoss xs + x.toFloat := by
  simp only [sumLoss, List.foldl_append, List.foldl_cons, List.foldl_nil]

/-- The steps among `1, …, j` that are a multiple of `every` or are the step `last`. -/
def dueSteps (every last j : Nat) : List Nat :=
  (List.range' 1 j).filter fun s => s % every == 0 || s == last

/-- The last of them, or `0` when there is none. -/
def lastDue (every last j : Nat) : Nat := (dueSteps every last j).getLast?.getD 0

/-- The consecutive pieces of `xs` between cuts: from `a` to the first cut, then from each cut
to the next. -/
def windows {α : Type} (xs : List α) : Nat → List Nat → List (List α)
  | _, [] => []
  | a, b :: bs => (xs.take b).drop a :: windows xs b bs

section Cadences

variable {every last j s : Nat}

theorem dueSteps_succ (every last j : Nat) :
    dueSteps every last (j + 1) = dueSteps every last j ++
      if (j + 1) % every == 0 || j + 1 == last then [j + 1] else [] := by
  unfold dueSteps
  rw [List.range'_concat, List.filter_append, Nat.one_mul, Nat.add_comm 1 j]
  congr 1
  split <;> simp [*]

theorem mem_dueSteps : s ∈ dueSteps every last j ↔ 1 ≤ s ∧ s ≤ j ∧ (s % every = 0 ∨ s = last) := by
  simp only [dueSteps, List.mem_filter, List.mem_range'_1, Bool.or_eq_true, beq_iff_eq]
  omega

theorem le_of_mem_dueSteps (h : s ∈ dueSteps every last j) : s ≤ j :=
  (mem_dueSteps.1 h).2.1

theorem dueSteps_pairwise : (dueSteps every last j).Pairwise (· < ·) :=
  (List.pairwise_lt_range' (s := 1) (n := j)).filter _

theorem lastDue_succ (every last j : Nat) :
    lastDue every last (j + 1) =
      if (j + 1) % every == 0 || j + 1 == last then j + 1 else lastDue every last j := by
  unfold lastDue
  rw [dueSteps_succ]
  split
  · rw [List.getLast?_concat, Option.getD_some]
  · rw [List.append_nil]

theorem lastDue_le : lastDue every last j ≤ j := by
  induction j with
  | zero => rfl
  | succ j ih =>
    rw [lastDue_succ]
    split <;> omega

theorem dueSteps_getLast? (every : Nat) {last : Nat} (h : 0 < last) :
    (dueSteps every last last).getLast? = some last := by
  obtain ⟨j, rfl⟩ : ∃ j, last = j + 1 := ⟨last - 1, by omega⟩
  rw [dueSteps_succ, if_pos (by simp), List.getLast?_concat]

end Cadences

section Windows

variable {α : Type}

theorem windows_concat (xs : List α) (a : Nat) (cs : List Nat) (b : Nat) :
    windows xs a (cs ++ [b]) = windows xs a cs ++ [(xs.take b).drop (cs.getLast?.getD a)] := by
  induction cs generalizing a with
  | nil => rfl
  | cons c cs ih =>
    simp only [List.cons_append, windows, ih, List.cons_append]
    cases cs <;> rfl

theorem windows_append_of_le (xs ys : List α) (a : Nat) (cs : List Nat)
    (h : ∀ b ∈ cs, b ≤ xs.length) : windows (xs ++ ys) a cs = windows xs a cs := by
  induction cs generalizing a with
  | nil => rfl
  | cons b cs ih =>
    rw [windows, windows, List.take_append_of_le_length (h b (List.mem_cons_self ..)),
      ih b fun b' hb' => h b' (List.mem_cons_of_mem b hb')]

/-- The pieces between cuts in order put back together what lies between the first and the
last. -/
theorem flatten_windows (xs : List α) (a : Nat) (cs : List Nat) (h : (a :: cs).Pairwise (· ≤ ·)) :
    (windows xs a cs).flatten = (xs.take (cs.getLast?.getD a)).drop a := by
  induction cs generalizing a with
  | nil => simp [windows]
  | cons b cs ih =>
    obtain ⟨ha, hrest⟩ := List.pairwise_cons.1 h
    have hb : b ≤ cs.getLast?.getD b := by
      cases hl : cs.getLast? with
      | none => exact le_rfl
      | some z => exact (List.pairwise_cons.1 hrest).1 z (List.mem_of_getLast? hl)
    have hlast : (b :: cs).getLast?.getD a = cs.getLast?.getD b := by
      rw [List.getLast?_cons, Option.getD_some]
    rw [windows, List.flatten_cons, ih b hrest, hlast]
    -- the first piece and the rest meet at `b`
    set ys := xs.take (cs.getLast?.getD b)
    have hys : xs.take b = ys.take b := by rw [List.take_take, Nat.min_eq_left hb]
    have hab : a ≤ b := ha b (List.mem_cons_self ..)
    have hdrop : (ys.drop a).drop (b - a) = ys.drop b := by
      rw [List.drop_drop, Nat.add_sub_cancel' hab]
    rw [hys, List.drop_take, ← hdrop, List.take_append_drop]

/-- Between strictly increasing cuts inside the list, every piece holds an item. -/
theorem windows_ne_nil (xs : List α) (a : Nat) (cs : List Nat) (h : (a :: cs).Pairwise (· < ·))
    (hlen : ∀ b ∈ cs, b ≤ xs.length) : ∀ w ∈ windows xs a cs, w ≠ [] := by
  induction cs generalizing a with
  | nil => simp [windows]
  | cons b cs ih =>
    obtain ⟨ha, hrest⟩ := List.pairwise_cons.1 h
    intro w hw
    rcases List.mem_cons.1 hw with rfl | hw
    · have hab := ha b (List.mem_cons_self ..)
      have hb := hlen b (List.mem_cons_self ..)
      rw [← List.length_pos_iff, List.length_drop, List.length_take]
      omega
    · exact ih b hrest (fun b' hb' => hlen b' (List.mem_cons_of_mem b hb')) w hw

end Windows

/-! ## What the laws read of a run's progress -/

/-- The part of a run's progress that its log and checkpoints are read from. -/
structure Ledger where
  globalStep : Nat
  logHistory : List LogEntry
  lastCheckpoint : Option String
  runLoss : Float
  runBatches : Nat
  windowLoss : Float
  windowBatches : Nat
  model : CausalLM

def Progress.ledger (p : Progress) : Ledger :=
  ⟨p.globalStep, p.logHistory, p.lastCheckpoint, p.runLoss, p.runBatches, p.windowLoss,
    p.windowBatches, p.model⟩

namespace Ledger

/-- The ledger after a micro-batch of loss `x`. -/
def tallied (l : Ledger) (x : Float32) : Ledger :=
  { l with runLoss := l.runLoss + x.toFloat, runBatches := l.runBatches + 1,
           windowLoss := l.windowLoss + x.toFloat, windowBatches := l.windowBatches + 1 }

/-- The ledger after a step's log entry, when the step's count asks for one. -/
def logged (l : Ledger) (every total : Nat) (norm : Float32) (lr epochProgress : Float) : Ledger :=
  if l.globalStep % every == 0 || l.globalStep == total then
    let mean := (l.windowLoss / natToFloat (max l.windowBatches 1)).toFloat32
    { l with logHistory := l.logHistory ++ [⟨l.globalStep, epochProgress, mean, lr, norm⟩],
             windowLoss := 0, windowBatches := 0 }
  else l

theorem logged_logHistory (l : Ledger) (every total : Nat) (norm : Float32)
    (lr epochProgress : Float) : ∃ new, (l.logged every total norm lr epochProgress).logHistory =
      l.logHistory ++ new ∧ ∀ e ∈ new, e.step = l.globalStep := by
  unfold logged
  split
  · exact ⟨_, rfl, by simp⟩
  · exact ⟨[], (List.append_nil _).symm, by simp⟩

variable {l : Ledger} {every total : Nat} {norm : Float32} {lr epochProgress : Float}

@[simp] theorem logged_lastCheckpoint :
    (l.logged every total norm lr epochProgress).lastCheckpoint = l.lastCheckpoint := by
  unfold logged
  split <;> rfl

end Ledger

/-- The directory of the checkpoint of step `s`. -/
def CheckpointManager.pathOf (m : CheckpointManager) (s : Nat) : String :=
  Disk.join m.checkpointDir ("checkpoint-" ++ toString s)

namespace LoRATrainer

open DiskM

variable {t : LoRATrainer} {dataset : WeightedDataset} {ckpt : CheckpointManager}
  {amb : Ambient}

theorem ledger_logged (total : Nat) (q : Progress) (norm : Float32) (lr epochProgress : Float) :
    (t.logged total q norm lr epochProgress).ledger =
      q.ledger.logged t.args.loggingSteps total norm lr epochProgress := by
  unfold logged Ledger.logged Progress.ledger
  dsimp only
  by_cases h : (q.globalStep % t.args.loggingSteps == 0 || q.globalStep == total) = true
  · rw [if_pos h, if_pos h]
  · rw [if_neg h, if_neg h]

/-- A micro-batch's loss goes into the running statistics, and nothing else the laws read
changes. -/
theorem absorb_ledger (epoch : Nat) (p : Progress) (indices : List Nat) :
    (t.absorb dataset amb epoch p indices).Ensures fun r => r.1.ledger = p.ledger.tallied r.1.lastLoss := by
  unfold absorb
  refine ensures_bind_any fun b => ensures_bind_any fun r => ?_
  exact ensures_bind_any fun grads => ensures_pure rfl

theorem optimise_ledger (p : Progress) (grads : List (String × Tensor)) (total : Nat) :
    (t.optimise p grads total).1.ledger =
      { p.ledger with globalStep := p.globalStep + 1, model := (t.optimise p grads total).1.model } :=
  rfl

theorem save_path (model : CausalLM) (state : TrainerState) :
    (ckpt.save model state).Ensures fun r => r.1 = ckpt.pathOf state.globalStep :=
  fun _ _ _ h => (CheckpointManager.save_inv h).1

end LoRATrainer

namespace DiskM

/-- A loop whose step at position `m` moves an invariant from `m` to `m + 1` ends with the
invariant at the length of the list. -/
theorem ensures_foldlM_getElem {σ α : Type} {f : σ → α → DiskM σ} (l : List α)
    (I : Nat → σ → Prop) {s : σ}
    (hf : ∀ m s (hm : m < l.length), I m s → (f s l[m]).Ensures (I (m + 1))) (h0 : I 0 s) :
    (l.foldlM f s).Ensures (I l.length) := by
  induction l generalizing s I with
  | nil => exact ensures_pure h0
  | cons a l ih =>
    rw [List.foldlM_cons]
    refine ensures_bind (hf 0 s (Nat.succ_pos _) h0) fun s' h1 => ?_
    have hrest := ih (fun m => I (m + 1)) (s := s')
      (fun m s hm hs => hf (m + 1) s (Nat.succ_lt_succ hm) hs) h1
    simpa only [List.length_cons] using hrest

end DiskM

/-! ## The invariant of the loop -/

section Tally

variable (t : LoRATrainer) (c : Cadence) (ckpt : CheckpointManager) (amb : Ambient)
  (total : Nat)

/-- The log and the statistics after `k` micro-batches, of losses `xs`, and `j` steps: an entry
for every due step so far, at its fractional epoch, with the mean loss of the micro-batches
since the previous entry; the running sums over all micro-batches and over those since the
last entry. -/
structure LogTally (k j : Nat) (l : Ledger) (xs : List Float32) : Prop where
  consumed_le : c.consumed j ≤ k
  count : xs.length = k
  globalStep : l.globalStep = j
  runLoss : l.runLoss = sumLoss xs
  runBatches : l.runBatches = k
  logSteps : l.logHistory.map LogEntry.step = dueSteps t.args.loggingSteps total j
  logEpochs : l.logHistory.map LogEntry.epoch =
    (dueSteps t.args.loggingSteps total j).map (c.epochAt natToFloat)
  logLosses : l.logHistory.map LogEntry.loss =
    (windows xs 0 ((dueSteps t.args.loggingSteps total j).map c.consumed)).map meanLoss
  windowLoss : l.windowLoss = sumLoss (xs.drop (c.consumed (lastDue t.args.loggingSteps total j)))
  windowBatches : l.windowBatches = k - c.consumed (lastDue t.args.loggingSteps total j)

/-- The saves after `j` steps: one for every due step so far, each handed the state of its step
with the entries logged by then, and the last one handed the current model if it was made at
the current step. -/
structure SaveTally (j : Nat) (l : Ledger) (saves : List (TrainerState × CausalLM)) : Prop where
  saveSteps : saves.map (·.1.globalStep) = dueSteps t.args.saveSteps total j
  saveStates : ∀ x ∈ saves, x.1.maxSteps = total ∧ x.1.epoch = c.epochAt natToFloat x.1.globalStep ∧
    x.1.timestamp = amb.clock x.1.globalStep ∧
    x.1.logHistory = l.logHistory.filter fun e => decide (e.step ≤ x.1.globalStep)
  lastCheckpoint : l.lastCheckpoint = (dueSteps t.args.saveSteps total j).getLast?.map ckpt.pathOf
  lastModel : ∀ x, saves.getLast? = some x → x.1.globalStep = j → x.2 = l.model

/-- What a run has done after `k` micro-batches and `j` steps, read off its ledger and the
events it has reported. -/
def Tally (k j : Nat) (l : Ledger) (evs : List RunEvent) : Prop :=
  LogTally t c total k j l (RunEvent.losses evs) ∧
    SaveTally t c ckpt amb total j l (RunEvent.saves evs)

variable {t c ckpt amb total} {k j : Nat} {l : Ledger} {xs : List Float32}

theorem LogTally.cut_le (h : LogTally t c total k j l xs) :
    ∀ b ∈ (dueSteps t.args.loggingSteps total j).map c.consumed, b ≤ xs.length := by
  intro b hb
  obtain ⟨s, hs, rfl⟩ := List.mem_map.1 hb
  rw [h.count]
  exact (c.consumed_strictMono.monotone (le_of_mem_dueSteps hs)).trans h.consumed_le

theorem LogTally.lastCut_le (h : LogTally t c total k j l xs) :
    c.consumed (lastDue t.args.loggingSteps total j) ≤ xs.length := by
  rw [h.count]
  exact (c.consumed_strictMono.monotone lastDue_le).trans h.consumed_le

theorem getD_getLast?_map_consumed (every last j : Nat) :
    ((dueSteps every last j).map c.consumed).getLast?.getD 0 = c.consumed (lastDue every last j) := by
  rw [List.getLast?_map, ← Cadence.consumed_zero (c := c), Option.getD_map, lastDue]

/-- The mean the loop logs is the mean loss of the micro-batches since the last entry. -/
theorem LogTally.window_mean (h : LogTally t c total k j l xs) :
    meanLoss (xs.drop (c.consumed (lastDue t.args.loggingSteps total j))) =
      (l.windowLoss / natToFloat (max l.windowBatches 1)).toFloat32 := by
  rw [meanLoss, h.windowLoss, h.windowBatches, List.length_drop, h.count]

theorem LogTally.step_le (h : LogTally t c total k j l xs) : ∀ e ∈ l.logHistory, e.step ≤ j := by
  intro e he
  have hs : e.step ∈ dueSteps t.args.loggingSteps total j := by
    rw [← h.logSteps]
    exact List.mem_map_of_mem he
  exact le_of_mem_dueSteps hs

/-- **A micro-batch** adds its loss to both running sums. -/
theorem LogTally.tallied (h : LogTally t c total k j l xs) (x : Float32) :
    LogTally t c total (k + 1) j (l.tallied x) (xs ++ [x]) where
  consumed_le := Nat.le_succ_of_le h.consumed_le
  count := by rw [List.length_append, h.count, List.length_singleton]
  globalStep := h.globalStep
  runLoss := by rw [sumLoss_concat, ← h.runLoss]; rfl
  runBatches := by rw [← h.runBatches]; rfl
  logSteps := h.logSteps
  logEpochs := h.logEpochs
  logLosses := by rw [windows_append_of_le _ _ _ _ h.cut_le]; exact h.logLosses
  windowLoss := by
    rw [List.drop_append_of_le_length h.lastCut_le, sumLoss_concat, ← h.windowLoss]; rfl
  windowBatches := by
    have hcut := h.count ▸ h.lastCut_le
    have hw := h.windowBatches
    show l.windowBatches + 1 = _
    omega

/-- **A step** that the micro-batch count `k` closes gets its log entry when it is due, with
the mean of the window, which then starts afresh. -/
theorem LogTally.logged (h : LogTally t c total k j l xs) (hk : c.consumed (j + 1) = k)
    (m : CausalLM) (norm : Float32) (lr : Float) :
    LogTally t c total k (j + 1) ({ l with globalStep := j + 1, model := m }.logged
      t.args.loggingSteps total norm lr (c.epochAt natToFloat (j + 1))) xs := by
  have hdue := dueSteps_succ t.args.loggingSteps total j
  have hlast := lastDue_succ t.args.loggingSteps total j
  unfold Ledger.logged
  dsimp only
  by_cases hd : ((j + 1) % t.args.loggingSteps == 0 || j + 1 == total) = true
  · -- the entry closes the window at the micro-batch that closes the step
    rw [if_pos hd]
    rw [if_pos hd] at hdue hlast
    exact {
      consumed_le := hk.le
      count := h.count
      globalStep := rfl
      runLoss := h.runLoss
      runBatches := h.runBatches
      logSteps := by simp only [hdue, List.map_append, List.map_cons, List.map_nil, h.logSteps]
      logEpochs := by simp only [hdue, List.map_append, List.map_cons, List.map_nil, h.logEpochs]
      logLosses := by
        simp only [hdue, List.map_append, List.map_cons, List.map_nil, windows_concat,
          getD_getLast?_map_consumed, h.logLosses, hk, List.take_of_length_le h.count.le,
          h.window_mean]
      windowLoss := by rw [hlast, hk, List.drop_eq_nil_of_le h.count.le]; rfl
      windowBatches := by rw [hlast, hk, Nat.sub_self] }
  · rw [if_neg hd]
    rw [if_neg hd, List.append_nil] at hdue
    rw [if_neg hd] at hlast
    exact {
      consumed_le := hk.le
      count := h.count
      globalStep := rfl
      runLoss := h.runLoss
      runBatches := h.runBatches
      logSteps := by rw [hdue]; exact h.logSteps
      logEpochs := by rw [hdue]; exact h.logEpochs
      logLosses := by rw [hdue]; exact h.logLosses
      windowLoss := by rw [hlast]; exact h.windowLoss
      windowBatches := by rw [hlast]; exact h.windowBatches }

theorem LogTally.setCheckpoint (h : LogTally t c total k j l xs) (o : Option String) :
    LogTally t c total k j { l with lastCheckpoint := o } xs :=
  ⟨h.1, h.2, h.3, h.4, h.5, h.6, h.7, h.8, h.9, h.10⟩

variable {saves : List (TrainerState × CausalLM)}

theorem filter_step_le_append {log new : List LogEntry} {s j : Nat} (hs : s ≤ j)
    (hnew : ∀ e ∈ new, j < e.step) :
    (log ++ new).filter (fun e => decide (e.step ≤ s)) = log.filter fun e => decide (e.step ≤ s) := by
  rw [List.filter_append, (List.filter_eq_nil_iff (l := new)).2 fun e he => by
    have := hnew e he
    simp only [decide_eq_true_eq]
    omega, List.append_nil]

theorem SaveTally.step_le (h : SaveTally t c ckpt amb total j l saves) :
    ∀ x ∈ saves, x.1.globalStep ≤ j := by
  intro x hx
  have hs : x.1.globalStep ∈ dueSteps t.args.saveSteps total j := by
    rw [← h.saveSteps]
    exact List.mem_map_of_mem hx
  exact le_of_mem_dueSteps hs

/-- A step that saves nothing keeps what the saves were handed, whatever it logs. -/
theorem SaveTally.advance (h : SaveTally t c ckpt amb total j l saves) (l' : Ledger)
    (hlog : ∃ new, l'.logHistory = l.logHistory ++ new ∧ ∀ e ∈ new, j < e.step)
    (hckpt : l'.lastCheckpoint = l.lastCheckpoint)
    (hnd : ¬((j + 1) % t.args.saveSteps == 0 || j + 1 == total) = true) :
    SaveTally t c ckpt amb total (j + 1) l' saves := by
  have hdue := dueSteps_succ t.args.saveSteps total j
  rw [if_neg hnd, List.append_nil] at hdue
  obtain ⟨new, hl', hnew⟩ := hlog
  refine ⟨by rw [hdue]; exact h.saveSteps, fun x hx => ?_, by rw [hdue, hckpt]; exact h.lastCheckpoint,
    fun x hx hj => ?_⟩
  · obtain ⟨h1, h2, h3, h4⟩ := h.saveStates x hx
    exact ⟨h1, h2, h3, by rw [hl', filter_step_le_append (h.step_le x hx) hnew, h4]⟩
  · have := h.step_le x (List.mem_of_getLast? hx)
    omega

/-- A step that saves hands the save its state, with every entry logged so far, and the model. -/
theorem SaveTally.saved (h : SaveTally t c ckpt amb total j l saves) (l' : Ledger)
    (hlog : ∃ new, l'.logHistory = l.logHistory ++ new ∧ ∀ e ∈ new, j < e.step)
    (hle : ∀ e ∈ l'.logHistory, e.step ≤ j + 1)
    (hd : ((j + 1) % t.args.saveSteps == 0 || j + 1 == total) = true) :
    SaveTally t c ckpt amb total (j + 1) { l' with lastCheckpoint := some (ckpt.pathOf (j + 1)) }
      (saves ++ [(⟨j + 1, total, c.epochAt natToFloat (j + 1), amb.clock (j + 1), l'.logHistory⟩,
        l'.model)]) := by
  have hdue := dueSteps_succ t.args.saveSteps total j
  rw [if_pos hd] at hdue
  obtain ⟨new, hl', hnew⟩ := hlog
  refine ⟨by rw [List.map_append, h.saveSteps, hdue]; rfl, fun x hx => ?_,
    by rw [hdue, List.getLast?_concat]; rfl, fun x hx _ => ?_⟩
  · rcases List.mem_append.1 hx with hx | hx
    · obtain ⟨h1, h2, h3, h4⟩ := h.saveStates x hx
      exact ⟨h1, h2, h3, by rw [hl', filter_step_le_append (h.step_le x hx) hnew, h4]⟩
    · -- the new save holds every entry, all of them logged by its step
      rw [List.mem_singleton] at hx
      subst hx
      exact ⟨rfl, rfl, rfl, (List.filter_eq_self.2 fun e he => decide_eq_true (hle e he)).symm⟩
  · rw [List.getLast?_concat, Option.some_inj] at hx
    subst hx
    rfl

theorem SaveTally.tallied (h : SaveTally t c ckpt amb total j l saves) (x : Float32) :
    SaveTally t c ckpt amb total j (l.tallied x) saves :=
  ⟨h.1, h.2, h.3, h.4⟩

variable {evs : List RunEvent}

open DiskM in
/-- **The log entry and checkpoint of a step.**  The step that takes the count to `j + 1`,
closed by micro-batch `k`, logs and saves as its count asks, at its fractional epoch. -/
theorem Tally.recordTraced (h : Tally t c ckpt amb total k j l evs)
    (hk : c.consumed (j + 1) = k) (q : Progress)
    (hq : q.ledger = { l with globalStep := j + 1, model := q.model }) (norm : Float32) (lr : Float) :
    (t.recordTraced ckpt amb total q norm lr (c.epochAt natToFloat (j + 1))).Ensures
      fun r => Tally t c ckpt amb total k (j + 1) r.1.ledger (evs ++ r.2) := by
  obtain ⟨hl, hs⟩ := h
  -- the ledger once the step's entry, if any, is in
  have hl' : (t.logged total q norm lr (c.epochAt natToFloat (j + 1))).ledger =
      { l with globalStep := j + 1, model := q.model }.logged t.args.loggingSteps total norm lr
        (c.epochAt natToFloat (j + 1)) := by
    rw [LoRATrainer.ledger_logged, hq]
  have hlog := hl.logged hk q.model norm lr
  rw [← hl'] at hlog
  have hnew : ∃ new, (t.logged total q norm lr (c.epochAt natToFloat (j + 1))).ledger.logHistory =
      l.logHistory ++ new ∧ ∀ e ∈ new, j < e.step := by
    obtain ⟨new, hh, hstep⟩ := Ledger.logged_logHistory { l with globalStep := j + 1, model := q.model }
      t.args.loggingSteps total norm lr (c.epochAt natToFloat (j + 1))
    refine ⟨new, by rw [hl', hh], fun e he => ?_⟩
    rw [hstep e he]
    exact Nat.lt_succ_self j
  have hgs : q.globalStep = j + 1 := congrArg Ledger.globalStep hq
  unfold LoRATrainer.recordTraced
  dsimp only
  rw [hgs]
  by_cases hd : ((j + 1) % t.args.saveSteps == 0 || j + 1 == total) = true
  · rw [if_pos hd]
    refine ensures_bind (LoRATrainer.save_path _ _) fun r hr => ensures_pure ⟨?_, ?_⟩
    · rw [RunEvent.losses_append, RunEvent.losses_save, List.append_nil]
      exact hlog.setCheckpoint _
    · rw [RunEvent.saves_append, RunEvent.saves_save, hr]
      exact hs.saved _ hnew hlog.step_le hd
  · rw [if_neg hd]
    refine ensures_pure ?_
    rw [List.append_nil]
    exact ⟨hlog, hs.advance _ hnew (by rw [hl', Ledger.logged_lastCheckpoint]) hd⟩

theorem Tally.tallied (h : Tally t c ckpt amb total k j l evs) (x : Float32) :
    Tally t c ckpt amb total (k + 1) j (l.tallied x) (evs ++ [.microBatch x]) := by
  refine ⟨?_, ?_⟩
  · rw [RunEvent.losses_append, RunEvent.losses_microBatch]
    exact h.1.tallied x
  · rw [RunEvent.saves_append, RunEvent.saves_microBatch, List.append_nil]
    exact h.2.tallied x

open DiskM in
/-- An optimiser step closed by micro-batch `bi` of epoch `e` is taken at the fractional epoch
of step `j + 1`, then logged and saved as due. -/
theorem Tally.applyStepTraced {e bi : Nat} (p : Progress)
    (h : Tally t c ckpt amb total k j p.ledger evs) (hk : c.consumed (j + 1) = k)
    (hep : c.epochAt natToFloat (j + 1) = natToFloat e + natToFloat (bi + 1) / natToFloat c.batches)
    (grads : List (String × Tensor)) :
    (t.applyStepTraced ckpt amb c.batches total e bi p grads).Ensures fun r =>
      Tally t c ckpt amb total k (j + 1) r.1.ledger (evs ++ r.2) := by
  unfold LoRATrainer.applyStepTraced
  rcases hopt : t.optimise p grads total with ⟨q, norm, lr⟩
  dsimp only
  -- the step moves the count and the adapters, and nothing else that the laws read
  have hq : q.ledger = { p.ledger with globalStep := j + 1, model := q.model } := by
    have hopt' := LoRATrainer.optimise_ledger (t := t) p grads total
    have hg : p.globalStep = j := h.1.globalStep
    rw [hopt] at hopt'
    rw [hopt', ← hg]
  rw [← hep]
  exact Tally.recordTraced h hk q hq norm lr

open DiskM in
/-- **One micro-batch**, the `i`-th of epoch `e`, takes the invariant from the micro-batches
before it to those up to it: its loss is tallied, and when it closes a step, the step is logged
and saved as due. -/
theorem Tally.batchTraced {e i : Nat} (hi : i < c.batches)
    (hgas : t.args.gradientAccumulationSteps = c.accum) (p : Progress)
    (h : Tally t c ckpt amb total (e * c.batches + i) (c.stepsAfter (e * c.batches + i))
      p.ledger evs) (indices : List Nat) :
    (t.batchTraced dataset ckpt amb c.batches total e p (indices, i)).Ensures fun r =>
      Tally t c ckpt amb total (e * c.batches + i + 1) (c.stepsAfter (e * c.batches + i + 1))
        r.1.ledger (evs ++ r.2) := by
  have hclose : c.closes (e * c.batches + i) =
      LoRATrainer.endsStep t.args.gradientAccumulationSteps c.batches i := by
    rw [Cadence.closes_mul_add e hi, hgas]
  unfold LoRATrainer.batchTraced
  dsimp only
  refine ensures_bind (LoRATrainer.absorb_ledger e p indices) fun ⟨p₁, grads⟩ hr => ?_
  have h₁ := h.tallied p₁.lastLoss
  rw [← hr] at h₁
  split
  · -- the micro-batch only adds to the gradient sum
    rename_i hnot
    have hnot' : c.closes (e * c.batches + i) = false := by
      rw [hclose]
      simpa using hnot
    have hsucc : c.stepsAfter (e * c.batches + i + 1) = c.stepsAfter (e * c.batches + i) := by
      simp [Cadence.stepsAfter_succ, hnot']
    refine ensures_pure ?_
    rw [hsucc]
    exact h₁
  · -- the micro-batch closes a step
    rename_i hend
    have hend' : c.closes (e * c.batches + i) = true := by
      rw [hclose]
      simpa using hend
    have hsucc : c.stepsAfter (e * c.batches + i + 1) = c.stepsAfter (e * c.batches + i) + 1 := by
      rw [Cadence.stepsAfter_succ, if_pos hend']
    have hep : c.epochAt natToFloat (c.stepsAfter (e * c.batches + i) + 1) =
        natToFloat e + natToFloat (i + 1) / natToFloat c.batches := by
      rw [Cadence.epochAt_closing natToFloat hend', Nat.mul_comm e, Nat.mul_add_div c.batches_pos,
        Nat.div_eq_of_lt hi, Nat.add_zero, Nat.mul_add_mod, Nat.mod_eq_of_lt hi]
    refine ensures_bind (Tally.applyStepTraced { p₁ with accumulated := none } h₁
      (Cadence.consumed_closing hend') hep grads) fun ⟨p', events⟩ hr' => ensures_pure ?_
    rw [hsucc, ← List.singleton_append, ← List.append_assoc]
    exact hr'

open DiskM in
/-- **One epoch** takes the invariant across its micro-batches, from the steps of the epochs
before it to those up to it. -/
theorem Tally.runEpochTraced (hgas : t.args.gradientAccumulationSteps = c.accum)
    (sampler : WeightedSampler)
    (hB : ∀ r, (chunks t.args.batchSize (sampler.sample r).1).length = c.batches)
    (e : Nat) (p : Progress) (evs : List RunEvent)
    (h : Tally t c ckpt amb total (e * c.batches) (e * c.perEpoch) p.ledger evs) :
    (t.runEpochTraced dataset ckpt amb sampler c.batches total (p, evs) e).Ensures fun r =>
      Tally t c ckpt amb total ((e + 1) * c.batches) ((e + 1) * c.perEpoch) r.1.ledger r.2 := by
  unfold LoRATrainer.runEpochTraced
  have hlen := hB p.rng
  rcases hdraw : sampler.sample p.rng with ⟨order, rng⟩
  rw [hdraw] at hlen
  dsimp only
  -- after `m` micro-batches of the epoch, the invariant holds at `e · B + m`
  refine (ensures_foldlM_getElem (chunks t.args.batchSize order).zipIdx
    (fun m acc => Tally t c ckpt amb total (e * c.batches + m)
      (c.stepsAfter (e * c.batches + m)) acc.1.ledger acc.2)
    (fun m acc hm hacc => ?_) ?_).mono fun r hr => ?_
  · rw [List.length_zipIdx, hlen] at hm
    rw [List.getElem_zipIdx, Nat.zero_add]
    exact ensures_bind (Tally.batchTraced hm hgas acc.1 hacc _) fun ⟨q, es⟩ hq => ensures_pure hq
  · rw [Nat.add_zero, Cadence.stepsAfter_epochs]
    exact h
  · rw [List.length_zipIdx, hlen, ← Nat.succ_mul, Cadence.stepsAfter_epochs] at hr
    exact hr

theorem Tally.start (m : CausalLM) :
    Tally t c ckpt amb total 0 0 ⟨0, [], none, 0, 0, 0, 0, m⟩ [] :=
  ⟨⟨by rw [Cadence.consumed_zero], rfl, rfl, rfl, rfl, rfl, rfl, rfl,
      by rw [RunEvent.losses_nil, List.drop_nil]; rfl, (Nat.zero_sub _).symm⟩,
    ⟨rfl, fun x hx => absurd hx List.not_mem_nil, rfl, fun x hx => absurd hx (by simp)⟩⟩

theorem cuts_pairwise (every last j : Nat) :
    (0 :: (dueSteps every last j).map c.consumed).Pairwise (· < ·) := by
  refine List.pairwise_cons.2 ⟨fun b hb => ?_, ?_⟩
  · obtain ⟨s, hs, rfl⟩ := List.mem_map.1 hb
    have := c.consumed_strictMono (mem_dueSteps.1 hs).1
    rwa [Cadence.consumed_zero] at this
  · exact dueSteps_pairwise.map _ fun _ _ h => c.consumed_strictMono h

end Tally

/-! ## A whole run -/

/-- What a run of `t`, over micro-batches of cadence `c` and with `N` steps, reports when it
returns `r`: the summary and model in `r.1`, the events in `r.2`. -/
structure ScheduledRun (t : LoRATrainer) (c : Cadence) (amb : Ambient) (N : Nat)
    (r : (TrainingSummary × CausalLM) × List RunEvent) : Prop where
  /-- Every epoch runs all its micro-batches. -/
  microBatches : (RunEvent.losses r.2).length = t.args.epochs * c.batches
  /-- The training loss is the mean over all micro-batches. -/
  trainLoss : r.1.1.trainLoss = meanLoss (RunEvent.losses r.2)
  /-- One entry for every multiple of `loggingSteps` and for the last step, in order. -/
  logSteps : r.1.1.logHistory.map LogEntry.step = dueSteps t.args.loggingSteps N N
  /-- Each entry at the fractional epoch of its step. -/
  logEpochs : r.1.1.logHistory.map LogEntry.epoch =
    (dueSteps t.args.loggingSteps N N).map (c.epochAt natToFloat)
  /-- Each entry with the mean loss of its window: the micro-batches after the previous entry's
  step, up to its own. -/
  logLosses : r.1.1.logHistory.map LogEntry.loss =
    (windows (RunEvent.losses r.2) 0 ((dueSteps t.args.loggingSteps N N).map c.consumed)).map meanLoss
  /-- The windows cover the run's micro-batches, in order. -/
  windows_flatten :
    (windows (RunEvent.losses r.2) 0 ((dueSteps t.args.loggingSteps N N).map c.consumed)).flatten =
      RunEvent.losses r.2
  windows_ne_nil :
    ∀ w ∈ windows (RunEvent.losses r.2) 0 ((dueSteps t.args.loggingSteps N N).map c.consumed), w ≠ []
  /-- One save for every multiple of `saveSteps` and for the last step, in order. -/
  saveSteps : (RunEvent.saves r.2).map (·.1.globalStep) = dueSteps t.args.saveSteps N N
  /-- Each save handed its step, the step count, the epoch, the clock's reading at its step and
  the entries so far. -/
  saveStates : ∀ x ∈ RunEvent.saves r.2, x.1.maxSteps = N ∧
    x.1.epoch = c.epochAt natToFloat x.1.globalStep ∧ x.1.timestamp = amb.clock x.1.globalStep ∧
    x.1.logHistory = r.1.1.logHistory.filter fun e => decide (e.step ≤ x.1.globalStep)
  /-- The last checkpoint reported is the directory of the last step. -/
  lastCheckpoint : r.1.1.lastCheckpoint =
    some ((CheckpointManager.new t.outputDir t.args.saveTotalLimit t.adapterConfig).pathOf N)
  /-- The last save is of the last step, handed the model the run returns. -/
  lastSave : ∃ st, (RunEvent.saves r.2).getLast? = some (st, r.1.2) ∧ st.globalStep = N

namespace LoRATrainer

open DiskM

variable {t : LoRATrainer} {c : Cadence} {amb : Ambient}

theorem totalSteps_of_cadence {dataset : WeightedDataset} (hv : t.args.validate = .ok ())
    (hB : c.batches = (dataset.len + t.args.batchSize - 1) / t.args.batchSize)
    (hg : c.accum = t.args.gradientAccumulationSteps) (hN : t.args.epochs * c.perEpoch < sizeModulus) :
    t.args.totalSteps dataset.len = .ok (t.args.epochs * c.perEpoch) := by
  obtain ⟨-, hb, hgas, -⟩ := validate_counts_pos hv
  rw [totalSteps_of_ne_zero _ (Nat.ne_of_gt hb) (Nat.ne_of_gt hgas), ← hB, ← hg, Nat.mul_comm]
  exact congrArg Except.ok (Nat.mod_eq_of_lt hN)

theorem scheduledRun_of_tally {N : Nat} (hN : 0 < N) (p : Progress) (evs : List RunEvent)
    (h : Tally t c (CheckpointManager.new t.outputDir t.args.saveTotalLimit t.adapterConfig)
      amb N (t.args.epochs * c.batches) N p.ledger evs)
    (hcount : c.consumed N = t.args.epochs * c.batches) :
    ScheduledRun t c amb N
      (({ globalStep := p.globalStep, epochs := t.args.epochs,
          trainLoss := (p.runLoss / natToFloat (max p.runBatches 1)).toFloat32,
          finalLoss := p.lastLoss, logHistory := p.logHistory,
          lastCheckpoint := p.lastCheckpoint }, p.model), evs) := by
  obtain ⟨hl, hs⟩ := h
  have hlast : lastDue t.args.loggingSteps N N = N := by
    rw [lastDue, dueSteps_getLast? _ hN, Option.getD_some]
  have hsaves : ((RunEvent.saves evs).map (·.1.globalStep)).getLast? = some N := by
    rw [hs.saveSteps, dueSteps_getLast? _ hN]
  rw [List.getLast?_map, Option.map_eq_some_iff] at hsaves
  obtain ⟨x, hx, hxN⟩ := hsaves
  refine ⟨hl.count, ?_, hl.logSteps, hl.logEpochs, hl.logLosses, ?_,
    windows_ne_nil _ _ _ (cuts_pairwise _ _ _) hl.cut_le, hs.saveSteps, hs.saveStates, ?_,
    ⟨x.1, ?_, hxN⟩⟩
  · have hrl : p.runLoss = sumLoss (RunEvent.losses evs) := hl.runLoss
    have hrb : p.runBatches = t.args.epochs * c.batches := hl.runBatches
    show (p.runLoss / natToFloat (max p.runBatches 1)).toFloat32 = meanLoss (RunEvent.losses evs)
    rw [meanLoss, hrl, hrb, hl.count]
  · rw [flatten_windows _ _ _ ((cuts_pairwise _ _ _).imp le_of_lt), getD_getLast?_map_consumed,
      hlast, hcount, ← hl.count, List.take_length, List.drop_zero]
  · have hlc : p.lastCheckpoint = _ := hs.lastCheckpoint
    show p.lastCheckpoint = _
    rw [hlc, dueSteps_getLast? _ hN]
    rfl
  · rw [hx]
    exact congrArg some (Prod.ext rfl (hs.lastModel x hx hxN))

/-- Every run of the traced loop that returns follows `ScheduledRun`: the invariant carried
from the empty start through every epoch. -/
theorem trainTraced_scheduled (model : CausalLM) (dataset : WeightedDataset)
    (hv : t.args.validate = .ok ())
    (hB : c.batches = (dataset.len + t.args.batchSize - 1) / t.args.batchSize)
    (hg : c.accum = t.args.gradientAccumulationSteps)
    (hN : t.args.epochs * c.perEpoch < sizeModulus) :
    (t.trainTraced dataset amb model).Ensures
      (ScheduledRun t c amb (t.args.epochs * c.perEpoch)) := by
  obtain ⟨hE, hb, -, -⟩ := validate_counts_pos hv
  unfold trainTraced
  dsimp only
  split
  · exact ensures_throw_bind
  split
  · exact ensures_throw_bind
  refine ensures_bind (ensures_liftExcept fun s hs => WeightedDataset.sampler_numSamples hs)
    fun sampler hn => ?_
  refine ensures_bind (ensures_liftExcept fun B hB' => (divCeil_eq_ok.mp hB').2) fun B hB' => ?_
  refine ensures_bind (ensures_liftExcept fun total ht => ht) fun total htotal => ?_
  -- the epochs' micro-batches and the planned total are those of the cadence
  have hBc : B = c.batches := hB'.trans hB.symm
  have htot : total = t.args.epochs * c.perEpoch := by
    rw [totalSteps_of_cadence hv hB hg hN] at htotal
    cases htotal
    rfl
  subst hBc htot
  have hchunks : ∀ r, (chunks t.args.batchSize (sampler.sample r).1).length = c.batches := by
    intro r
    rw [length_chunks, WeightedSampler.length_sample, hn, hB]
  -- after `e` epochs, the invariant holds at `e · B` micro-batches and `e · S` steps
  refine ensures_bind (ensures_foldlM_getElem (List.range t.args.epochs)
    (fun e acc => Tally t c (CheckpointManager.new t.outputDir t.args.saveTotalLimit t.adapterConfig)
      amb (t.args.epochs * c.perEpoch) (e * c.batches) (e * c.perEpoch) acc.1.ledger acc.2)
    (fun e acc he hacc => ?_) ?_) fun ⟨p, evs⟩ hp => ensures_pure ?_
  · rw [List.getElem_range]
    exact Tally.runEpochTraced hg.symm sampler hchunks e acc.1 acc.2 hacc
  · rw [Nat.zero_mul, Nat.zero_mul]
    exact Tally.start model
  · rw [List.length_range] at hp
    exact scheduledRun_of_tally (Nat.mul_pos hE c.perEpoch_pos) p evs hp (Cadence.consumed_epochs _)

/-- **The log and the checkpoints of a training run.**  Take hyperparameters that pass
validation and a dataset whose epochs have `c.batches` micro-batches, `c.accum` to a step, so
that a run takes `N = epochs · S` steps, and let `N` fit in 64 bits.  The planned total is
`N`; the run is the traced loop with its events dropped, and every run that returns logs and
saves as `ScheduledRun` says, whatever dropout draws and clock readings `amb` supplies, each
save carrying the clock's reading at its own step.  Read exactly, the fractional epochs of the steps increase
strictly, and the last step is taken at epoch `epochs`. -/
theorem train_logs_and_checkpoints_on_schedule (t : LoRATrainer) (model : CausalLM)
    (dataset : WeightedDataset) (amb : Ambient) (c : Cadence)
    (hv : t.args.validate = .ok ())
    (hB : c.batches = (dataset.len + t.args.batchSize - 1) / t.args.batchSize)
    (hg : c.accum = t.args.gradientAccumulationSteps)
    (hN : t.args.epochs * c.perEpoch < sizeModulus) :
    t.args.totalSteps dataset.len = .ok (t.args.epochs * c.perEpoch) ∧
    t.train model dataset amb = Prod.fst <$> t.trainTraced dataset amb model ∧
    (t.trainTraced dataset amb model).Ensures
      (ScheduledRun t c amb (t.args.epochs * c.perEpoch)) ∧
    StrictMonoOn (c.epochAt fun n => (n : ℚ)) (Set.Ici 1) ∧
    c.epochAt (fun n => (n : ℚ)) (t.args.epochs * c.perEpoch) = t.args.epochs :=
  ⟨totalSteps_of_cadence hv hB hg hN, train_eq_trainTraced model,
    trainTraced_scheduled model dataset hv hB hg hN, Cadence.epochAt_exact_strictMonoOn,
    Cadence.epochAt_exact_epochs (validate_counts_pos hv).1⟩

/-- The log and checkpoints of a run at the default hyperparameters, on one example. -/
theorem train_logs_and_checkpoints_on_schedule_at_defaults :
    let t : LoRATrainer := ⟨{}, "out", none⟩
    let dataset : WeightedDataset := ⟨[TokenizedExample.ofTokenIds [1, 2] 2 0], [1.0], 2, 0⟩
    let config : ModelConfig :=
      { vocabSize := 3, hiddenSize := 1, intermediateSize := 1, numHiddenLayers := 0
        numAttentionHeads := 1 }
    let model : CausalLM := ⟨config, {}, PrecisionConfig.ofMode .fullSingle,
      Tensor.zeros .f32 [3, 1], [], ⟨Tensor.zeros .f32 [1], 1e-6⟩, none, []⟩
    let amb : Ambient := ⟨fun _ _ _ => 0.5, fun _ => "1970-01-01T00:00:00Z"⟩
    let c : Cadence := ⟨1, 1, Nat.one_pos, Nat.one_pos⟩
    t.args.validate = .ok () ∧
    c.batches = (dataset.len + t.args.batchSize - 1) / t.args.batchSize ∧
    c.accum = t.args.gradientAccumulationSteps ∧ t.args.epochs * c.perEpoch < sizeModulus ∧
    (t.args.totalSteps dataset.len = .ok (t.args.epochs * c.perEpoch) ∧
    t.train model dataset amb =
      Prod.fst <$> t.trainTraced dataset amb model ∧
    (t.trainTraced dataset amb model).Ensures
      (ScheduledRun t c amb (t.args.epochs * c.perEpoch)) ∧
    StrictMonoOn (c.epochAt fun n => (n : ℚ)) (Set.Ici 1) ∧
    c.epochAt (fun n => (n : ℚ)) (t.args.epochs * c.perEpoch) = t.args.epochs) :=
  ⟨rfl, rfl, rfl, by decide,
    train_logs_and_checkpoints_on_schedule _ _ _ _ _ rfl rfl rfl (by decide)⟩

end LoRATrainer

theorem two_le_countP {α : Type} {l : List α} {p : α → Bool} {a b : α} (ha : a ∈ l) (hb : b ∈ l) (hab : a ≠ b) (hpa : p a = true) (hpb : p b = true) :
    2 ≤ l.countP p := by
  rw [List.countP_eq_length_filter]
  have hpair : [a, b].Nodup := List.nodup_cons.2 ⟨by simpa using hab, List.nodup_singleton b⟩
  have hsub : [a, b] ⊆ l.filter p := by
    intro x hx
    rcases List.mem_pair.1 hx with rfl | rfl
    · exact List.mem_filter.2 ⟨ha, hpa⟩
    · exact List.mem_filter.2 ⟨hb, hpb⟩
  exact (hpair.subperm hsub).length_le

open Disk CheckpointManager in
/-- The checkpoint a run reports last need not be on disk when it returns: the save of the
last step rotates the checkpoints, and checkpoints of larger steps left by an earlier run
outnumber the new one.  Keeping two, the last step of a one-step run, beside a stale
`checkpoint-100` and `checkpoint-101`, reports `out/checkpoints/checkpoint-1` and leaves no
such directory. -/
theorem last_checkpoint_removed_beside_stale_ones :
    let t : LoRATrainer := ⟨{}, "out", none⟩
    let ckpt := CheckpointManager.new t.outputDir t.args.saveTotalLimit t.adapterConfig
    let d : Disk := ⟨[(["out"], .dir), (["out", "checkpoints"], .dir),
      (["out", "checkpoints", "checkpoint-100"], .dir),
      (["out", "checkpoints", "checkpoint-101"], .dir)], []⟩
    let config : ModelConfig :=
      { vocabSize := 3, hiddenSize := 1, intermediateSize := 1, numHiddenLayers := 0
        numAttentionHeads := 1 }
    let model : CausalLM := ⟨config, {}, PrecisionConfig.ofMode .fullSingle,
      Tensor.zeros .f32 [3, 1], [], ⟨Tensor.zeros .f32 [1], 1e-6⟩, none, []⟩
    let p : Progress :=
      { model, optimizer := AdamW.new [] ⟨1e-4, 0.9, 0.999, 1e-8, 0⟩,
        rng := StdRng.seedFromU64 42, globalStep := 1 }
    let amb : Ambient := ⟨fun _ _ _ => 0.5, fun _ => "1970-01-01T00:00:00Z"⟩
    ∃ p' d', (t.record ckpt amb 1 p 0 0 1).run.run d = (.ok p', d') ∧
      p'.lastCheckpoint = some "out/checkpoints/checkpoint-1" ∧
      d'.entryAt (d'.locate "out/checkpoints/checkpoint-1") = none := by
  intro t ckpt d config model p amb
  have hwf : d.WellFormed := ⟨by decide⟩
  have hpath : ckpt.pathOf 1 = "out/checkpoints/checkpoint-1" := by decide +kernel
  have hloc : d.locate (ckpt.pathOf 1) = ["out", "checkpoints", "checkpoint-1"] := by decide +kernel
  -- the step is the last, so it saves
  let q := t.logged 1 p 0 0 1
  let state : TrainerState := ⟨1, 1, 1, amb.clock 1, q.logHistory⟩
  have hrec : t.record ckpt amb 1 p 0 0 1 = (do
      let saved ← ckpt.save q.model state
      pure { q with lastCheckpoint := some saved.1 }) := by
    rw [LoRATrainer.record_eq_logged, if_pos (by decide)]
  obtain ⟨r, d', h⟩ : ∃ r d', (ckpt.save q.model state).run.run d = (.ok r, d') :=
    save_ok (fun k' _ b => entryAt_ne_file (by simp [d]) k' b)
      (fun f _ => by rw [show Disk.join ckpt.checkpointDir ("checkpoint-" ++ toString state.globalStep) =
        ckpt.pathOf 1 from rfl, hloc]; simp [d, entryAt])
  obtain ⟨hr, dw, hs, rfl⟩ := save_inv h
  refine ⟨_, _, by rw [hrec, DiskM.run_bind_of_ok h]; rfl, by rw [hr]; exact congrArg some hpath, ?_⟩
  -- after the clean-up, nothing is left under the new checkpoint's directory
  have hnew : r.1 = "out/checkpoints/checkpoint-1" := hr.trans hpath
  obtain ⟨cs, hl, hsort, -, hmem⟩ := list_spec (hs.wf hwf) (checkpointDir_dir hs)
  obtain ⟨hR, -, -, -⟩ := cleanup_spec (hs.wf hwf) (checkpointDir_dir hs) hl
  have hlisted : ∀ c, c ∈ cs ↔ (c = ⟨1, r.1⟩ ∧ 1 < 2 ^ 64) ∨ (ckpt.Listed d c ∧ c.path ≠ r.1) :=
    fun c => by rw [hmem, listed_after_write hs, hr]
  have hK : d.locate ckpt.checkpointDir = ["out", "checkpoints"] := by decide +kernel
  -- the two stale checkpoints are listed beside the new one, and outnumber it
  have h100 : (⟨100, "out/checkpoints/checkpoint-100"⟩ : CheckpointInfo) ∈ cs :=
    (hlisted _).2 (.inr ⟨⟨"checkpoint-100", by decide +kernel, by decide +kernel,
      by rw [hK]; rfl⟩, by rw [hnew]; decide⟩)
  have h101 : (⟨101, "out/checkpoints/checkpoint-101"⟩ : CheckpointInfo) ∈ cs :=
    (hlisted _).2 (.inr ⟨⟨"checkpoint-101", by decide +kernel, by decide +kernel,
      by rw [hK]; rfl⟩, by rw [hnew]; decide⟩)
  have hcount : ckpt.maxCheckpoints ≤ cs.countP fun c => decide (1 < c.step) :=
    two_le_countP h100 h101 (fun h => absurd (congrArg CheckpointInfo.step h) (by decide))
      (by decide) (by decide)
  have hw : (⟨1, r.1⟩ : CheckpointInfo) ∈ cs := (hlisted _).2 (.inl ⟨rfl, by decide⟩)
  have hgone : (⟨1, r.1⟩ : CheckpointInfo) ∈ cs.take (ckpt.excess cs.length) := by
    rw [← List.take_append_drop (ckpt.excess cs.length) cs] at hw
    exact (List.mem_append.1 hw).resolve_right (not_mem_drop_excess hsort (by decide) hcount)
  have hne : dw.locate r.1 ≠ [] := by
    rw [hs.locate_eq, hr]
    show d.locate (ckpt.pathOf 1) ≠ []
    rw [hloc]
    exact List.cons_ne_nil _ _
  rw [hR.entryAt, locate_eq_of_cwd hR.cwd, ← hnew, if_pos ⟨hne, _, hgone, List.prefix_refl _⟩]

end LowRankTuner
