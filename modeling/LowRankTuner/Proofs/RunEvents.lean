import Mathlib
import LowRankTuner.Proofs.Accumulation
/-!
# The events of a training run

What a run returns shows the log it kept and the last checkpoint it wrote, but not the loss
of each micro-batch, nor what each checkpoint save was given.  `LoRATrainer.trainTraced` is
the training loop written out once more, reporting in addition, in order, one event for each
micro-batch with its loss and one for each checkpoint save with the trainer state and the
model it hands to the save.  Each event is reported where the loop computes the loss or calls
the save, and the loop without its events is the training loop itself
(`LoRATrainer.train_eq_trainTraced`), so what is proved of the events of a traced run is
proved of the run.

The events of a loop are gathered by `withEvents`, which runs a step that reports events and
appends them to those reported so far; a loop of such steps, its events dropped, is the loop
of the steps without their events (`foldlM_map_fst`).
-/

namespace LowRankTuner

/-- What a run does, in order, beyond what it returns. -/
inductive RunEvent where
  /-- A micro-batch was absorbed with this loss. -/
  | microBatch (loss : Float32)
  /-- A checkpoint was saved with this trainer state, of this model. -/
  | save (state : TrainerState) (model : CausalLM)

/-- A step that reports events, run after the events reported so far. -/
def withEvents {σ α ε : Type} (f : σ → α → DiskM (σ × List ε)) (acc : σ × List ε) (a : α) :
    DiskM (σ × List ε) := do
  let (s, es) ← f acc.1 a
  pure (s, acc.2 ++ es)

/-- **A loop over a state with a record beside it**, when what each step does to the state
does not read the record, is, on the state, the loop of the steps without the record. -/
theorem foldlM_map_fst {σ α β : Type} {f : σ → α → DiskM σ} {g : σ × β → α → DiskM (σ × β)}
    (H : ∀ s b a, Prod.fst <$> g (s, b) a = f s a) (l : List α) (s : σ) (b : β) :
    Prod.fst <$> l.foldlM g (s, b) = l.foldlM f s := by
  induction l generalizing s b with
  | nil => rfl
  | cons a l ih =>
    rw [List.foldlM_cons, List.foldlM_cons, map_bind, ← H s b a, bind_map_left]
    congr 1
    funext ⟨s', b'⟩
    exact ih s' b'

theorem map_fst_withEvents {σ α ε : Type} (f : σ → α → DiskM (σ × List ε)) (acc : σ × List ε)
    (a : α) : Prod.fst <$> withEvents f acc a = Prod.fst <$> f acc.1 a := by
  simp only [withEvents, bind_pure_comp, Functor.map_map]

namespace LoRATrainer

section Traced

variable (t : LoRATrainer) (dataset : WeightedDataset) (ckpt : CheckpointManager)
  (amb : Ambient)

/-- The progress after a step's log entry: the entry is appended and the window emptied when
the step count asks for one, and nothing changes otherwise. -/
def logged (total : Nat) (p : Progress) (norm : Float32) (lr epochProgress : Float) : Progress :=
  if p.globalStep % t.args.loggingSteps == 0 || p.globalStep == total then
    let mean := (p.windowLoss / natToFloat (max p.windowBatches 1)).toFloat32
    { p with logHistory := p.logHistory ++ [⟨p.globalStep, epochProgress, mean, lr, norm⟩],
             windowLoss := 0, windowBatches := 0 }
  else p

/-- `record`, reporting the save it makes. -/
def recordTraced (total : Nat) (p : Progress) (norm : Float32) (lr epochProgress : Float) :
    DiskM (Progress × List RunEvent) := do
  let gs := p.globalStep
  let p := t.logged total p norm lr epochProgress
  if gs % t.args.saveSteps == 0 || gs == total then
    let state : TrainerState := ⟨gs, total, epochProgress, amb.clock gs, p.logHistory⟩
    let (path, _) ← ckpt.save p.model state
    pure ({ p with lastCheckpoint := some path }, [.save state p.model])
  else pure (p, [])

/-- `applyStep`, reporting the save it makes. -/
def applyStepTraced (batchesPerEpoch total epoch bi : Nat) (p : Progress)
    (grads : List (String × Tensor)) : DiskM (Progress × List RunEvent) :=
  let (p, norm, lr) := t.optimise p grads total
  let epochProgress := natToFloat epoch + natToFloat (bi + 1) / natToFloat batchesPerEpoch
  t.recordTraced ckpt amb total p norm lr epochProgress

/-- `batch`, reporting the micro-batch's loss and the save its step makes. -/
def batchTraced (batchesPerEpoch total epoch : Nat) (p : Progress) (item : List Nat × Nat) :
    DiskM (Progress × List RunEvent) := do
  let (indices, bi) := item
  let (p, grads) ← t.absorb dataset amb epoch p indices
  if !endsStep t.args.gradientAccumulationSteps batchesPerEpoch bi then
    return ({ p with accumulated := some grads }, [.microBatch p.lastLoss])
  let (p', events) ← t.applyStepTraced ckpt amb batchesPerEpoch total epoch bi
    { p with accumulated := none } grads
  return (p', .microBatch p.lastLoss :: events)

/-- `runEpoch`, reporting the events of its micro-batches after those reported so far. -/
def runEpochTraced (sampler : WeightedSampler) (batchesPerEpoch total : Nat)
    (acc : Progress × List RunEvent) (epoch : Nat) : DiskM (Progress × List RunEvent) := do
  let (order, rng) := sampler.sample acc.1.rng
  (chunks t.args.batchSize order).zipIdx.foldlM
    (withEvents (t.batchTraced dataset ckpt amb batchesPerEpoch total epoch))
    ({ acc.1 with rng, accumulated := none }, acc.2)

/-- `train`, reporting the events of the whole run. -/
def trainTraced (model : CausalLM) : DiskM ((TrainingSummary × CausalLM) × List RunEvent) := do
  let args := t.args
  if dataset.isEmpty then throw (.training "training dataset is empty")
  let vars := model.trainableParameters
  if vars.isEmpty then throw (.training "model has no trainable parameters")
  let optimizer := AdamW.new vars ⟨args.learningRate, args.adamBeta1, args.adamBeta2,
    args.adamEpsilon, args.weightDecay⟩
  let ckpt := CheckpointManager.new t.outputDir args.saveTotalLimit t.adapterConfig
  let sampler ← liftExcept dataset.sampler
  let batchesPerEpoch ← liftExcept (args.batchesPerEpoch dataset.len)
  let total ← liftExcept (args.totalSteps dataset.len)
  let start : Progress :=
    { model := model, optimizer := optimizer, rng := StdRng.seedFromU64 args.seed.toUInt64 }
  let (p, events) ← (List.range args.epochs).foldlM
    (t.runEpochTraced dataset ckpt amb sampler batchesPerEpoch total) (start, [])
  let summary : TrainingSummary := {
    globalStep := p.globalStep
    epochs := args.epochs
    trainLoss := (p.runLoss / natToFloat (max p.runBatches 1)).toFloat32
    finalLoss := p.lastLoss
    logHistory := p.logHistory
    lastCheckpoint := p.lastCheckpoint }
  pure ((summary, p.model), events)

end Traced

/-! ## Dropping the events gives the training loop back -/

section Projection

variable {t : LoRATrainer} {dataset : WeightedDataset} {ckpt : CheckpointManager}
  {amb : Ambient}

theorem record_eq_logged (total : Nat) (p : Progress) (norm : Float32) (lr epochProgress : Float) :
    t.record ckpt amb total p norm lr epochProgress =
      if p.globalStep % t.args.saveSteps == 0 || p.globalStep == total then do
        let q := t.logged total p norm lr epochProgress
        let (path, _) ← ckpt.save q.model ⟨p.globalStep, total, epochProgress, amb.clock p.globalStep, q.logHistory⟩
        pure { q with lastCheckpoint := some path }
      else pure (t.logged total p norm lr epochProgress) := rfl

theorem map_fst_recordTraced (total : Nat) (p : Progress) (norm : Float32)
    (lr epochProgress : Float) :
    Prod.fst <$> t.recordTraced ckpt amb total p norm lr epochProgress =
      t.record ckpt amb total p norm lr epochProgress := by
  rw [record_eq_logged]
  unfold recordTraced
  dsimp only
  by_cases h : (p.globalStep % t.args.saveSteps == 0 || p.globalStep == total) = true
  · rw [if_pos h, if_pos h]
    simp only [map_bind, map_pure]
  · rw [if_neg h, if_neg h, map_pure]

theorem map_fst_applyStepTraced (batchesPerEpoch total epoch bi : Nat) (p : Progress)
    (grads : List (String × Tensor)) :
    Prod.fst <$> t.applyStepTraced ckpt amb batchesPerEpoch total epoch bi p grads =
      t.applyStep ckpt amb batchesPerEpoch total epoch bi p grads :=
  map_fst_recordTraced _ _ _ _ _

theorem map_fst_batchTraced (batchesPerEpoch total epoch : Nat) (p : Progress)
    (item : List Nat × Nat) :
    Prod.fst <$> t.batchTraced dataset ckpt amb batchesPerEpoch total epoch p item =
      t.batch dataset ckpt amb batchesPerEpoch total epoch p item := by
  unfold batchTraced batch
  simp only [map_bind]
  congr 1
  funext r
  split
  · simp only [map_pure]
  · simp only [← map_fst_applyStepTraced (t := t), bind_pure_comp, Functor.map_map]

theorem map_fst_runEpochTraced (sampler : WeightedSampler) (batchesPerEpoch total : Nat)
    (p : Progress) (events : List RunEvent) (epoch : Nat) :
    Prod.fst <$> t.runEpochTraced dataset ckpt amb sampler batchesPerEpoch total (p, events) epoch =
      t.runEpoch dataset ckpt sampler amb batchesPerEpoch total p epoch := by
  unfold runEpochTraced runEpoch
  exact foldlM_map_fst (fun q es item => by rw [map_fst_withEvents, map_fst_batchTraced]) _ _ _

/-- **The traced run is the run**: `train` is `trainTraced` with its events dropped. -/
theorem train_eq_trainTraced (model : CausalLM) :
    t.train model dataset amb = Prod.fst <$> t.trainTraced dataset amb model := by
  unfold train trainTraced
  dsimp only
  split
  · rfl
  split
  · rfl
  simp only [map_bind]
  congr 1
  funext sampler
  congr 1
  funext batchesPerEpoch
  congr 1
  funext total
  rw [← foldlM_map_fst (fun p es e => map_fst_runEpochTraced (t := t) sampler batchesPerEpoch total p es e)
    _ _ [], bind_map_left]
  simp only [map_pure]

end Projection

end LoRATrainer

end LowRankTuner
