import LowRankTuner.Training.Loss
import LowRankTuner.Training.Optimizer
import LowRankTuner.Training.Checkpoint
import LowRankTuner.Training.Arguments
/-!
# The training loop

A run trains a model's adapters on a weighted dataset for a number of epochs.  Each epoch
draws a fresh sample order from the dataset's sampler and cuts it into micro-batches of
`batchSize`; each micro-batch's loss, divided by the accumulation count, adds its
gradients to those gathered since the last step.  Every `gradientAccumulationSteps`
micro-batches, and at the end of every epoch, the gathered gradients are clipped to
`maxGradNorm` and AdamW takes a step at the scheduled learning rate.

Every `loggingSteps` steps, and at the last step, the mean loss of the micro-batches since
the previous log entry is logged with the step's learning rate, gradient norm and
fractional epoch; every `saveSteps` steps, and at the last step, a checkpoint is saved.
A loss that is not finite stops the run.

A run reads two things from outside: the dropout draws of each micro-batch's forward pass,
which an unseeded source makes and which the run takes by the micro-batch's index in the run,
and the clock, read when a step saves a checkpoint and taken by the step's number.
-/

namespace LowRankTuner

/-- The quiet NaN of single precision. -/
def nan32 : Float32 := float32OfWord 0x7FC00000

/-- The outcome of a run. -/
structure TrainingSummary where
  globalStep : Nat
  epochs : Nat
  /-- The mean loss over every micro-batch of the run. -/
  trainLoss : Float32
  /-- The loss of the last micro-batch, NaN when there was none. -/
  finalLoss : Float32
  logHistory : List LogEntry
  lastCheckpoint : Option String

/-- A trainer: the hyperparameters, the output directory and the metadata document that
checkpoints carry, if any. -/
structure LoRATrainer where
  args : TrainingArguments
  outputDir : String
  adapterConfig : Option PeftAdapterConfig := none

/-- What a run reads from outside: the dropout draws for the forward pass of each micro-batch,
by its index in the run, and the clock's reading, as RFC 3339 text, at the step that saves a
checkpoint, by the step's number. -/
structure Ambient where
  draws : Nat → DropoutDraws
  clock : Nat → String

/-- What a run carries from one micro-batch to the next. -/
structure Progress where
  model : CausalLM
  optimizer : AdamW
  rng : StdRng
  globalStep : Nat := 0
  logHistory : List LogEntry := []
  lastCheckpoint : Option String := none
  runLoss : Float := 0
  runBatches : Nat := 0
  windowLoss : Float := 0
  windowBatches : Nat := 0
  lastLoss : Float32 := nan32
  /-- The gradients gathered since the last step, by parameter name. -/
  accumulated : Option (List (String × Tensor)) := none

/-- The text of a single in a message: `NaN`, `inf`, `-inf` or its shortest digits. -/
def lossText (x : Float32) : String :=
  match FloatClass.ofFloat32 x with
  | .nan => "NaN"
  | .infinite neg => if neg then "-inf" else "inf"
  | .finite .. => Decimal.Layout.json.text32 x

/-- The sums of two gradient sets: every name of `previous` gets its gradient added to the
incoming one, or keeps it when there is none. -/
def accumulate (previous : Option (List (String × Tensor))) (incoming : List (String × Tensor))
    (names : List String) : Except Failure (List (String × Tensor)) :=
  match previous with
  | none => pure incoming
  | some prev => names.foldlM (fun acc name =>
      match prev.lookup name with
      | none => pure acc
      | some p =>
        match acc.lookup name with
        | some g => do
          let sum ← (g.add p).mapError (.tensor ·.message)
          pure (acc.map fun e => if e.1 == name then (name, sum) else e)
        | none => pure (acc ++ [(name, p)])) incoming

/-- A computation that may fail, as a file step that changes nothing. -/
def liftExcept {α : Type} (r : Except Failure α) : DiskM α :=
  match r with
  | .ok a => pure a
  | .error e => throw e

/-- The cut of a list into pieces of `n`, the last one possibly shorter. -/
def chunks {α : Type} (n : Nat) (xs : List α) : List (List α) :=
  (List.range ((xs.length + n - 1) / n)).map fun c => (xs.drop (c * n)).take n

namespace LoRATrainer

/-- A trainer for valid hyperparameters. -/
def new (args : TrainingArguments) (outputDir : String) : Except Failure LoRATrainer := do
  args.validate
  pure ⟨args, outputDir, none⟩

/-- The trainer with a metadata document for every checkpoint. -/
def withAdapterConfig (t : LoRATrainer) (c : PeftAdapterConfig) : LoRATrainer :=
  { t with adapterConfig := some c }

/-- The loss value and the named gradients of one micro-batch, its forward pass run with the
dropout draws `draws`, the loss divided by `gas` before the gradients are taken; a loss that is
not finite is refused. -/
def batchGradients (m : CausalLM) (b : Batch) (gas : Nat) (step epoch : Nat)
    (draws : DropoutDraws) : Except Failure (Float32 × List (String × Tensor)) := do
  let (loss, g) ← (do
    causalLmLoss (← m.forward b.idRows b.maskRows (some draws)) b.labelRows).run {}
  let value := (g.node loss).value.get 0
  if !value.isFinite then
    throw (.training ("non-finite loss " ++ lossText value ++ " at step " ++ toString (step + 1) ++
      " (epoch " ++ toString (epoch + 1) ++ ")"))
  let (scaled, g) ← (graphStep (Graph.affine loss (1 / natToFloat gas) 0)).run g
  let grads ← (Graph.gradients g scaled).mapError (.tensor ·.message)
  pure (value, g.named.filterMap fun (name, i) => (grads.getD i none).map (name, ·))

/-- Clips the gathered gradients, takes an optimiser step and writes the new adapter
weights into the model. -/
def optimise (t : LoRATrainer) (p : Progress) (grads : List (String × Tensor)) (total : Nat) :
    Progress × Float32 × Float :=
  let vars := p.model.trainableParameters
  let (norm, clipped) := clipGradNorm (fun name => grads.lookup name) (vars.map (·.1)) t.args.maxGradNorm
  let present := vars.filterMap fun (name, _) => (clipped name).map (name, ·)
  let lr := t.args.lrAt p.globalStep total
  let (opt, moved) := (p.optimizer.setLearningRate lr).step vars present
  let model := p.model.mapAdapters fun ad =>
    { ad with a := (moved.lookup ad.nameA).getD ad.a, b := (moved.lookup ad.nameB).getD ad.b }
  ({ p with model, optimizer := opt, globalStep := p.globalStep + 1 }, norm, lr)

/-- Logs and saves after a step, as the step counts ask; a checkpoint carries the clock's
reading at its step. -/
def record (t : LoRATrainer) (ckpt : CheckpointManager) (amb : Ambient) (total : Nat)
    (p : Progress) (norm : Float32) (lr epochProgress : Float) : DiskM Progress := do
  let gs := p.globalStep
  let p := if gs % t.args.loggingSteps == 0 || gs == total then
      let mean := (p.windowLoss / natToFloat (max p.windowBatches 1)).toFloat32
      { p with logHistory := p.logHistory ++ [⟨gs, epochProgress, mean, lr, norm⟩],
               windowLoss := 0, windowBatches := 0 }
    else p
  if gs % t.args.saveSteps == 0 || gs == total then
    let state : TrainerState := ⟨gs, total, epochProgress, amb.clock gs, p.logHistory⟩
    let (path, _) ← ckpt.save p.model state
    pure { p with lastCheckpoint := some path }
  else pure p

/-- Whether the micro-batch at index `bi` of an epoch of `batchesPerEpoch` closes an
optimiser step: it is the `gas`-th since the last step, or the last of the epoch. -/
def endsStep (gas batchesPerEpoch bi : Nat) : Bool :=
  (bi + 1) % gas == 0 || bi + 1 == batchesPerEpoch

/-- The loss statistics and summed gradients after a micro-batch: its gradients, taken of
its loss divided by the accumulation count under the draws made for its index in the run, are
added to the running sum. -/
def absorb (t : LoRATrainer) (dataset : WeightedDataset) (amb : Ambient) (epoch : Nat)
    (p : Progress) (indices : List Nat) : DiskM (Progress × List (String × Tensor)) := do
  let b ← liftExcept (dataset.collate indices)
  let gas := t.args.gradientAccumulationSteps
  let (value, incoming) ←
    liftExcept (batchGradients p.model b gas p.globalStep epoch (amb.draws p.runBatches))
  let p := { p with
    lastLoss := value
    runLoss := p.runLoss + value.toFloat
    runBatches := p.runBatches + 1
    windowLoss := p.windowLoss + value.toFloat
    windowBatches := p.windowBatches + 1 }
  let grads ← liftExcept (accumulate p.accumulated incoming (p.model.trainableParameters.map (·.1)))
  pure (p, grads)

/-- An optimiser step with summed gradients, the last of them from micro-batch `bi`,
followed by the log entry and checkpoint that the step counts ask for. -/
def applyStep (t : LoRATrainer) (ckpt : CheckpointManager) (amb : Ambient)
    (batchesPerEpoch total epoch bi : Nat) (p : Progress) (grads : List (String × Tensor)) :
    DiskM Progress :=
  let (p, norm, lr) := t.optimise p grads total
  let epochProgress := natToFloat epoch + natToFloat (bi + 1) / natToFloat batchesPerEpoch
  t.record ckpt amb total p norm lr epochProgress

/-- One micro-batch: its gradients are gathered and, at a step boundary, applied. -/
def batch (t : LoRATrainer) (dataset : WeightedDataset) (ckpt : CheckpointManager)
    (amb : Ambient) (batchesPerEpoch total epoch : Nat) (p : Progress)
    (item : List Nat × Nat) : DiskM Progress := do
  let (indices, bi) := item
  let (p, grads) ← t.absorb dataset amb epoch p indices
  if !endsStep t.args.gradientAccumulationSteps batchesPerEpoch bi then
    return { p with accumulated := some grads }
  t.applyStep ckpt amb batchesPerEpoch total epoch bi { p with accumulated := none } grads

/-- One epoch: a fresh sample order, cut into micro-batches of `batchSize`, with an empty
running sum at its start. -/
def runEpoch (t : LoRATrainer) (dataset : WeightedDataset) (ckpt : CheckpointManager)
    (sampler : WeightedSampler) (amb : Ambient) (batchesPerEpoch total : Nat)
    (p : Progress) (epoch : Nat) : DiskM Progress := do
  let (order, rng) := sampler.sample p.rng
  (chunks t.args.batchSize order).zipIdx.foldlM
    (t.batch dataset ckpt amb batchesPerEpoch total epoch) { p with rng, accumulated := none }

/-- Trains a model's adapters on a dataset, with the dropout draws and clock readings of
`amb`; the result is the summary and the trained model. -/
def train (t : LoRATrainer) (model : CausalLM) (dataset : WeightedDataset) (amb : Ambient) :
    DiskM (TrainingSummary × CausalLM) := do
  let args := t.args
  if dataset.isEmpty then throw (.training "training dataset is empty")
  let vars := model.trainableParameters
  if vars.isEmpty then throw (.training "model has no trainable parameters")
  let optimizer := AdamW.new vars ⟨args.learningRate, args.adamBeta1, args.adamBeta2,
    args.adamEpsilon, args.weightDecay⟩
  let ckpt := CheckpointManager.new t.outputDir args.saveTotalLimit t.adapterConfig
  let sampler ← liftExcept dataset.sampler
  let batchesPerEpoch ← liftExcept (args.batchesPerEpoch dataset.len)
  let total ← liftExcept (args.totalSteps dataset.len)
  let start : Progress :=
    { model := model, optimizer := optimizer, rng := StdRng.seedFromU64 args.seed.toUInt64 }
  let p ← (List.range args.epochs).foldlM
    (t.runEpoch dataset ckpt sampler amb batchesPerEpoch total) start
  let summary : TrainingSummary := {
    globalStep := p.globalStep
    epochs := args.epochs
    trainLoss := (p.runLoss / natToFloat (max p.runBatches 1)).toFloat32
    finalLoss := p.lastLoss
    logHistory := p.logHistory
    lastCheckpoint := p.lastCheckpoint }
  pure (summary, p.model)

end LoRATrainer

end LowRankTuner
