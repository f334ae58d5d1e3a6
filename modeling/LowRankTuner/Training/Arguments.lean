/-
  LowRankTuner/Training/Arguments.lean
  ====================================
  The hyperparameters of a training run, their validation, the step counts they imply and
  the learning-rate schedule.

  One optimizer step consumes `gradientAccumulationSteps` micro-batches of `batchSize`
  examples, the last micro-batch of an epoch possibly short; both counts round up.  Sizes
  are 64-bit, so the total over all epochs wraps past 2^64, and a zero divisor aborts the
  count.

  The learning rate rises linearly from zero over the warm-up steps, then falls linearly to
  zero at the last step.
-/
import LowRankTuner.Failure
import LowRankTuner.Decimal.Layout
import LowRankTuner.Dataset.Weighted

namespace LowRankTuner

/-- The hyperparameters of a training run. -/
structure TrainingArguments where
  epochs : Nat := 3
  batchSize : Nat := 4
  learningRate : Float := 1e-4
  gradientAccumulationSteps : Nat := 1
  warmupSteps : Nat := 10
  loggingSteps : Nat := 5
  saveSteps : Nat := 50
  saveTotalLimit : Nat := 2
  maxGradNorm : Float := 1.0
  weightDecay : Float := 0.0
  adamBeta1 : Float := 0.9
  adamBeta2 : Float := 0.999
  adamEpsilon : Float := 1e-8
  seed : Nat := 42
  maxLength : Nat := defaultMaxLength
  systemPrompt : String := defaultSystemPrompt

/-- A float of a natural number, correctly rounded. -/
def natToFloat (n : Nat) : Float := floatOfRatio false n 1

/-- The quotient of two sizes rounded up; a zero divisor aborts. -/
def divCeil (a b : Nat) : Except Failure Nat :=
  if b == 0 then .error (.aborted divisionByZero) else .ok ((a + b - 1) / b)

/-- The 64-bit size range, past which products wrap. -/
def sizeModulus : Nat := Nat.pow 2 64

namespace TrainingArguments

/-- The first setting that must be positive and is zero. -/
def zeroSetting? (a : TrainingArguments) : Option String :=
  ([("epochs", a.epochs), ("batch_size", a.batchSize),
    ("gradient_accumulation_steps", a.gradientAccumulationSteps),
    ("logging_steps", a.loggingSteps), ("save_steps", a.saveSteps),
    ("max_length", a.maxLength)].find? (·.2 == 0)).map (·.1)

/-- Checks the settings: the counts positive, the learning rate a positive finite number
and the clipping norm positive. -/
def validate (a : TrainingArguments) : Except Failure Unit :=
  match a.zeroSetting? with
  | some name => .error (.invalidConfig (name ++ " must be positive"))
  | none =>
    if !(!a.learningRate.isNaN && !a.learningRate.isInf && a.learningRate > 0.0) then
      .error (.invalidConfig ("learning_rate must be a positive number, got " ++
        Decimal.Layout.plain.text64 a.learningRate))
    else if !(a.maxGradNorm > 0.0) then .error (.invalidConfig "max_grad_norm must be positive")
    else .ok ()

/-- Micro-batches per epoch; the last one may be short. -/
def batchesPerEpoch (a : TrainingArguments) (datasetLen : Nat) : Except Failure Nat :=
  divCeil datasetLen a.batchSize

/-- Optimizer steps per epoch. -/
def stepsPerEpoch (a : TrainingArguments) (datasetLen : Nat) : Except Failure Nat := do
  divCeil (← a.batchesPerEpoch datasetLen) a.gradientAccumulationSteps

/-- Optimizer steps over the whole run, modulo 2^64. -/
def totalSteps (a : TrainingArguments) (datasetLen : Nat) : Except Failure Nat := do
  return (← a.stepsPerEpoch datasetLen) * a.epochs % sizeModulus

/-- The fraction of the full learning rate after `step` completed steps of `total`, in a
number type that reads sizes through `ofSize`: the steps so far over the warm-up steps while
warming up, then the steps left over the steps after the warm-up, never below zero.  Both
divisors are at least one. -/
def scheduleFactor {α : Type} [Div α] [LT α] [DecidableLT α] [OfNat α 0] (ofSize : Nat → α)
    (warmup step total : Nat) : α :=
  if step < warmup then ofSize step / ofSize (max warmup 1)
  else
    let remaining := ofSize (total - step)
    let span := ofSize (max (total - warmup) 1)
    let q := remaining / span
    if q < 0 then 0 else q

/-- The learning rate of the optimizer step taken after `step` completed steps of
`total`. -/
def lrAt (a : TrainingArguments) (step total : Nat) : Float :=
  a.learningRate * scheduleFactor natToFloat a.warmupSteps step total

end TrainingArguments

end LowRankTuner
