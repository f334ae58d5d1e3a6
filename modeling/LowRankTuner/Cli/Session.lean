/-
  LowRankTuner/Cli/Session.lean
  =============================
  A whole training run from its arguments and settings.

  A run loads the queue, resolves the base model and loads its tokenizer and weights,
  builds the weighted dataset, trains, exports the adapter, checks the exported file and,
  when asked, archives the queue.  With `--check` it stops once the dataset is built.

  A run works on a disk, prints banners as it goes and reports diagnostic events.  A
  failure keeps what was printed, reported and written before it: a missing queue fails
  before the first banner, and a failure after training keeps the checkpoints.

  What a run reads from outside the program is its `Host`: the hub, the tokenizer library,
  the dropout draws, the clock of its checkpoints and the local time that names an archived
  queue.
-/
import LowRankTuner.Cli.TrainArgs
import LowRankTuner.Cli.Report
import LowRankTuner.Queue.Load
import LowRankTuner.Queue.Archive
import LowRankTuner.Model.Files
import LowRankTuner.Tokenizer.File
import LowRankTuner.Training.Trainer
import LowRankTuner.Log.Event
import LowRankTuner.Decimal.Layout
import LowRankTuner.Decimal.Fixed

namespace LowRankTuner

/-- What a run has done so far: the disk as it left it, the lines it printed and the
events it reported. -/
structure Session where
  disk : Disk
  printed : Array String := #[]
  events : Array LogEvent := #[]

/-- The printed text of a session: every line followed by a line break. -/
def Session.stdout (s : Session) : String := String.join (s.printed.toList.map (· ++ "\n"))

/-- A step of a run, which may fail. -/
abbrev SessionM := ExceptT Failure (StateM Session)

namespace SessionM

/-- Prints a line. -/
def say (line : String) : SessionM Unit := modify fun s => { s with printed := s.printed.push line }

/-- Reports an event. -/
def note (level : Level) (target message : String) : SessionM Unit :=
  modify fun s => { s with events := s.events.push ⟨level, target, message⟩ }

/-- Reports events, in order. -/
def noteAll (es : List LogEvent) : SessionM Unit :=
  modify fun s => { s with events := s.events ++ es.toArray }

/-- The disk as the run has left it so far. -/
def disk : SessionM Disk := return (← get).disk

/-- A step that only succeeds or fails. -/
def lift {α : Type} (r : Except Failure α) : SessionM α := ExceptT.mk (pure r)

/-- A step that reports events. -/
def reported {α : Type} (m : ReportM α) : SessionM α := do
  let s ← get
  let (r, events) := m.run.run s.events
  set { s with events }
  lift r

/-- A step on the disk. -/
def onDisk {α : Type} (m : DiskM α) : SessionM α := do
  let s ← get
  let (r, disk) := m.run s.disk
  set { s with disk }
  lift r

end SessionM

/-- What a successful run produced. -/
inductive TrainOutcome where
  /-- A check: everything loaded, nothing trained. -/
  | checked (records trainableParameters : Nat)
  | trained (summary : TrainingSummary) (adapter : AdapterStats) (archivedQueue : Option String)

/-- The rule above and below the title banners. -/
def bannerRule : String := String.ofList (List.replicate 60 '=')

/-- What loading a queue reports: each skipped line, the records that use the default
weight, and the count of records read. -/
def LoadReport.events (r : LoadReport) : List LogEvent :=
  r.warnings.map (fun w => ⟨.warn, LogTarget.queue, w.text⟩) ++
  (if r.defaultedWeights > 0 then
    [⟨.debug, LogTarget.queue, toString r.defaultedWeights ++ " records use the default weight"⟩]
  else []) ++
  [⟨.info, LogTarget.queue, "Loaded " ++ toString r.records.length ++ " training examples from " ++
    r.path ++ " (" ++ toString r.warnings.length ++ " skipped)"⟩]

/-- What building a dataset reports: the examples cut to the length, and the size and pad
token of the dataset. -/
def WeightedDataset.events (ds : WeightedDataset) (padTokenId : Nat) : List LogEvent :=
  (if ds.truncated > 0 then
    [⟨.info, LogTarget.dataset, toString ds.truncated ++ " of " ++ toString ds.len ++
      " examples truncated to " ++ toString ds.maxLength ++ " tokens"⟩]
  else []) ++
  [⟨.debug, LogTarget.dataset, "Built dataset of " ++ toString ds.len ++ " examples, pad token id " ++
    toString padTokenId⟩]

open SessionM in
/-- Archives the queue file, printing and reporting where it went. -/
def archiveQueueFile (path stamp : String) : SessionM String := do
  let (d, archived) ← lift (archiveQueue (← disk) path stamp)
  modify fun s => { s with disk := d }
  note .info LogTarget.queue ("Archived training queue to " ++ archived)
  say ("Archived training queue to " ++ archived)
  pure archived

/-- What a run reads from outside the program: the dropout draws and clock readings of
training, base models fetched from the hub, the tokenizer library's reader of a saved
tokenizer, and the local time stamp that names an archived queue. -/
structure Host extends Ambient where
  hub : HubFetch
  readTokenizer : String → Except String TokenEncoder
  stamp : String

namespace Cli

open SessionM in
/-- A training run with the arguments `a` and the settings `c`, reading from `host`. -/
def TrainArgs.run (a : TrainArgs) (c : TrainConfig) (host : Host) : SessionM TrainOutcome := do
  if !(← disk).isFile a.queueFile then throw (.queueNotFound a.queueFile)
  say bannerRule
  say "LoRA Fine-Tuning for Qwen Models"
  say bannerRule
  say ("\n📖 Loading training examples from " ++ a.queueFile)
  let report ← lift (loadQueue (← disk) a.queueFile)
  noteAll report.events
  say ("Loaded " ++ toString report.records.length ++ " training examples")
  if !report.records.isEmpty then say report.summary.text
  if report.defaultedWeights > 0 then
    note .info LogTarget.pipeline
      (toString report.defaultedWeights ++ " records had a missing or invalid weight and use 1.0")
  let records ← lift report.intoRecords
  note .info LogTarget.loader "Using CPU"
  let precision := PrecisionConfig.forProcessor c.runtime.mixedPrecision
  say ("\n🔧 Loading tokenizer from " ++ a.baseModel)
  let files ← reported (resolveBaseModel (← disk) host.hub a.baseModel)
  let tok ← reported
    (ChatTokenizer.fromModelDir (← disk) host.readTokenizer files.dir files.config.modelType)
  say ("\n🤖 Loading base model from " ++ a.baseModel)
  note .info LogTarget.pipeline ("Device Cpu, precision " ++ precision.text)
  if precision.isMixed then say "  Mixed precision: F16 base weights, F32 adapters"
  let model ← reported (CausalLM.load (← disk) files c.lora precision c.training.seed.toUInt64)
  say "\n⚙️  Configuring LoRA"
  say ("  Rank: " ++ toString c.lora.rank)
  say ("  Alpha: " ++ Decimal.Layout.plain.text64 c.lora.alpha)
  say ("  Dropout: " ++ Decimal.Layout.plain.text32 c.lora.dropout)
  let (trainable, total) := model.parameterCounts
  say (trainableParametersLine trainable total)
  say "\n📚 Creating weighted dataset"
  let t := c.training
  let dataset ← lift (WeightedDataset.build records tok t.maxLength t.systemPrompt)
  noteAll (dataset.events tok.padTokenId)
  say "\nTraining Configuration:"
  say ("  Epochs: " ++ toString t.epochs)
  say ("  Batch size: " ++ toString t.batchSize)
  say ("  Learning rate: " ++ Decimal.Layout.plain.text64 t.learningRate)
  say ("  Examples: " ++ toString dataset.len)
  say ("  Total training steps: " ++ toString (← lift (t.totalSteps dataset.len)))
  if a.check then
    say "\n✅ Check passed: queue, tokenizer and base model are usable"
    return .checked dataset.len trainable
  let trainer ← lift (LoRATrainer.new t a.outputDir)
  let trainer := trainer.withAdapterConfig (c.lora.toPeftConfig a.baseModel)
  say "\nStarting training..."
  let (summary, model) ← onDisk (trainer.train model dataset host.toAmbient)
  say "✅ Training complete!"
  say ("\nExporting adapter to " ++ a.outputFile)
  note .debug LogTarget.exporter
    ("Collected " ++ toString model.adapterState.length ++ " adapter tensors")
  let stats ← onDisk (exportAdapter model a.outputFile)
  note .info LogTarget.exporter ("Exported " ++ toString stats.tensors ++ " adapter tensors (" ++
    toString stats.parameters ++ " parameters) to " ++ a.outputFile)
  let adapter ← lift (inspectAdapter (← disk) a.outputFile)
  say ("Adapter contains " ++ toString adapter.tensors ++ " parameters")
  say ("Total parameters: " ++ groupThousands adapter.parameters ++ " (" ++
    Decimal.fixed64 adapter.sizeMb 2 ++ " MB)")
  say "✅ Adapter saved successfully!"
  let archived ← if a.archiveQueue then some <$> archiveQueueFile a.queueFile host.stamp
    else pure none
  say ("\n" ++ bannerRule)
  say "✅ LoRA training complete!"
  say bannerRule
  say ("\nAdapter saved to: " ++ a.outputFile)
  return .trained summary adapter archived

end Cli

end LowRankTuner
