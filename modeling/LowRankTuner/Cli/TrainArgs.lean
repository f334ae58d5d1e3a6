/-
  LowRankTuner/Cli/TrainArgs.lean
  ===============================
  The command line of the trainer: its grammar, the arguments it gives, and how they lay
  over the loaded settings.

  The queue file and the output file are positional and required, the base model is a
  required named argument, and every other named argument is optional: each one given
  replaces one setting, `--log-file` also sends the log to a file, and `--cpu` turns the
  accelerator off.  Checkpoints go to the directory of the output file, or the working
  directory when it has none.
-/
import LowRankTuner.Cli.Parse
import LowRankTuner.Settings.TrainConfig

namespace LowRankTuner.Cli

/-- The largest naturals the trainer reads take 64 bits. -/
def natural64 : ValueKind := .natural (Nat.pow 2 64)

/-- A named argument taking one value, its long name the id with `-` for `_`, its value
named by the id in capitals. -/
def valueOption (id : String) (kind : ValueKind) (help : String) (required : Bool := false) :
    Arg :=
  { id, long := some (id.replace "_" "-"), action := .set kind, required, help,
    valueName := id.toUpper }

/-- A switch, its long name the id with `-` for `_`. -/
def switchOption (id : String) (help : String) : Arg :=
  { id, long := some (id.replace "_" "-"), action := .setTrue, help }

/-- The grammar of the trainer's command line. -/
def trainCommand : Command where
  name := "train_lora"
  version := "0.1.0-alpha-1"
  about := "Weighted LoRA fine-tuning for causal language models with safetensors adapter export"
  group := some "train_args"
  args := [
    { id := "queue_file", index := some 1, action := .set .path, required := true,
      valueName := "QUEUE_FILE", help := "Path to training queue JSONL file" },
    { id := "output_file", index := some 2, action := .set .path, required := true,
      valueName := "OUTPUT_FILE", help := "Path to output safetensors file" },
    valueOption "base_model" .text
      "Base model hub id (already downloaded) or local directory" true,
    valueOption "rank" natural64 "LoRA rank [default: 16]",
    valueOption "alpha" .double "LoRA alpha [default: 32.0]",
    valueOption "dropout" .single "LoRA dropout [default: 0.05]",
    valueOption "epochs" natural64 "Training epochs [default: 3]",
    valueOption "batch_size" natural64 "Batch size [default: 4]",
    valueOption "learning_rate" .double "Learning rate [default: 1e-4]",
    valueOption "max_length" natural64 "Sequence length after truncation and padding [default: 512]",
    valueOption "system_prompt" .text "System turn prepended to every example",
    valueOption "seed" natural64 "Seed for adapter initialization, dropout and sampling [default: 42]",
    { valueOption "config" .path "TOML configuration file" with env := some "TRAIN_LORA_CONFIG" },
    valueOption "log_file" .path "Also write logs to this file",
    switchOption "cpu" "Never use an accelerator",
    switchOption "archive_queue" "Rename the queue file with a timestamp after a successful export",
    switchOption "check" "Validate the queue and base model, then exit without training",
    { id := "help", long := some "help", short := some 'h', action := .help, help := "Print help" },
    { id := "version", long := some "version", short := some 'V', action := .version,
      help := "Print version" }]

/-- The arguments of a run. -/
structure TrainArgs where
  queueFile : String
  outputFile : String
  baseModel : String
  rank : Option Nat := none
  alpha : Option Float := none
  dropout : Option Float32 := none
  epochs : Option Nat := none
  batchSize : Option Nat := none
  learningRate : Option Float := none
  maxLength : Option Nat := none
  systemPrompt : Option String := none
  seed : Option Nat := none
  config : Option String := none
  logFile : Option String := none
  cpu : Bool := false
  archiveQueue : Bool := false
  check : Bool := false

namespace Matched

/-- The text an argument was given. -/
def text? (m : Matched) (id : String) : Option String :=
  match m.value? id with
  | some (.text s) => some s
  | _ => none

/-- The natural an argument was given. -/
def natural? (m : Matched) (id : String) : Option Nat :=
  match m.value? id with
  | some (.natural n) => some n
  | _ => none

/-- The double an argument was given. -/
def double? (m : Matched) (id : String) : Option Float :=
  match m.value? id with
  | some (.double x) => some x
  | _ => none

/-- The single an argument was given. -/
def single? (m : Matched) (id : String) : Option Float32 :=
  match m.value? id with
  | some (.single x) => some x
  | _ => none

end Matched

namespace TrainArgs

/-- The arguments of a run from the matches of its command line. -/
def ofMatched (m : Matched) : TrainArgs where
  queueFile := (m.text? "queue_file").getD ""
  outputFile := (m.text? "output_file").getD ""
  baseModel := (m.text? "base_model").getD ""
  rank := m.natural? "rank"
  alpha := m.double? "alpha"
  dropout := m.single? "dropout"
  epochs := m.natural? "epochs"
  batchSize := m.natural? "batch_size"
  learningRate := m.double? "learning_rate"
  maxLength := m.natural? "max_length"
  systemPrompt := m.text? "system_prompt"
  seed := m.natural? "seed"
  config := m.text? "config"
  logFile := m.text? "log_file"
  cpu := m.has "cpu"
  archiveQueue := m.has "archive_queue"
  check := m.has "check"

/-- The program name messages use: the file name of the first word, or the command's own
name. -/
def programName (argv : List String) : String :=
  (argv.head?.bind Disk.fileName).getD trainCommand.name

/-- Reads a command line, its first word the program, in an environment. -/
def parse (argv : List String) (env : List (String × String)) : Except CliError TrainArgs :=
  let c : Context := ⟨trainCommand, programName argv, env⟩
  ofMatched <$> c.parse argv.tail

/-- The settings with every argument given laid over them. -/
def applyTo (a : TrainArgs) (c : TrainConfig) : TrainConfig :=
  let l := c.lora
  let t := c.training
  { c with
    lora := { l with
      rank := a.rank.getD l.rank
      alpha := a.alpha.getD l.alpha
      dropout := a.dropout.getD l.dropout }
    training := { t with
      epochs := a.epochs.getD t.epochs
      batchSize := a.batchSize.getD t.batchSize
      learningRate := a.learningRate.getD t.learningRate
      maxLength := a.maxLength.getD t.maxLength
      systemPrompt := a.systemPrompt.getD t.systemPrompt
      seed := a.seed.getD t.seed }
    logging := { c.logging with file := a.logFile.orElse fun _ => c.logging.file }
    runtime := { c.runtime with useGpu := if a.cpu then false else c.runtime.useGpu } }

/-- The directory checkpoints go to: that of the output file, or `.` when it has none. -/
def outputDir (a : TrainArgs) : String :=
  match Disk.parentAsWritten a.outputFile with
  | some p => if p.isEmpty then "." else p
  | none => "."

/-- The settings of a run: loaded from the defaults, the file and the environment, then the
arguments laid over them, then checked. -/
def loadConfig (a : TrainArgs) (d : Disk) (env : List (String × String)) :
    Except Failure TrainConfig := do
  let c ← TrainConfig.load d a.config env
  let c := a.applyTo c
  c.validate
  pure c

/-- The arguments as a document. -/
def toJson (a : TrainArgs) : Json :=
  let opt : Option String → Json := fun | some s => .str s | none => .null
  .obj [("queue_file", .str a.queueFile), ("output_file", .str a.outputFile),
    ("base_model", .str a.baseModel), ("config", opt a.config), ("log_file", opt a.logFile),
    ("cpu", .bool a.cpu), ("archive_queue", .bool a.archiveQueue), ("check", .bool a.check)]

end TrainArgs

end LowRankTuner.Cli
