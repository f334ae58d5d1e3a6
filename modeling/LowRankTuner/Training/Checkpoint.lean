import LowRankTuner.Training.Export
import LowRankTuner.Lora.Config
import LowRankTuner.Json.Decode
/-!
# Training checkpoints

A checkpoint is a directory `checkpoint-<step>` under `<output>/checkpoints` holding the
adapter weights, the adapter's metadata document when one is configured, and the trainer
state: the step reached, the planned number of steps, the fractional epoch, a timestamp and
the log of the steps so far.  Documents are written as indented JSON.

A trainer state is read back by a struct reader over the document's value: an object gives
the fields by key (unknown keys skipped, a key given twice refused, a field not given
missing), an array gives them by position, and each value must have its field's type: a
natural for a step, a number for a float (a 32-bit float takes the nearest to it), a string
for the timestamp and an array of entries for the log.

The checkpoints of a directory are its subdirectories named `checkpoint-` and a step that
reads as a 64-bit natural, oldest step first.  After each save only the newest
`maxCheckpoints` are kept (zero keeps all); a failure to remove an old one leaves it in
place and is not an error of the save.
-/

namespace LowRankTuner

/-- The file of a checkpoint's adapter weights. -/
def adapterWeightsFile : String := "adapter_model.safetensors"

/-- The file of a checkpoint's adapter metadata. -/
def adapterConfigFile : String := "adapter_config.json"

/-- The file of a checkpoint's trainer state. -/
def trainerStateFile : String := "trainer_state.json"

/-- One logged optimizer step. -/
structure LogEntry where
  step : Nat
  /-- The fractional epoch, such as 1.5 halfway through the second epoch. -/
  epoch : Float
  loss : Float32
  learningRate : Float
  gradNorm : Float32

/-- The entry as a document. -/
def LogEntry.toJson (e : LogEntry) : Json :=
  .obj [("step", Json.ofNat e.step), ("epoch", Json.ofFloat e.epoch), ("loss", Json.ofFloat32 e.loss),
    ("learning_rate", Json.ofFloat e.learningRate), ("grad_norm", Json.ofFloat32 e.gradNorm)]

/-- The progress written into every checkpoint. -/
structure TrainerState where
  globalStep : Nat
  maxSteps : Nat
  epoch : Float
  /-- The time of the save, as RFC 3339 text. -/
  timestamp : String
  logHistory : List LogEntry

/-- The state as a document. -/
def TrainerState.toJson (s : TrainerState) : Json :=
  .obj [("global_step", Json.ofNat s.globalStep), ("max_steps", Json.ofNat s.maxSteps),
    ("epoch", Json.ofFloat s.epoch), ("timestamp", .str s.timestamp),
    ("log_history", .arr (s.logHistory.map LogEntry.toJson))]

/-! ## Reading a state back -/

namespace Json

/-- How a typed reader names a value it cannot take. -/
def shownAs : Json → String
  | .null => "null"
  | .bool b => "boolean `" ++ (if b then "true" else "false") ++ "`"
  | .num n => unexpectedNumber n
  | .str s => "string " ++ Text.quoted s
  | .arr _ => "sequence"
  | .obj _ => "map"

/-- A typed reader: `take` gives the values it accepts, and any other value is refused with
the words for what it expected. -/
def typed {α : Type} (expected : String) (take : Json → Option α) (j : Json) : Except String α :=
  match take j with
  | some a => .ok a
  | none => .error ("invalid type: " ++ j.shownAs ++ ", expected " ++ expected)

/-- A value as a `usize`; a negative integer is an invalid value rather than a wrong type. -/
def toUsize : Json → Except String Nat
  | .num (.negInt i) => .error ("invalid value: integer `" ++ toString i ++ "`, expected usize")
  | j => typed "usize" nat? j

/-- A number as an `f64`: an integer is rounded to the nearest float. -/
def toF64 : Json → Except String Float :=
  typed "f64" fun
    | .num (.nat k) => some (floatOfRatio false k 1)
    | .num (.negInt i) => some (floatOfRatio true i.natAbs 1)
    | .num (.float x) => some x
    | _ => none

/-- A number as an `f32`: an integer or a 64-bit float is rounded to the nearest 32-bit
float. -/
def toF32 : Json → Except String Float32 :=
  typed "f32" fun
    | .num (.nat k) => some (float32OfRatio false k 1)
    | .num (.negInt i) => some (float32OfRatio true i.natAbs 1)
    | .num (.float x) => some x.toFloat32
    | _ => none

/-- One entry of an object as a struct reader meets it, after the entries `found` before it:
a known key given twice is refused, a known value is checked, an unknown key is skipped. -/
def recordEntry (fields : List (String × (Json → Except String Unit)))
    (found : List (String × Json)) (kv : String × Json) : Except String (List (String × Json)) :=
  match fields.lookup kv.1 with
  | none => pure found
  | some check =>
    if found.any (·.1 == kv.1) then throw ("duplicate field `" ++ kv.1 ++ "`")
    else do
      check kv.2
      pure (found ++ [kv])

/-- The value that the entries `found` give a field, or the field missing. -/
def recordValue (found : List (String × Json)) (f : String × (Json → Except String Unit)) :
    Except String Json :=
  match found.lookup f.1 with
  | some v => pure v
  | none => throw ("missing field `" ++ f.1 ++ "`")

/-- The values of a record's fields, in their order, as a struct reader takes them.  From
an object, entry by entry: a known key given twice is refused and each known value is
checked when it is met, unknown keys are skipped, and then a field that no entry gave is
missing.  From an array, item by item: too few items are refused by their count, too many
as trailing characters. -/
def recordFields (name : String) (fields : List (String × (Json → Except String Unit))) :
    Json → Except String (List Json)
  | .obj entries => do
    let found ← entries.foldlM (recordEntry fields) []
    fields.mapM (recordValue found)
  | .arr items => do
    let vs ← (List.range fields.length).mapM fun n =>
      match items[n]?, fields[n]? with
      | some v, some f => do f.2 v; pure v
      | _, _ => throw ("invalid length " ++ toString n ++ ", expected struct " ++ name ++ " with " ++
          toString fields.length ++ " elements")
    if fields.length < items.length then throw "trailing characters" else pure vs
  | j => .error ("invalid type: " ++ j.shownAs ++ ", expected struct " ++ name)

end Json

/-- The fields of a log entry, each with the check of its type. -/
def LogEntry.fields : List (String × (Json → Except String Unit)) :=
  [("step", fun j => discard j.toUsize), ("epoch", fun j => discard j.toF64),
    ("loss", fun j => discard j.toF32), ("learning_rate", fun j => discard j.toF64),
    ("grad_norm", fun j => discard j.toF32)]

/-- Reads a log entry from its document. -/
def LogEntry.ofJson (j : Json) : Except String LogEntry := do
  match ← Json.recordFields "LogEntry" LogEntry.fields j with
  | [step, epoch, loss, lr, norm] =>
    pure ⟨← step.toUsize, ← epoch.toF64, ← loss.toF32, ← lr.toF64, ← norm.toF32⟩
  | _ => throw "invalid length, expected struct LogEntry with 5 elements"

/-- Reads the log of a trainer state: an array of entries. -/
def LogEntry.listOfJson : Json → Except String (List LogEntry)
  | .arr xs => xs.mapM LogEntry.ofJson
  | j => .error ("invalid type: " ++ j.shownAs ++ ", expected a sequence")

/-- Reads a timestamp: its text, taken as it stands. -/
def TrainerState.stampOfJson : Json → Except String String :=
  Json.typed "a formatted date and time string or a unix timestamp" Json.str?

/-- The fields of a trainer state, each with the check of its type. -/
def TrainerState.fields : List (String × (Json → Except String Unit)) :=
  [("global_step", fun j => discard j.toUsize), ("max_steps", fun j => discard j.toUsize),
    ("epoch", fun j => discard j.toF64), ("timestamp", fun j => discard (stampOfJson j)),
    ("log_history", fun j => discard (LogEntry.listOfJson j))]

/-- Reads a trainer state from its document. -/
def TrainerState.ofJson (j : Json) : Except String TrainerState := do
  match ← Json.recordFields "TrainerState" TrainerState.fields j with
  | [step, maxSteps, epoch, stamp, log] =>
    pure ⟨← step.toUsize, ← maxSteps.toUsize, ← epoch.toF64, ← stampOfJson stamp,
      ← LogEntry.listOfJson log⟩
  | _ => throw "invalid length, expected struct TrainerState with 5 elements"

/-- Reads a trainer state from the text of its document. -/
def TrainerState.ofText (text : String) : Except Failure TrainerState := do
  let j ← (Json.parseBytesAsWritten text.toUTF8).mapError fun e => Failure.json e.message
  (TrainerState.ofJson j).mapError Failure.json

/-- The natural that a decimal text denotes: digits after at most one plus sign, below
`2^64`. -/
def parseStep? (s : String) : Option Nat :=
  let cs := match s.toList with
    | '+' :: rest => rest
    | cs => cs
  if cs.isEmpty || !cs.all Char.isDigit then none
  else
    let n := cs.foldl (fun acc c => 10 * acc + (c.toNat - 48)) 0
    if n < Nat.pow 2 64 then some n else none

/-- A checkpoint on disk: its step and directory. -/
structure CheckpointInfo where
  step : Nat
  path : String

/-- Where checkpoints are written, how many are kept and the metadata they carry. -/
structure CheckpointManager where
  checkpointDir : String
  maxCheckpoints : Nat
  adapterConfig : Option PeftAdapterConfig

namespace CheckpointManager

/-- The manager of the checkpoints under an output directory. -/
def new (outputDir : String) (maxCheckpoints : Nat) (config : Option PeftAdapterConfig) :
    CheckpointManager :=
  ⟨Disk.join outputDir "checkpoints", maxCheckpoints, config⟩

/-- The checkpoints on disk, oldest first; none when the directory is missing. -/
def list (m : CheckpointManager) (d : Disk) : Except Failure (List CheckpointInfo) := do
  if !d.exists? m.checkpointDir then return []
  let entries ← (d.listDir m.checkpointDir).mapError Failure.io
  let found := entries.filterMap fun (name, e) =>
    match e with
    | .dir =>
      if name.startsWith "checkpoint-" then
        (parseStep? (String.ofList (name.toList.drop 11))).map fun s => ⟨s, Disk.join m.checkpointDir name⟩
      else none
    | .file _ => none
  pure (found.mergeSort fun a b => a.step ≤ b.step)

/-- Removes all but the newest `maxCheckpoints` checkpoints; a directory that cannot be
removed stays, and a directory that cannot be listed is left alone. -/
def cleanup (m : CheckpointManager) (d : Disk) : Disk :=
  match m.list d with
  | .error _ => d
  | .ok cs =>
    if m.maxCheckpoints == 0 || cs.length ≤ m.maxCheckpoints then d
    else (cs.take (cs.length - m.maxCheckpoints)).foldl (fun acc c =>
      (acc.removeDirAll c.path).toOption.getD acc) d

/-- Saves a model's adapter and the trainer state as the checkpoint of the state's step,
then removes old checkpoints; the result is the checkpoint's directory and the adapter's
sizes. -/
def save (m : CheckpointManager) (model : CausalLM) (state : TrainerState) :
    DiskM (String × AdapterStats) := do
  let path := Disk.join m.checkpointDir ("checkpoint-" ++ toString state.globalStep)
  DiskM.change (·.createDirAll path) Failure.io
  let stats ← saveAdapterState model.adapterState (Disk.join path adapterWeightsFile)
  if let some c := m.adapterConfig then
    DiskM.change (·.writeText (Disk.join path adapterConfigFile) (Json.pretty 0 c.toJson)) Failure.io
  DiskM.change (·.writeText (Disk.join path trainerStateFile) (Json.pretty 0 state.toJson)) Failure.io
  modify m.cleanup
  pure (path, stats)

/-- Reads the trainer state of a checkpoint. -/
def loadState (d : Disk) (c : CheckpointInfo) : Except Failure TrainerState := do
  let text ← (d.readText (Disk.join c.path trainerStateFile)).mapError Failure.io
  TrainerState.ofText text

end CheckpointManager

end LowRankTuner
