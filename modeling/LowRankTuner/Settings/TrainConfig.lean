/-
  LowRankTuner/Settings/TrainConfig.lean
  ======================================
  The settings of a training run, loaded from layers.

  A run's settings are the adapter's, the trainer's hyperparameters, the device choice and
  logging.  They load from three layers, each over the one before: the built-in defaults,
  an optional settings file, and environment variables named
  `TRAIN_LORA__<SECTION>__<KEY>`, in which `lora.target_modules` is a comma-separated list.
  Every field that no layer gives keeps its default.

  A file is looked up as given, then with each format's extension added to the name
  (`Settings.Formats`); the values it gives are said to come from its path relative to the
  working directory.
-/
import LowRankTuner.Settings.Formats
import LowRankTuner.Settings.Decode
import LowRankTuner.Lora.Config
import LowRankTuner.Training.Arguments
import LowRankTuner.Disk.Basic

namespace LowRankTuner

/-- Which device a run uses. -/
structure RuntimeSettings where
  /-- Use an accelerator when one is available. -/
  useGpu : Bool := true
  /-- Half-precision base weights on accelerators. -/
  mixedPrecision : Bool := true

/-- Where a run logs. -/
structure LoggingSettings where
  /-- The default filter directive. -/
  level : String := "info"
  /-- A file that also receives the log. -/
  file : Option String := none

/-- The settings of one training run. -/
structure TrainConfig where
  lora : LoRAConfig := {}
  training : TrainingArguments := {}
  runtime : RuntimeSettings := {}
  logging : LoggingSettings := {}

/-- The built-in defaults, as the bottom layer reads them. -/
def defaultConfigText : String :=
  "[lora]\nrank = 16\nalpha = 32.0\ndropout = 0.05\n" ++
  "target_modules = [\"q_proj\", \"v_proj\", \"k_proj\", \"o_proj\"]\nbias = \"none\"\n\n" ++
  "[training]\nepochs = 3\nbatch_size = 4\nlearning_rate = 0.0001\n" ++
  "gradient_accumulation_steps = 1\nwarmup_steps = 10\nlogging_steps = 5\nsave_steps = 50\n" ++
  "save_total_limit = 2\nmax_grad_norm = 1.0\nweight_decay = 0.0\nadam_beta1 = 0.9\n" ++
  "adam_beta2 = 0.999\nadam_epsilon = 1e-8\nseed = 42\nmax_length = 512\n" ++
  "system_prompt = \"You are Qwen, a helpful AI assistant.\"\n\n" ++
  "[runtime]\nuse_gpu = true\nmixed_precision = true\n\n" ++
  "[logging]\nlevel = \"info\"\n"

/-- How the environment layer reads variables. -/
def trainEnvironment : EnvironmentSource :=
  ⟨"TRAIN_LORA__", "__", ",", ["lora.target_modules"]⟩

/-- A bias setting: a variant's name, or a table whose one key is the name. -/
def LoraBias.ofSetting (s : Setting) : Except SettingsFault LoraBias :=
  let variant (n : String) : Except SettingsFault LoraBias :=
    if n == "none" then .ok .none
    else .error (.message ("enum LoraBias does not have variant constructor " ++ n))
  match s with
  | .str _ n => variant n
  | .table _ [(n, _)] => variant n
  | _ => .error (.message
      "value of enum LoraBias should be represented by either string or table with exactly one key")

/-- An adapter description read from settings. -/
def LoRAConfig.ofSetting (s : Setting) : Except SettingsFault LoRAConfig := do
  let fs ← s.fields "LoRAConfig"
  let d : LoRAConfig := {}
  pure {
    rank := ← fs.get 0 "rank" Setting.toNat64 d.rank
    alpha := ← fs.get 1 "alpha" Setting.toFloat d.alpha
    dropout := ← fs.get 2 "dropout" (fun s => Float.toFloat32 <$> s.toFloat) d.dropout
    targetModules := ← fs.get 3 "target_modules" Setting.texts d.targetModules
    bias := ← fs.get 4 "bias" LoraBias.ofSetting d.bias }

/-- Hyperparameters read from settings. -/
def TrainingArguments.ofSetting (s : Setting) : Except SettingsFault TrainingArguments := do
  let fs ← s.fields "TrainingArguments"
  let d : TrainingArguments := {}
  pure {
    epochs := ← fs.get 0 "epochs" Setting.toNat64 d.epochs
    batchSize := ← fs.get 1 "batch_size" Setting.toNat64 d.batchSize
    learningRate := ← fs.get 2 "learning_rate" Setting.toFloat d.learningRate
    gradientAccumulationSteps :=
      ← fs.get 3 "gradient_accumulation_steps" Setting.toNat64 d.gradientAccumulationSteps
    warmupSteps := ← fs.get 4 "warmup_steps" Setting.toNat64 d.warmupSteps
    loggingSteps := ← fs.get 5 "logging_steps" Setting.toNat64 d.loggingSteps
    saveSteps := ← fs.get 6 "save_steps" Setting.toNat64 d.saveSteps
    saveTotalLimit := ← fs.get 7 "save_total_limit" Setting.toNat64 d.saveTotalLimit
    maxGradNorm := ← fs.get 8 "max_grad_norm" Setting.toFloat d.maxGradNorm
    weightDecay := ← fs.get 9 "weight_decay" Setting.toFloat d.weightDecay
    adamBeta1 := ← fs.get 10 "adam_beta1" Setting.toFloat d.adamBeta1
    adamBeta2 := ← fs.get 11 "adam_beta2" Setting.toFloat d.adamBeta2
    adamEpsilon := ← fs.get 12 "adam_epsilon" Setting.toFloat d.adamEpsilon
    seed := ← fs.get 13 "seed" Setting.toNat64 d.seed
    maxLength := ← fs.get 14 "max_length" Setting.toNat64 d.maxLength
    systemPrompt := ← fs.get 15 "system_prompt" Setting.toText d.systemPrompt }

/-- Device settings read from settings. -/
def RuntimeSettings.ofSetting (s : Setting) : Except SettingsFault RuntimeSettings := do
  let fs ← s.fields "RuntimeSettings"
  pure {
    useGpu := ← fs.get 0 "use_gpu" Setting.toBool true
    mixedPrecision := ← fs.get 1 "mixed_precision" Setting.toBool true }

/-- Logging settings read from settings. -/
def LoggingSettings.ofSetting (s : Setting) : Except SettingsFault LoggingSettings := do
  let fs ← s.fields "LoggingSettings"
  pure {
    level := ← fs.get 0 "level" Setting.toText "info"
    file := ← fs.get 1 "file" Setting.optionalText none }

/-- The settings of a run read from layered settings. -/
def TrainConfig.ofSetting (s : Setting) : Except SettingsFault TrainConfig := do
  let fs ← s.fields "TrainConfig"
  pure {
    lora := ← fs.get 0 "lora" LoRAConfig.ofSetting {}
    training := ← fs.get 1 "training" TrainingArguments.ofSetting {}
    runtime := ← fs.get 2 "runtime" RuntimeSettings.ofSetting {}
    logging := ← fs.get 3 "logging" LoggingSettings.ofSetting {} }

/-- The path from the directory `cwd` to the absolute components `target`. -/
def relativeComponents : List String → List String → List String
  | [], target => target
  | _ :: more, [] => ".." :: relativeComponents more []
  | b :: more, t :: rest =>
    if b == t then relativeComponents more rest
    else List.replicate (more.length + 1) ".." ++ t :: rest

/-- How messages name a file: its path from the working directory. -/
def Disk.shownPath (d : Disk) (p : String) : String :=
  if Disk.isAbsolute p then "/".intercalate (relativeComponents d.cwd (Disk.components p))
  else "/".intercalate (Disk.components p)

/-- The named values of a settings file: the file itself in the format its extension
names, or else the name with each format's extensions added, the first file found. -/
def fileSource (d : Disk) (path : String) : Except SettingsFault (List (String × Setting)) := do
  let exact : Option (String × Option FileFormat) :=
    if d.isFile path then
      some (path, FileFormat.ofExtension? ((Disk.extension? ((Disk.fileName path).getD "")).getD ""))
    else none
  let tried := FileFormat.all.flatMap fun f => f.extensions.map fun e => (path ++ "." ++ e, f)
  let found := match exact with
    | some (p, f) => some (p, f)
    | none => (tried.find? (fun (pf : String × FileFormat) => d.isFile pf.1)).map
        fun (p, f) => (p, some f)
  let some (file, format?) := found
    | throw (SettingsFault.unavailable ("configuration file \"" ++ path ++ "\" not found"))
  let some format := format?
    | let whole := if Disk.isAbsolute path then path else "/" ++ "/".intercalate d.cwd ++ "/" ++ path
      throw (SettingsFault.unavailable
        ("configuration file \"" ++ whole ++ "\" is not of a registered file format"))
  let text ← (d.readText file).mapError .unavailable
  format.source (some (d.shownPath file)) text

namespace TrainConfig

/-- Loads a run's settings: the defaults, then the file, if any, then the environment. -/
def load (d : Disk) (file : Option String) (env : List (String × String)) :
    Except Failure TrainConfig :=
  (do
    let base ← tomlSource none defaultConfigText
    let fromFile ← match file with
      | some p => fileSource d p
      | none => pure []
    let laid := do
      let r ← Setting.emptyTable.lay base
      let r ← r.lay fromFile
      r.lay (trainEnvironment.values env)
    match laid with
    | .ok layered => ofSetting layered
    | .error stop => throw (SettingsFault.aborted stop)).mapError fun (f : SettingsFault) =>
      match f with
      | .aborted d => Failure.aborted d
      | f => Failure.config f.text

/-- Checks the adapter's settings, then the trainer's. -/
def validate (c : TrainConfig) : Except Failure Unit := do
  c.lora.validate
  c.training.validate

/-- The settings equal the defaults, floats compared as numbers. -/
def isDefault (c : TrainConfig) : Bool :=
  let d : TrainConfig := {}
  let l := c.lora
  let t := c.training
  l.rank == d.lora.rank && l.alpha == d.lora.alpha && l.dropout == d.lora.dropout &&
  l.targetModules == d.lora.targetModules && l.bias == d.lora.bias &&
  t.epochs == d.training.epochs && t.batchSize == d.training.batchSize &&
  t.learningRate == d.training.learningRate &&
  t.gradientAccumulationSteps == d.training.gradientAccumulationSteps &&
  t.warmupSteps == d.training.warmupSteps && t.loggingSteps == d.training.loggingSteps &&
  t.saveSteps == d.training.saveSteps && t.saveTotalLimit == d.training.saveTotalLimit &&
  t.maxGradNorm == d.training.maxGradNorm && t.weightDecay == d.training.weightDecay &&
  t.adamBeta1 == d.training.adamBeta1 && t.adamBeta2 == d.training.adamBeta2 &&
  t.adamEpsilon == d.training.adamEpsilon && t.seed == d.training.seed &&
  t.maxLength == d.training.maxLength && t.systemPrompt == d.training.systemPrompt &&
  c.runtime.useGpu == d.runtime.useGpu && c.runtime.mixedPrecision == d.runtime.mixedPrecision &&
  c.logging.level == d.logging.level && c.logging.file == d.logging.file

/-- The settings as a document; floats that are not finite are written as null. -/
def toJson (c : TrainConfig) : Json :=
  let l := c.lora
  let t := c.training
  .obj [
    ("lora", .obj [("rank", Json.ofNat l.rank), ("alpha", Json.ofFloat l.alpha),
      ("dropout", Json.ofFloat32 l.dropout), ("target_modules", .arr (l.targetModules.map Json.str)),
      ("bias", .str l.bias.name)]),
    ("training", .obj [("epochs", Json.ofNat t.epochs), ("batch_size", Json.ofNat t.batchSize),
      ("learning_rate", Json.ofFloat t.learningRate),
      ("gradient_accumulation_steps", Json.ofNat t.gradientAccumulationSteps),
      ("warmup_steps", Json.ofNat t.warmupSteps), ("logging_steps", Json.ofNat t.loggingSteps),
      ("save_steps", Json.ofNat t.saveSteps), ("save_total_limit", Json.ofNat t.saveTotalLimit),
      ("max_grad_norm", Json.ofFloat t.maxGradNorm), ("weight_decay", Json.ofFloat t.weightDecay),
      ("adam_beta1", Json.ofFloat t.adamBeta1), ("adam_beta2", Json.ofFloat t.adamBeta2),
      ("adam_epsilon", Json.ofFloat t.adamEpsilon), ("seed", Json.ofNat t.seed),
      ("max_length", Json.ofNat t.maxLength), ("system_prompt", .str t.systemPrompt)]),
    ("runtime", .obj [("use_gpu", .bool c.runtime.useGpu),
      ("mixed_precision", .bool c.runtime.mixedPrecision)]),
    ("logging", .obj [("level", .str c.logging.level),
      ("file", match c.logging.file with | some f => .str f | none => .null)])]

end TrainConfig

end LowRankTuner
