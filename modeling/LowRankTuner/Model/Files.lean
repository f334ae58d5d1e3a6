/-
  LowRankTuner/Model/Files.lean
  =============================
  Finding the files of a base model and loading its weights.

  A base model is named by a local directory or by a hub id, `name` or `org/name`.  A name
  that is not a directory but looks like a path (absolute, starting with `.` or `~`,
  holding a backslash, more than one `/`, or an empty part between slashes) is refused as
  a missing directory; any other name is fetched from the hub, which serves files from its
  local cache.  The directory must hold `config.json` and `tokenizer.json`, and weights:
  the distinct shards named by `model.safetensors.index.json` when it is there, in name
  order, else every `*.safetensors` entry of the directory, in name order.

  Loading reads the shards in order; a tensor in a later shard replaces one of the same
  name from an earlier shard.

  Resolving and loading report what they find: the hub fetch and its shards, the
  directory a model resolved to, the tensors of each shard, those left unused and the
  adapters made.
-/
import LowRankTuner.Model.CausalLM
import LowRankTuner.Model.Config
import LowRankTuner.Safetensors.File
import LowRankTuner.Disk.Basic
import LowRankTuner.Log.Event
import LowRankTuner.Decimal.Layout

namespace LowRankTuner

/-- The file that lists the shards of a sharded checkpoint. -/
def weightIndexFile : String := "model.safetensors.index.json"

/-- The files of a base model checkpoint. -/
structure BaseModelFiles where
  /-- The name given for it. -/
  name : String
  dir : String
  config : ModelConfig
  /-- The safetensors shards, in the order they load. -/
  weightFiles : List String

/-- The advice given with a base model that cannot be found. -/
def installHint (name : String) : String :=
  "Check the model id and your network access, or download it first, e.g.\n  " ++
  "huggingface-cli download " ++ name ++ " --include '*.json' '*.safetensors'\n" ++
  "or pass --base-model a local directory containing config.json, tokenizer.json and *.safetensors"

/-- A name that is meant as a path, not a hub id. -/
def looksLikePath (name : String) : Bool :=
  let parts := name.splitOn "/"
  Disk.isAbsolute name || name.startsWith "." || name.startsWith "~" || name.contains '\\' ||
    parts.length > 2 || parts.any (·.isEmpty)

/-- Fields with `k` set to `v`: in place when `k` is there, else at the end. -/
def setField (acc : List (String × Json)) (k : String) (v : Json) : List (String × Json) :=
  if acc.any (·.1 == k) then acc.map fun (k₀, v₀) => if k₀ == k then (k₀, v) else (k₀, v₀)
  else acc ++ [(k, v)]

/-- The last value of each key of an object, in the order the keys first appear. -/
def lastValues (fs : List (String × Json)) : List (String × Json) :=
  fs.foldl (fun acc (k, v) => setField acc k v) []

/-- The distinct shard names of an index document, in name order; none when it is not a
JSON object with an object `weight_map`. -/
def shardNames (index : String) : List String :=
  match Json.parse index with
  | .ok (.obj fs) =>
    match (lastValues fs).lookup "weight_map" with
    | some (.obj m) =>
      let names := ((lastValues m).filterMap fun (_, v) => v.str?).mergeSort fun a b => a ≤ b
      names.foldr (fun n acc => if acc.head? == some n then acc else n :: acc) []
    | _ => []
  | _ => []

/-- The weight shards of a model directory: those its index names, or else its
`*.safetensors` entries. -/
def findWeightFiles (d : Disk) (dir : String) : Except Failure (List String) := do
  let index := Disk.join dir weightIndexFile
  if d.isFile index then
    let text ← (d.readText index).mapError Failure.io
    match Json.parse text with
    | .error e => throw (.json e.message)
    | .ok _ => pure ((shardNames text).map (Disk.join dir ·))
  else
    let entries ← (d.listDir dir).mapError Failure.io
    pure ((entries.filter fun (n, _) => Disk.extension? n == some "safetensors").map
      fun (n, _) => Disk.join dir n)

/-- How the hub answers a request for a file of a repository: the local path of the file,
or why it cannot be had. -/
abbrev HubFetch := String → String → Except String String

namespace HubCache

/-- The directory of a repository in a hub cache. -/
def repoDir (hfHome repo : String) : String :=
  Disk.join (Disk.join hfHome "hub") ("models--" ++ repo.replace "/" "--")

/-- The cached copy of a file of a repository: under the snapshot of the commit that the
main reference names. -/
def cached? (d : Disk) (hfHome repo file : String) : Option String := do
  let top := repoDir hfHome repo
  let commit ← (d.readText (Disk.join (Disk.join top "refs") "main")).toOption
  let path := Disk.join (Disk.join (Disk.join top "snapshots") commit) file
  if d.exists? path then some path else none

/-- The hub as its cache answers it; a file that is not cached would have to be
downloaded, which the cache cannot do. -/
def fetch (d : Disk) (hfHome : String) : HubFetch := fun repo file =>
  match cached? d hfHome repo file with
  | some p => .ok p
  | none => .error ("the local hub cache has no " ++ file ++ " for " ++ repo)

/-- Every file that resolving a repository asks the hub for is cached: the configuration,
the tokenizer files, the shard index and each shard it names. -/
def complete (d : Disk) (hfHome repo : String) : Bool :=
  let has := fun f => (cached? d hfHome repo f).isSome
  has "config.json" && has "tokenizer.json" && has "tokenizer_config.json" &&
  match cached? d hfHome repo weightIndexFile with
  | none => false
  | some idx => ((d.readText idx).toOption.map shardNames |>.getD []).all has

end HubCache

/-- The snapshot directory of a hub repository, after fetching its configuration, its
tokenizer files and its weights: the shards its index names, or the single weights file
when there is no index.  A missing tokenizer configuration is reported, not refused. -/
def fetchFromHub (d : Disk) (hub : HubFetch) (repo : String) : ReportM String := do
  let failed := fun (file e : String) => Failure.environment
    ("Failed to fetch " ++ file ++ " for base model " ++ repo ++ ": " ++ e) (installHint repo)
  ReportM.note .info LogTarget.loader
    ("Fetching base model " ++ repo ++ " from the Hugging Face hub cache")
  let configPath ← ReportM.lift ((hub repo "config.json").mapError (failed "config.json"))
  let _ ← ReportM.lift ((hub repo "tokenizer.json").mapError (failed "tokenizer.json"))
  if let .error e := hub repo "tokenizer_config.json" then
    ReportM.note .warn LogTarget.loader ("No tokenizer_config.json for " ++ repo ++ ": " ++ e)
  let shards := match hub repo weightIndexFile with
    | .ok idx => ((d.readText idx).toOption.map shardNames).getD []
    | .error _ => ["model.safetensors"]
  let paths ← ReportM.lift (shards.mapM fun s => (hub repo s).mapError (failed s))
  for p in paths do
    ReportM.note .debug LogTarget.loader ("Fetched " ++ p)
  match Disk.parentAsWritten configPath with
  | some p => pure p
  | none => throw (.environment ("Unexpected hub cache path " ++ configPath) (installHint repo))

namespace ModelConfig

/-- Reads and checks a configuration file. -/
def fromFile (d : Disk) (path : String) : Except Failure ModelConfig := do
  let text ← (d.readText path).mapError Failure.io
  let c ← ModelConfig.decode text.toUTF8
  c.validate
  pure c

end ModelConfig

/-- Finds the directory, the configuration and the weight shards of a base model. -/
def resolveBaseModel (d : Disk) (hub : HubFetch) (name : String) : ReportM BaseModelFiles := do
  let dir ← if d.isDir name then pure name
    else if looksLikePath name then
      throw (.environment ("Base model directory not found: " ++ name) (installHint name))
    else fetchFromHub d hub name
  let missing := ["config.json", "tokenizer.json"].filter fun f => !d.isFile (Disk.join dir f)
  if !missing.isEmpty then
    throw (.environment ("Base model directory " ++ dir ++ " is missing " ++ ", ".intercalate missing)
      (installHint name))
  let weightFiles ← ReportM.lift (findWeightFiles d dir)
  if weightFiles.isEmpty then
    throw (.environment ("No .safetensors weights found in " ++ dir) (installHint name))
  let config ← ReportM.lift (ModelConfig.fromFile d (Disk.join dir "config.json"))
  ReportM.note .info LogTarget.loader ("Resolved base model " ++ name ++ " at " ++ dir ++ " (" ++
    toString weightFiles.length ++ " weight files)")
  pure { name, dir, config, weightFiles }

/-- The tensors of one safetensors file, in the order its header lists them. -/
def readShard (d : Disk) (file : String) : Except Failure (List (String × Tensor)) := do
  let bytes ← (d.readBytes file).mapError Failure.tensor
  let st ← (Safetensors.SafetensorsFile.read bytes).mapError (.tensor ·.message)
  st.header.entries.mapM fun e =>
    match (st.view e).loaded? with
    | some s => pure (e.name, s.tensor)
    | none => throw (.tensor ("unsupported safetensor dtype " ++ e.dtype.name))

/-- Every tensor of the given safetensors files, a later file's tensor replacing an
earlier one of the same name. -/
def loadWeights (d : Disk) (files : List String) : ReportM WeightMap :=
  files.foldlM (fun (w : WeightMap) file => do
    let shard ← ReportM.lift (readShard d file)
    ReportM.note .debug LogTarget.loader
      ("Loaded " ++ toString shard.length ++ " tensors from " ++ file)
    pure (shard.foldl (fun w (n, t) => w.insert n t) w)) {}

/-- Loads a base model's weights and builds the model with adapters. -/
def CausalLM.load (d : Disk) (files : BaseModelFiles) (lora : LoRAConfig) (p : PrecisionConfig)
    (seed : UInt64) : ReportM CausalLM := do
  let weights ← loadWeights d files.weightFiles
  let (m, unused) ← ReportM.lift (CausalLM.assemble files.config weights lora p seed)
  if unused > 0 then
    ReportM.note .debug LogTarget.model (toString unused ++ " checkpoint tensors left unused")
  let m ← ReportM.lift m.checkAdapters
  ReportM.note .info LogTarget.model ("Injected " ++ toString m.adapters.length ++
    " LoRA adapters (rank " ++ toString lora.rank ++ ", alpha " ++ Decimal.Layout.plain.text64 lora.alpha ++
    ") into " ++ toString files.config.numHiddenLayers ++ " layers, precision " ++ p.text)
  pure m

end LowRankTuner
