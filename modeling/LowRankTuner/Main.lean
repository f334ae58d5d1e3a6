/-
  LowRankTuner/Main.lean
  ======================
  The trainer's command line on the real file system.

  The program works on a disk held in memory.  This layer fills that disk with what a run
  reads, runs the program, writes back what the run changed, prints the two output texts
  and exits with the program's status.

  A run reads the queue file, the settings file, the log file and the files of the base
  model: those of its directory, or of the hub cache under `HF_HOME` (by default
  `~/.cache/huggingface`) for a hub id.  Paths are probed one at a time, since directories
  are not listed: the weights of a base model are the shards its index names, or
  `model.safetensors`, and the archive names of the queue are probed until one is free.
  The environment is read for the variables that the settings know.  The clock is read
  from the kernel's boot time and uptime, in UTC, once: the run is computed whole, so every
  checkpoint carries the time it started.  Dropout draws come from a hash seeded by that
  time, and the tokenizer reader is the word-level one.
-/
import LowRankTuner.Cli.Program
import LowRankTuner.Time.Civil
import LowRankTuner.Text.Blank

open LowRankTuner LowRankTuner.Cli

namespace LowRankTuner.Console

/-- A file's bytes, or none when it cannot be read. -/
def readFile? (p : String) : IO (Option ByteArray) :=
  try some <$> IO.FS.readBinFile p catch _ => pure none

/-- The path opens for reading, as a file or a directory does. -/
def opens (p : String) : IO Bool :=
  try
    let _ ← IO.FS.Handle.mk p .read
    pure true
  catch _ => pure false

/-- The text of an absolute component list. -/
def pathOf (k : List String) : String := "/" ++ "/".intercalate k

/-- The disk with every directory above and at `k` present. -/
def withDirs (d : Disk) (k : List String) : Disk :=
  (List.range (k.length + 1)).foldl (fun d i =>
    if i == 0 || (d.entryAt (k.take i)).isSome then d else d.setEntry (k.take i) .dir) d

/-- The disk with what is at `p` on the file system: a file with its bytes, or a
directory without its entries. -/
def probe (d : Disk) (p : String) : IO Disk := do
  let k := d.locate p
  if (d.entryAt k).isSome then return d
  match ← readFile? (pathOf k) with
  | some b => return (withDirs d k.dropLast).setEntry k (.file b)
  | none => if ← opens (pathOf k) then return withDirs d k else return d

/-- The disk with the files of a model directory that a run reads. -/
def probeModelDir (d : Disk) (dir : String) : IO Disk := do
  let mut d ← probe d dir
  for f in ["config.json", "tokenizer.json", "tokenizer_config.json", weightIndexFile,
      "model.safetensors"] do
    d ← probe d (Disk.join dir f)
  if let .ok idx := d.readText (Disk.join dir weightIndexFile) then
    for s in shardNames idx do
      d ← probe d (Disk.join dir s)
  return d

/-- The disk with the cached snapshot of a hub repository. -/
def probeHub (d : Disk) (home repo : String) : IO Disk := do
  let top := HubCache.repoDir home repo
  let ref := Disk.join (Disk.join top "refs") "main"
  let d ← probe d ref
  match d.readText ref with
  | .ok commit => probeModelDir d (Disk.join (Disk.join top "snapshots") (Text.trim commit))
  | .error _ => return d

/-- The disk with the archive names of a queue probed up to the first free one. -/
def probeArchives (d : Disk) (queue stamp : String) : IO Disk := do
  let mut d := d
  for n in List.range 1000 do
    let p := Disk.join (archiveDir queue) (archiveName stamp n)
    d ← probe d p
    if !d.exists? p then return d
  return d

/-- The names of the environment variables a run reads. -/
def knownVariables : List String :=
  let settings := match (({} : TrainConfig).toJson) with
    | .obj sections => sections.flatMap fun (s, v) => match v with
      | .obj keys => keys.map fun (k, _) => "TRAIN_LORA__" ++ s.toUpper ++ "__" ++ k.toUpper
      | _ => []
    | _ => []
  ["RUST_LOG", "TRAIN_LORA_CONFIG", "HF_HOME", "HOME"] ++ settings

/-- The variables a run reads that are set. -/
def environment : IO (List (String × String)) :=
  knownVariables.filterMapM fun n => do return (← IO.getEnv n).map (n, ·)

/-- Seconds since the epoch: the boot time plus the uptime, 0 when they cannot be read. -/
def epochSeconds : IO Nat := do
  let stat := (← readFile? "/proc/stat").bind fun b => String.fromUTF8? b
  let uptime := (← readFile? "/proc/uptime").bind fun b => String.fromUTF8? b
  let boot := (stat.map Text.lines).bind fun ls =>
    (ls.find? (·.startsWith "btime ")).bind fun l => (Text.trim (String.ofList (l.toList.drop 6))).toNat?
  let up := uptime.bind fun u => ((u.splitOn ".").head?).bind String.toNat?
  return boot.getD 0 + up.getD 0

/-- Uniform draws in `[0, 1)` for dropout: the top 24 bits of a hash of the seed, the
micro-batch, the adapter and the position, over `2²⁴`. -/
def hashDraws (seed : UInt64) : Nat → DropoutDraws := fun k path i =>
  let h := mixHash seed (mixHash (hash k) (mixHash (hash path) (hash i)))
  float32OfRatio false (h >>> 40).toNat 16777216

/-- Two entries hold the same thing. -/
def sameEntry : Option Entry → Entry → Bool
  | some .dir, .dir => true
  | some (.file a), .file b => a.data == b.data
  | _, _ => false

/-- Writes what a run changed: new directories, new and changed files, then the removal
of what is gone. -/
def writeBack (before after : Disk) : IO Unit := do
  for (k, e) in after.entries do
    if !sameEntry (before.entryAt k) e then
      match e with
      | .dir => IO.FS.createDirAll (pathOf k)
      | .file b => IO.FS.writeBinFile (pathOf k) b
  for (k, e) in before.entries do
    if (after.entryAt k).isNone then
      try
        match e with
        | .dir => IO.FS.removeDirAll (pathOf k)
        | .file _ => IO.FS.removeFile (pathOf k)
      catch _ => pure ()

end LowRankTuner.Console

open LowRankTuner.Console in
/-- Runs the trainer on the command line `args` in the working directory. -/
def main (args : List String) : IO UInt32 := do
  let env ← environment
  let cwd := Disk.components (toString (← IO.currentDir))
  let argv := "train_lora" :: args
  let seconds ← epochSeconds
  let moment := Moment.ofEpoch seconds
  let home := (env.lookup "HF_HOME").getD (((env.lookup "HOME").getD "") ++ "/.cache/huggingface")
  let mut d := withDirs (Disk.empty cwd) cwd
  if let .ok a := TrainArgs.parse argv env then
    for p in [a.queueFile, a.outputFile, a.outputDir, Disk.join a.outputDir "checkpoints"] ++
        a.config.toList ++ (env.lookup "TRAIN_LORA_CONFIG").toList do
      d ← probe d p
    d ← probeModelDir d a.baseModel
    if !d.isDir a.baseModel && !looksLikePath a.baseModel then d ← probeHub d home a.baseModel
    d ← probeArchives d a.queueFile moment.stamp
    if let .ok c := a.loadConfig d env then
      for p in c.logging.file.toList do
        d ← probe d (Disk.dirOf p)
        d ← probe d p
  let host : Host :=
    { draws := hashDraws seconds.toUInt64, clock := fun _ => moment.rfc3339,
      hub := HubCache.fetch d home, readTokenizer := Tokenizer.readEncoder, stamp := moment.stamp }
  let r := runProgram argv env d host
  writeBack d r.disk
  IO.print r.stdout
  IO.eprint r.stderr
  return r.exitCode.toUInt32
