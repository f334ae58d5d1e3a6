/-
  LowRankTuner/Cli/Program.lean
  =============================
  The trainer as a program: a command line, an environment and a disk in; an exit status,
  the printed text, the diagnostics and the disk out.

  The command line is read first: the help and version texts are printed with status 0, a
  refusal goes to the diagnostics with status 2.  The settings are loaded next, and a
  failure there is reported with status 1.  Then logging starts.  Events pass the filter
  that `RUST_LOG` writes, or the configured level when it gives no directive; they go to
  the diagnostics and, when a log file is configured, are appended to that file, whose
  directory is made first.  Each filter notes the directives it leaves out on the
  diagnostics when it is made, the one for the file only once the file is open.  Last
  comes the run, and its failure is reported with status 1.

  A failure is reported as `Error: ` and its message, and for a base model that cannot be
  found a blank line and the advice how to get it.
-/
import LowRankTuner.Cli.Session
import LowRankTuner.Log.Filter

namespace LowRankTuner.Cli

/-- What a run of the program leaves. -/
structure ProgramResult where
  exitCode : Nat
  stdout : String
  stderr : String
  disk : Disk

/-- The report of a failure on the diagnostics. -/
def errorReport (f : Failure) : String :=
  "Error: " ++ f.message ++ "\n" ++ match f with
    | .environment _ hint => "\n" ++ hint ++ "\n"
    | _ => ""

/-- The line of an event in a log file: its level, its target and its message. -/
def fileLine (e : LogEvent) : String := e.level.name ++ " " ++ e.target ++ ": " ++ e.message

/-- Text lines, each followed by a line break. -/
def unlines (lines : List String) : String := String.join (lines.map (· ++ "\n"))

/-- Opens a log file for appending: its directory is made, then the file, empty when it
is new.  A failure says which step failed and why. -/
def openLogFile (d : Disk) (path : String) : Except String Disk := do
  let d ← match Disk.parentAsWritten path with
    | some p =>
      if p.isEmpty then pure d
      else (d.createDirAll p).mapError fun e => "Failed to create log directory " ++ p ++ ": " ++ e
    | none => pure d
  let failed := fun (e : String) => "Failed to open log file " ++ path ++ ": " ++ e
  if d.isDir path then throw (failed Disk.isADirectory)
  else if d.isFile path then pure d
  else (d.writeBytes path ByteArray.empty).mapError failed

/-- A file with lines appended. -/
def appendLines (d : Disk) (path : String) (lines : List String) : Disk :=
  if lines.isEmpty then d
  else
    let old := (d.readBytes path).toOption.getD ByteArray.empty
    ((d.writeBytes path (old ++ (unlines lines).toUTF8)).toOption).getD d

/-- Runs the program on a command line, its first word the program, in an environment,
on a disk, reading from `host`. -/
def runProgram (argv : List String) (env : List (String × String)) (d : Disk) (host : Host) :
    ProgramResult :=
  match TrainArgs.parse argv env with
  | .error e => if e.isDisplay then ⟨0, e.text, "", d⟩ else ⟨2, "", e.text, d⟩
  | .ok a =>
    match a.loadConfig d env with
    | .error f => ⟨1, "", errorReport f, d⟩
    | .ok c =>
      let filter := LogFilter.ofSpec ((env.lookup "RUST_LOG").getD "")
        ((Level.ofText? c.logging.level).getD .info)
      let notes := unlines filter.notes
      let opened : Except String (Disk × String) := match c.logging.file with
        | none => .ok (d, notes)
        | some path => (openLogFile d path).map fun d => (d, notes ++ notes)
      match opened with
      | .error msg => ⟨1, "", notes ++ "Error: " ++ msg ++ "\n", d⟩
      | .ok (d, notes) =>
        let (r, s) := (a.run c host).run { disk := d }
        let shown := s.events.toList.filter filter.passes
        let disk := match c.logging.file with
          | some path => appendLines s.disk path (shown.map fileLine)
          | none => s.disk
        let stderr := notes ++ unlines (shown.map LogEvent.line)
        match r with
        | .ok _ => ⟨0, s.stdout, stderr, disk⟩
        | .error f => ⟨1, s.stdout, stderr ++ errorReport f, disk⟩

end LowRankTuner.Cli
