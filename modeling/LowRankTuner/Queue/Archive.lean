/-
  LowRankTuner/Queue/Archive.lean
  ===============================
  Putting a consumed queue file aside.

  After a successful run the queue file may be renamed, in its own directory (the working
  directory when its path names none), to `training_queue_archive_<stamp>.jsonl`, the stamp
  being the local time of the run.  When that name is taken the suffixes `_1`, `_2`, …
  are tried in turn before the extension, and the first free name is used.  A disk with
  `n` entries takes at most `n` of the names, so `n + 1` tries always find a free one.
-/
import LowRankTuner.Disk.Basic
import LowRankTuner.Failure

namespace LowRankTuner

/-- The file name of an archived queue with a stamp and a suffix, none for suffix 0. -/
def archiveName (stamp : String) (suffix : Nat) : String :=
  "training_queue_archive_" ++ stamp ++ (if suffix == 0 then "" else "_" ++ toString suffix) ++
    ".jsonl"

/-- The first archive path in `dir` that the disk does not hold, trying the suffixes from
`suffix` on, at most `fuel + 1` of them. -/
def freeArchivePath (d : Disk) (dir stamp : String) : Nat → Nat → String
  | 0, suffix => Disk.join dir (archiveName stamp suffix)
  | fuel + 1, suffix =>
    let p := Disk.join dir (archiveName stamp suffix)
    if d.exists? p then freeArchivePath d dir stamp fuel (suffix + 1) else p

/-- The directory a queue file is archived in: that of its path, or `.` when it has
none. -/
def archiveDir (path : String) : String := (Disk.parentAsWritten path).getD "."

/-- The path a queue file is archived to. -/
def archivePath (d : Disk) (path stamp : String) : String :=
  freeArchivePath d (archiveDir path) stamp d.entries.length 0

/-- Renames a queue file to its archive path; the result is the disk after the move and
that path. -/
def archiveQueue (d : Disk) (path stamp : String) : Except Failure (Disk × String) := do
  let target := archivePath d path stamp
  let moved ← (d.rename path target).mapError Failure.io
  pure (moved, target)

end LowRankTuner
