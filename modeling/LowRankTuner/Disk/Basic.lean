/-
  LowRankTuner/Disk/Basic.lean
  ============================
  A file tree held in memory, with the operations the trainer performs on files.

  A `Disk` maps absolute component lists to entries, each a file with its bytes or a
  directory, and has a working directory against which relative paths are read.  The
  operations fail with the operating system's words (`noEntry`, `isADirectory`, …), so
  that a failed read or write reports what a file system would.
-/
import LowRankTuner.Disk.Path
import LowRankTuner.Text.Quote

namespace LowRankTuner

/-- A file with its bytes, or a directory. -/
inductive Entry where
  | file (data : ByteArray)
  | dir

/-- A file tree with a working directory. -/
structure Disk where
  entries : List (List String × Entry)
  cwd : List String

namespace Disk

/-- The words of a missing entry. -/
def noEntry : String := "No such file or directory (os error 2)"

/-- The words of a directory where a file was wanted. -/
def isADirectory : String := "Is a directory (os error 21)"

/-- The words of a file where a directory was wanted. -/
def notADirectory : String := "Not a directory (os error 20)"

/-- The words of an entry that is already there. -/
def alreadyExists : String := "File exists (os error 17)"

/-- The structured form of the words of a failed operation, as an error record prints it:
the error number, its kind and the words without the number. -/
def osErrorRecord (text : String) : String :=
  let kinds : List (String × Nat × String) :=
    [(noEntry, 2, "NotFound"), (alreadyExists, 17, "AlreadyExists"),
     (notADirectory, 20, "NotADirectory"), (isADirectory, 21, "IsADirectory")]
  match kinds.lookup text with
  | some (code, kind) =>
    let words := (text.splitOn " (os error").headD text
    "Os \x7b code: " ++ toString code ++ ", kind: " ++ kind ++ ", message: " ++ Text.quoted words ++ " \x7d"
  | none => "Custom \x7b kind: Other, error: " ++ Text.quoted text ++ " \x7d"

/-- The empty tree with the given working directory, which exists. -/
def empty (cwd : List String) : Disk :=
  { entries := (List.range cwd.length).map (fun i => (cwd.take (i + 1), Entry.dir)), cwd }

/-- The absolute components of a path. -/
def locate (d : Disk) (p : String) : List String := resolve d.cwd p

/-- The entry at absolute components. -/
def entryAt (d : Disk) (k : List String) : Option Entry :=
  if k.isEmpty then some .dir else (d.entries.find? (·.1 == k)).map (·.2)

/-- The entry at a path. -/
def entry? (d : Disk) (p : String) : Option Entry := d.entryAt (d.locate p)

/-- The path names a file. -/
def isFile (d : Disk) (p : String) : Bool :=
  match d.entry? p with
  | some (.file _) => true
  | _ => false

/-- The path names a directory. -/
def isDir (d : Disk) (p : String) : Bool :=
  match d.entry? p with
  | some .dir => true
  | _ => false

/-- The path names something. -/
def exists? (d : Disk) (p : String) : Bool := (d.entry? p).isSome

/-- The bytes of a file. -/
def readBytes (d : Disk) (p : String) : Except String ByteArray :=
  match d.entry? p with
  | some (.file b) => .ok b
  | some .dir => .error isADirectory
  | none => .error noEntry

/-- The text of a file; bytes that are not UTF-8 are refused. -/
def readText (d : Disk) (p : String) : Except String String := do
  let b ← d.readBytes p
  match String.fromUTF8? b with
  | some s => .ok s
  | none => .error "stream did not contain valid UTF-8"

/-- Sets the entry at absolute components, replacing an entry there. -/
def setEntry (d : Disk) (k : List String) (e : Entry) : Disk :=
  { d with entries := (d.entries.filter (·.1 != k)) ++ [(k, e)] }

/-- Writes a file, whose directory must exist; an existing file is replaced.  A path
written with a trailing separator names a directory, so no file is written there. -/
def writeBytes (d : Disk) (p : String) (b : ByteArray) : Except String Disk :=
  let k := d.locate p
  match d.entryAt k.dropLast, d.entryAt k with
  | some .dir, some .dir => .error isADirectory
  | some .dir, some (.file _) =>
    if p.endsWith "/" then .error notADirectory else .ok (d.setEntry k (.file b))
  | some .dir, none => if p.endsWith "/" then .error isADirectory else .ok (d.setEntry k (.file b))
  | some (.file _), _ => .error notADirectory
  | none, _ => .error noEntry

/-- Writes a text file. -/
def writeText (d : Disk) (p : String) (s : String) : Except String Disk :=
  d.writeBytes p s.toUTF8

/-- Creates a directory and every missing directory above it. -/
def createDirAll (d : Disk) (p : String) : Except String Disk :=
  let k := d.locate p
  (List.range k.length).foldlM (fun (acc : Disk) i =>
    let pre := k.take (i + 1)
    match acc.entryAt pre with
    | some .dir => .ok acc
    | some (.file _) => .error (if i + 1 == k.length then alreadyExists else notADirectory)
    | none => .ok (acc.setEntry pre .dir)) d

/-- The entries directly inside a directory, by name, in name order. -/
def listDir (d : Disk) (p : String) : Except String (List (String × Entry)) :=
  let k := d.locate p
  match d.entryAt k with
  | some .dir =>
    let direct := d.entries.filterMap (fun (k', e) =>
      if k'.length == k.length + 1 && k'.take k.length == k then
        k'.getLast?.map (fun n => (n, e))
      else none)
    .ok (direct.mergeSort (fun a b => a.1 ≤ b.1))
  | some (.file _) => .error notADirectory
  | none => .error noEntry

/-- Removes a directory and everything inside it. -/
def removeDirAll (d : Disk) (p : String) : Except String Disk :=
  let k := d.locate p
  match d.entryAt k with
  | some .dir => .ok { d with entries := d.entries.filter (fun e => e.1.take k.length != k) }
  | some (.file _) => .error notADirectory
  | none => .error noEntry

/-- Moves a file to a new path in an existing directory. -/
def rename (d : Disk) (src dst : String) : Except String Disk :=
  let ks := d.locate src
  let kd := d.locate dst
  match d.entryAt ks with
  | some (.file b) =>
    match d.entryAt kd.dropLast with
    | some .dir =>
      .ok ({ d with entries := d.entries.filter (·.1 != ks) }.setEntry kd (.file b))
    | _ => .error noEntry
  | some .dir => .error isADirectory
  | none => .error noEntry

end Disk

end LowRankTuner
