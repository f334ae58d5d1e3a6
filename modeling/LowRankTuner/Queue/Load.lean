/-
  LowRankTuner/Queue/Load.lean
  ============================
  Reading a training queue: one JSON object per line.

  Every line of the queue file is accounted for: it either becomes a record or is skipped
  with a warning that names the line and the reason (`LineFault`).  A line is skipped when
  it is blank, is not JSON, is not an object, or lacks a string `query` or `response`
  (the query is checked first).  The weight is read from any JSON number and sanitized; a
  record whose weight was missing, not a number, or replaced by the default counts as
  defaulted.  Loading fails only when the file is missing or is not UTF-8; a queue with no
  valid line is refused later, by `LoadReport.intoRecords`.
-/
import LowRankTuner.Queue.Summary
import LowRankTuner.Json.Read
import LowRankTuner.Text.Blank
import LowRankTuner.Text.Lines
import LowRankTuner.Disk.Basic
import LowRankTuner.Failure

namespace LowRankTuner

/-- Why a queue line is skipped. -/
inductive LineFault where
  | blank
  | invalidJson (e : Json.Error)
  | notObject
  | nonString (field : String)
  | missingField
  deriving DecidableEq, Repr

/-- The reason given for a skipped line. -/
def LineFault.reason : LineFault → String
  | .blank => "is blank"
  | .invalidJson e => "invalid JSON: " ++ e.message
  | .notObject => "is not a JSON object"
  | .nonString f => "has non-string " ++ f
  | .missingField => "missing query/response"

/-- A skipped line: its number from 1, and the reason. -/
structure LineWarning where
  line : Nat
  reason : String
  deriving DecidableEq, Repr

/-- The warning as printed. -/
def LineWarning.text (w : LineWarning) : String :=
  "Line " ++ toString w.line ++ " " ++ w.reason ++ ", skipping"

/-- A string field of a queue object. -/
def queueField (fields : List (String × Json)) (name : String) : Except LineFault String :=
  match (Json.obj fields).field? name with
  | some (.str s) => .ok s
  | some _ => .error (.nonString name)
  | none => .error .missingField

/-- The record of one line, and whether its weight was defaulted. -/
def parseRecord (line : String) : Except LineFault (TrainingRecord × Bool) := do
  if Text.isBlank line then throw .blank
  let v ← match Json.parse line with
    | .ok v => pure v
    | .error e => throw (.invalidJson e)
  let fields ← match v with
    | .obj fs => pure fs
    | _ => throw .notObject
  let query ← queueField fields "query"
  let response ← queueField fields "response"
  let raw := ((Json.obj fields).field? "weight").bind Json.float?
  let weight := sanitizeWeight raw
  let defaulted := match raw with
    | some w => !(w == weight)
    | none => true
  return (⟨query, response, weight⟩, defaulted)

/-- Everything the loader found in a queue file. -/
structure LoadReport where
  path : String
  records : List TrainingRecord
  warnings : List LineWarning
  defaultedWeights : Nat
  summary : WeightSummary

/-- The report of the lines of a queue, in order. -/
def LoadReport.ofLines (path : String) (ls : List String) : LoadReport :=
  let step := fun (acc : List TrainingRecord × List LineWarning × Nat) (il : Nat × String) =>
    let (rs, ws, n) := acc
    match parseRecord il.2 with
    | .ok (r, d) => (r :: rs, ws, if d then n + 1 else n)
    | .error f => (rs, ⟨il.1 + 1, f.reason⟩ :: ws, n)
  let (rs, ws, n) := (ls.zipIdx.map (fun (l, i) => (i, l))).foldl step ([], [], 0)
  { path, records := rs.reverse, warnings := ws.reverse, defaultedWeights := n,
    summary := WeightSummary.ofRecords rs.reverse }

/-- Reads and checks every line of the queue file at `path`. -/
def loadQueue (d : Disk) (path : String) : Except Failure LoadReport := do
  if !d.isFile path then throw (.queueNotFound path)
  let content ← match d.readText path with
    | .ok s => pure s
    | .error e => throw (.io e)
  return LoadReport.ofLines path (Text.lines content)

/-- The records of the report, refused when there are none. -/
def LoadReport.intoRecords (r : LoadReport) : Except Failure (List TrainingRecord) :=
  if r.records.isEmpty then .error (.noValidRecords r.path r.warnings.length)
  else .ok r.records

end LowRankTuner
