/-
  LowRankTuner/Log/Filter.lean
  ============================
  Which diagnostic events a run shows.

  A filter is written as directives separated by commas; empty ones are skipped.  A
  directive has the shape `target[span{field,…}]=level`, every part optional, and is read
  left to right by a small automaton over the directive with its white space trimmed:

  * it must start with an alphabetic or numeric character (so `½` may start it, `‿` may
    not), `_`, `:`, `-` or `[`;
  * a target runs up to `=` or `[` and may hold any other character; a directive that is a
    target alone and reads as a level word is a level for every target instead;
  * `[…]` names a span, and `{…}` inside it lists fields, none of them empty; a field
    `name=value` is read at its closing brace, and its value, up to any second `=`, must
    be a boolean, a number, or a pattern that compiles (`Pattern.check`);
  * after `]` only `=` may follow, and after `=` comes a level word, empty meaning every
    level.

  Positions found in the trimmed directive cut the directive as it was written, so white
  space before it shifts every cut by its width: ` info` is the target ` info`.  A level
  word is `off`, `error`, `warn`, `info`, `debug` or `trace` in any ASCII case, or a
  numeral from 0 to 5.  A directive that cannot be read is left out with a note, which
  names the level word when that was the fault.

  A directive that names a span or a field value only holds inside spans, and no event of
  the trainer is inside one; a field name without a value asks that the event have that
  field, and an event has only its message.  An event is decided by the directive with the
  longest target that starts the event's target, a directive without a target coming
  last, and of targets of one length the one that asks for more fields; of two directives
  with one target and one list of fields the later one counts.  No matching directive
  hides the event.  When no directive is given, a single default directive holds for every
  target.
-/
import LowRankTuner.Log.Event
import LowRankTuner.Text.Blank
import LowRankTuner.Text.Alphanumeric
import LowRankTuner.Text.Pattern

namespace LowRankTuner

/-- A directive of a log filter. -/
structure Directive where
  /-- The prefix of the targets it holds for; none for every target. -/
  target : Option String
  /-- The most verbose level it lets through, 0 for none. -/
  threshold : Nat
  /-- It names spans or field values, so it holds for no event outside spans. -/
  inSpans : Bool := false
  /-- The fields an event must have for it to hold. -/
  fields : List String := []
  deriving DecidableEq, Repr

/-- Why a directive cannot be read. -/
inductive DirectiveFault where
  | invalid
  | badLevel
  /-- A field value that is neither a boolean, a number nor a usable pattern. -/
  | badField (fault : Pattern.Fault)
  deriving DecidableEq, Repr

/-- The words of a directive fault. -/
def DirectiveFault.text : DirectiveFault → String
  | .invalid => "invalid filter directive"
  | .badField fault => "invalid field filter: " ++ fault.text
  | .badLevel =>
    "error parsing level filter: expected one of \"off\", \"error\", \"warn\", \"info\", " ++
      "\"debug\", \"trace\", or a number 0-5"

namespace Directive

/-- The level words and the thresholds they name. -/
def levelWords : List (String × Nat) :=
  [("off", 0), ("error", 1), ("warn", 2), ("info", 3), ("debug", 4), ("trace", 5)]

/-- The threshold of a level word: a numeral from 0 to 5, a name in any ASCII case, and
the empty word for errors only. -/
def threshold? (s : String) : Option Nat :=
  match Decimal.readNatBelow (Nat.pow 2 64) s with
  | .ok n => if n ≤ 5 then some n else none
  | .error _ => if s.isEmpty then some 1 else levelWords.lookup s.toLower

/-- The threshold after `=`: every level when nothing follows. -/
def levelAfter (s : String) : Except DirectiveFault Nat :=
  if s.isEmpty then .ok 5 else (threshold? s).elim (.error .badLevel) .ok

/-- The states of the directive reader; positions are byte offsets. -/
inductive ReadState where
  | start
  | levelOrTarget (start : Nat)
  | span (start : Nat)
  | field (start : Nat)
  | fields
  | target
  | level (start : Nat)
  deriving DecidableEq, Repr

/-- What the reader has found so far. -/
structure Found where
  target : Option String := none
  span : Option String := none
  fields : List String := []
  fieldValue : Bool := false

/-- The text between two byte offsets of a directive as written. -/
def cut (bytes : ByteArray) (a b : Nat) : String :=
  (String.fromUTF8? (bytes.extract a b)).getD ""

/-- What is wrong with the value of a field `name=value`, if it has one: a value is a
boolean, a number, or else a pattern that must compile; the value ends at a second `=`. -/
def fieldValueFault? (w : String) : Option Pattern.Fault :=
  match w.splitOn "=" with
  | _ :: v :: _ =>
    if v == "true" || v == "false" || (Decimal.FloatNumeral.read? v).isSome then none
    else match Pattern.check v with
      | .error fault => some fault
      | .ok () => none
  | _ => none

/-- One step of the reader on a character at byte offset `i`. -/
def step (bytes : ByteArray) (st : ReadState) (f : Found) (i : Nat) (c : Char) :
    Except DirectiveFault (ReadState × Found) :=
  match st with
  | .start =>
    if c == '[' then .ok (.span (i + 1), f)
    else if Text.isAlphanumeric c || c == '-' || c == ':' || c == '_' then
      .ok (.levelOrTarget i, f)
    else .error .invalid
  | .levelOrTarget s =>
    if c == '=' then .ok (.level (i + 1), { f with target := some (cut bytes s i) })
    else if c == '[' then .ok (.span (i + 1), { f with target := some (cut bytes s i) })
    else .ok (st, f)
  | .span s =>
    if c == ']' then .ok (.target, { f with span := some (cut bytes s i) })
    else if c == '{' then
      let name := cut bytes s i
      .ok (.field (i + 1), { f with span := if name.isEmpty then none else some name })
    else .ok (st, f)
  | .field s =>
    if c == '}' then
      let w := cut bytes s i
      if w.isEmpty then .error .invalid
      else match fieldValueFault? w with
        | some fault => .error (.badField fault)
        | none =>
          .ok (.fields, { f with fields := f.fields ++ [(w.splitOn "=").headD ""],
                                 fieldValue := f.fieldValue || (w.splitOn "=").length > 1 })
    else .ok (st, f)
  | .fields => if c == ']' then .ok (.target, f) else .error .invalid
  | .target => if c == '=' then .ok (.level (i + 1), f) else .error .invalid
  | .level _ => .ok (st, f)

/-- Runs the reader over characters with their byte offsets. -/
def run (bytes : ByteArray) : ReadState → Found → List (Nat × Char) →
    Except DirectiveFault (ReadState × Found)
  | st, f, [] => .ok (st, f)
  | st, f, (i, c) :: rest => do
    let (st', f') ← step bytes st f i c
    run bytes st' f' rest

/-- The characters of a string with their byte offsets. -/
def offsets (s : String) : List (Nat × Char) :=
  (s.toList.foldl (fun (acc : List (Nat × Char) × Nat) c =>
    ((acc.2, c) :: acc.1, acc.2 + c.utf8Size)) ([], 0)).1.reverse

/-- Reads one directive. -/
def parse (s : String) : Except DirectiveFault Directive := do
  let bytes := s.toUTF8
  let (st, f) ← run bytes .start {} (offsets (Text.trim s))
  let dynamic := f.span.isSome || f.fieldValue
  let make := fun (target : Option String) (t : Nat) =>
    ({ target, threshold := t, inSpans := dynamic, fields := f.fields } : Directive)
  match st with
  | .levelOrTarget s₀ =>
    let word := cut bytes s₀ bytes.size
    match threshold? word with
    | some t => return make none t
    | none => return make (some word) 5
  | .level s₀ => return make f.target (← levelAfter (cut bytes s₀ bytes.size))
  | .target => return make f.target 5
  | _ => throw .invalid

/-- How specific a directive is by its target: one more than the length of its target, 0
without one. -/
def specificity (d : Directive) : Nat :=
  match d.target with
  | some t => t.utf8ByteSize + 1
  | none => 0

/-- One directive is more specific than another: a longer target, or of targets of one
length, more fields. -/
def moreSpecific (d e : Directive) : Bool :=
  d.specificity > e.specificity ||
    (d.specificity == e.specificity && d.fields.length > e.fields.length)

/-- The directive holds for events of a target, which carry only a message. -/
def holdsFor (d : Directive) (target : String) : Bool :=
  !d.inSpans && d.target.all (target.startsWith ·) && d.fields.all (· == "message")

/-- Directives with one more: it replaces the one of the same target, fields and spans,
else it goes last. -/
def addTo (ds : List Directive) (d : Directive) : List Directive :=
  let same := fun (e : Directive) =>
    e.target == d.target && e.inSpans == d.inSpans && e.fields == d.fields
  if ds.any same then ds.map fun e => if same e then d else e
  else ds ++ [d]

end Directive

/-- A log filter: its directives, and the notes on the directives left out. -/
structure LogFilter where
  directives : List Directive
  notes : List String
  deriving Repr

namespace LogFilter

/-- The note on a directive that cannot be read. -/
def ignoredNote (word : String) (fault : DirectiveFault) : String :=
  let tick := (Char.ofNat 96).toString
  "ignoring " ++ tick ++ word ++ tick ++ ": " ++ fault.text

/-- The filter a specification writes, with the default level for every target when it
gives no directive. -/
def ofSpec (spec : String) (default : Level) : LogFilter :=
  let read := ((spec.splitOn ",").filter (!·.isEmpty)).map fun w => (w, Directive.parse w)
  let given := read.filterMap (·.2.toOption)
  let given := if given.isEmpty then [{ target := none, threshold := default.rank }] else given
  { directives := given.foldl Directive.addTo []
    notes := read.filterMap fun (w, d) => match d with
      | .error fault => some (ignoredNote w fault)
      | .ok _ => none }

/-- The directive that decides events of a target: the most specific that holds for it. -/
def decider? (f : LogFilter) (target : String) : Option Directive :=
  (f.directives.filter (·.holdsFor target)).foldl (fun best d =>
    match best with
    | some b => if d.moreSpecific b then some d else some b
    | none => some d) none

/-- The filter lets an event through. -/
def passes (f : LogFilter) (e : LogEvent) : Bool :=
  match f.decider? e.target with
  | some d => e.level.rank ≤ d.threshold
  | none => false

end LogFilter

end LowRankTuner
