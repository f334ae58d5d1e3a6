/-
  LowRankTuner/Log/Event.lean
  ===========================
  Diagnostic events: what a run reports besides its banners.

  An event has a level of severity, a target naming the part of the trainer it comes
  from, and a message.  Levels run from the most severe, `ERROR`, to the most verbose,
  `TRACE`; a filter passes an event when its level is at or above the filter's
  threshold of verbosity.  On the terminal an event is written as its level's name, a
  blank and its message.

  A computation that reports events as it goes runs in `ReportM`: the events it reported
  before a failure stay reported.
-/
import LowRankTuner.Decimal.Read
import LowRankTuner.Failure

namespace LowRankTuner

/-- How severe a diagnostic event is, from the most severe to the most verbose. -/
inductive Level where
  | error | warn | info | debug | trace
  deriving DecidableEq, Repr

namespace Level

/-- The verbosity of a level: 1 for errors up to 5 for traces. -/
def rank : Level → Nat
  | .error => 1
  | .warn => 2
  | .info => 3
  | .debug => 4
  | .trace => 5

/-- The level of a verbosity from 1 to 5. -/
def ofRank? : Nat → Option Level
  | 1 => some .error
  | 2 => some .warn
  | 3 => some .info
  | 4 => some .debug
  | 5 => some .trace
  | _ => none

/-- The name a level is written with. -/
def name : Level → String
  | .error => "ERROR"
  | .warn => "WARN"
  | .info => "INFO"
  | .debug => "DEBUG"
  | .trace => "TRACE"

/-- The level a setting names: its name in any case, or its verbosity as a numeral. -/
def ofText? (s : String) : Option Level :=
  match Decimal.readNatBelow (Nat.pow 2 64) s with
  | .ok n => ofRank? n
  | .error _ => [Level.error, .warn, .info, .debug, .trace].find? (·.name == s.toUpper)

end Level

-- The parts of the trainer that events come from.
namespace LogTarget

def queue : String := "lora_train_core::training::examples"
def tokenizer : String := "lora_train_core::runtime::tokenizer"
def template : String := "lora_train_core::runtime::template_engine"
def loader : String := "lora_train_core::runtime::model_loader"
def model : String := "lora_train_core::runtime::causal_lm"
def dataset : String := "lora_train_core::training::dataset"
def pipeline : String := "lora_train_core::cli::handlers"
def exporter : String := "lora_train_core::training::export"

end LogTarget

/-- A diagnostic event. -/
structure LogEvent where
  level : Level
  target : String
  message : String
  deriving DecidableEq, Repr

/-- The terminal line of an event: its level's name, a blank and its message. -/
def LogEvent.line (e : LogEvent) : String := e.level.name ++ " " ++ e.message

/-- A computation that may fail and reports events, in order, as it goes. -/
abbrev ReportM := ExceptT Failure (StateM (Array LogEvent))

namespace ReportM

/-- Reports an event. -/
def note (level : Level) (target message : String) : ReportM Unit :=
  modify (·.push ⟨level, target, message⟩)

/-- The outcome of a computation that reports nothing. -/
def lift {α : Type} (r : Except Failure α) : ReportM α := ExceptT.mk (pure r)

/-- The outcome of a computation, with its events left aside. -/
def result {α : Type} (m : ReportM α) : Except Failure α := (m.run.run #[]).1

/-- The events a computation reports, whether or not it fails. -/
def events {α : Type} (m : ReportM α) : Array LogEvent := (m.run.run #[]).2

end ReportM

end LowRankTuner
