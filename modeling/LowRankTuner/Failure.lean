/-
  LowRankTuner/Failure.lean
  =========================
  Why an operation of the trainer stops, and what it says.

  Each constructor is one cause; `Failure.message` is the one place where causes become
  text.  `aborted` is an arithmetic fault that ends the computation outright, such as a
  division by zero in a step count; the rest are the reported errors of the trainer.
-/
namespace LowRankTuner

/-- The causes for which an operation of the trainer stops. -/
inductive Failure where
  /-- The base model cannot be found; the hint says how to get it. -/
  | environment (detail hint : String)
  | queueNotFound (path : String)
  | noValidRecords (path : String) (skipped : Nat)
  | invalidConfig (detail : String)
  | tokenizer (detail : String)
  | template (detail : String)
  | training (detail : String)
  | io (detail : String)
  | json (detail : String)
  | tensor (detail : String)
  | safetensors (detail : String)
  | config (detail : String)
  /-- An arithmetic fault that ends the computation, such as a division by zero. -/
  | aborted (detail : String)
  deriving DecidableEq, Repr

/-- The text of a failure. -/
def Failure.message : Failure → String
  | .environment d _ => d
  | .queueNotFound p => "Training queue not found: " ++ p
  | .noValidRecords p _ => "No valid examples found in training queue " ++ p
  | .invalidConfig d => "Invalid configuration: " ++ d
  | .tokenizer d => "Tokenizer error: " ++ d
  | .template d => "Chat template error: " ++ d
  | .training d => "Training failed: " ++ d
  | .io d => "I/O error: " ++ d
  | .json d => "JSON error: " ++ d
  | .tensor d => "Tensor error: " ++ d
  | .safetensors d => "Safetensors error: " ++ d
  | .config d => "Configuration error: " ++ d
  | .aborted d => d

/-- The text of a division by zero. -/
def divisionByZero : String := "attempt to divide by zero"

/-- The text of a remainder by zero. -/
def remainderByZero : String := "attempt to calculate the remainder with a divisor of zero"

/-- The text of a product past the 64-bit range. -/
def multiplyOverflow : String := "attempt to multiply with overflow"

end LowRankTuner
