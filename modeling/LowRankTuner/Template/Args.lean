/-
  LowRankTuner/Template/Args.lean
  ===============================
  How the arguments of a call reach the parameters of a filter, a test or a function.

  A call passes its positional values in order, and its keyword arguments, if any, as one
  more value after them: a `kwargs` map sorted by name.  Parameters take values left to
  right, and each kind of parameter converts its value:

  * a value parameter takes any value and must be given (`missing argument`);
  * an optional parameter reads none and undefined as absent;
  * a text parameter takes the printed text of any value but keyword arguments, a string
    parameter only strings (`value is not a string`);
  * integer, float and boolean parameters take numbers and booleans in range
    (`cannot convert KIND to TYPE`).

  A callee whose last parameter collects keyword arguments takes the trailing `kwargs`
  value before the others, so that it never fills a positional parameter; for every
  other callee keyword arguments are one more positional value.  A value left over is
  `too many arguments`, and so is a keyword the callee did not read.
-/
import LowRankTuner.Template.Repr

namespace LowRankTuner.Template

namespace Value

/-- The failure of converting a value to a parameter type. -/
def cannotConvert (v : Value) (target : String) : Error :=
  .invalid ("cannot convert " ++ v.kind ++ " to " ++ target)

/-- The value as text: the printed text of everything but keyword arguments. -/
def argText : Value → Except Error String
  | .kwargs _ => .error (.invalid "cannot convert kwargs to string")
  | v => .ok v.display

/-- The value as a string, which it must be. -/
def argStr (v : Value) : Except Error String :=
  match v.asStr? with
  | some s => .ok s
  | Option.none => .error (.invalid "value is not a string")

/-- The value as an integer of a type with a range: booleans, integers in range, and
floats that are integers within 64 bits and in range. -/
def argInt (target : String) (lo hi : Int) (v : Value) : Except Error Int :=
  let inRange := fun (n : Int) => lo ≤ n && n ≤ hi
  match v with
  | .bool b => .ok (if b then 1 else 0)
  | .int n => if inRange n then .ok n else .error (cannotConvert v target)
  | .float x =>
    match floatToI64? x with
    | some n => if inRange n then .ok n else .error (cannotConvert v target)
    | Option.none => .error (cannotConvert v target)
  | _ => .error (cannotConvert v target)

/-- The value as a count of machine size. -/
def argCount (v : Value) : Except Error Nat :=
  (argInt "usize" 0 (Int.pow 2 64 - 1) v).map Int.toNat

/-- The value as a signed machine-size integer. -/
def argIsize (v : Value) : Except Error Int := argInt "isize" (-Int.pow 2 63) (Int.pow 2 63 - 1) v

/-- The value as a 64-bit integer. -/
def argI64 (v : Value) : Except Error Int := argInt "i64" (-Int.pow 2 63) (Int.pow 2 63 - 1) v

/-- The value as a 32-bit integer. -/
def argI32 (v : Value) : Except Error Int := argInt "i32" (-Int.pow 2 31) (Int.pow 2 31 - 1) v

/-- The value as a float. -/
def argFloat (v : Value) : Except Error Float :=
  match v.asFloat? with
  | some x => .ok x
  | Option.none => .error (cannotConvert v "f64")

/-- The value as a boolean, which it must be. -/
def argBool : Value → Except Error Bool
  | .bool b => .ok b
  | v => .error (cannotConvert v "bool")

end Value

/-- Keyword arguments as a callee receives them. -/
structure Kwargs where
  fields : List (Value × Value) := []

namespace Kwargs

/-- The value of a keyword, when given and neither none nor undefined. -/
def get? (kw : Kwargs) (name : String) : Option Value :=
  match Value.findKey kw.fields (.str name) with
  | some v => if v.isNoneish then none else some v
  | none => none

/-- The keyword was given at all. -/
def has (kw : Kwargs) (name : String) : Bool := (Value.findKey kw.fields (.str name)).isSome

/-- Refuses the first keyword that is not among those read. -/
def checkUsed (kw : Kwargs) (read : List String) : Except Error Unit :=
  match kw.fields.find? (fun (k, _) => !(k.asStr?.any read.contains)) with
  | some (k, _) =>
    .error ⟨.tooManyArguments, some ("unknown keyword argument '" ++ k.display ++ "'"), 0⟩
  | none => .ok ()

/-- A boolean keyword, false when absent. -/
def flag (kw : Kwargs) (name : String) : Except Error Bool :=
  match kw.get? name with
  | some v => v.argBool
  | none => .ok false

/-- A string keyword. -/
def str? (kw : Kwargs) (name : String) : Except Error (Option String) :=
  match kw.get? name with
  | some v => some <$> v.argStr
  | none => .ok none

/-- A parameter given by position, else by the keyword `name`, else a default. -/
def orKeyword {α : Type} (kw : Kwargs) (given : Option α) (name : String)
    (read : Value → Except Error α) (default : α) : Except Error α :=
  match given with
  | some x => .ok x
  | none =>
    match kw.get? name with
    | some x => read x
    | none => .ok default

end Kwargs

/-- Binding the values of a call to parameters, left to right. -/
abbrev Binder := StateT (List Value) (Except Error)

namespace Binder

/-- The next value, if any. -/
def next? : Binder (Option Value) := do
  match ← get with
  | v :: rest => set rest; return some v
  | [] => return none

/-- A parameter that must be given. -/
def value : Binder Value := do
  match ← next? with
  | some v => return v
  | none => throw (.bare .missingArgument)

/-- An optional parameter: none and undefined count as absent. -/
def opt : Binder (Option Value) := do
  match ← next? with
  | some v => return if v.isNoneish then none else some v
  | none => return none

/-- All values left. -/
def rest : Binder (List Value) := do
  let vs ← get
  set ([] : List Value)
  return vs

/-- A required parameter converted. -/
def conv {α : Type} (f : Value → Except Error α) : Binder α := do
  let v ← value
  match f v with
  | .ok a => return a
  | .error e => throw e

/-- An optional parameter converted. -/
def convOpt {α : Type} (f : Value → Except Error α) : Binder (Option α) := do
  match ← opt with
  | some v => match f v with
    | .ok a => return some a
    | .error e => throw e
  | none => return none

/-- Binds all values, refusing any left over. -/
def bindAll {α : Type} (b : Binder α) (vs : List Value) : Except Error α := do
  let (a, left) ← StateT.run b vs
  if left.isEmpty then return a else throw (.bare .tooManyArguments)

/-- Binds values for a callee that collects keyword arguments last: a trailing `kwargs`
value is taken first. -/
def runWithKwargs {α : Type} (b : Kwargs → Binder α) (vs : List Value) : Except Error α :=
  match vs.getLast? with
  | some (.kwargs fs) => bindAll (b ⟨fs⟩) vs.dropLast
  | _ => bindAll (b {}) vs

end Binder

end LowRankTuner.Template
