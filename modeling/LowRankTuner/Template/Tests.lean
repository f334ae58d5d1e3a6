/-
  LowRankTuner/Template/Tests.lean
  ================================
  The tests of the template language: `value is name(args)`.

  Tests of kind ask for the kind of the value (`number`, `string`, `sequence`, `mapping`
  …); `integer` and `int` hold of integers only, `float` of floats only.  `odd` and
  `even` hold of values that are integers, floats without a fraction included;
  `divisibleby` divides after bringing both sides to a common kind.  The comparison tests
  compare as the operators do, and `in` holds when the containment check succeeds and
  says yes.  `lower` and `upper` ask every character of a string for its case, and
  `filter` and `test` whether a name is a filter or a test.

  The chat engine's own `startswith` and `endswith` take two strings; `startingwith` and
  `endingwith` take the printed texts of any two values.
-/
import LowRankTuner.Template.Args
import LowRankTuner.Template.Ops
import LowRankTuner.Text.Case

namespace LowRankTuner.Template

/-- The names of the tests. -/
def testNames : List String :=
  ["!=", "<", "<=", "==", ">", ">=", "boolean", "defined", "divisibleby", "endingwith",
    "endswith", "eq", "equalto", "escaped", "even", "false", "filter", "float", "ge",
    "greaterthan", "gt", "in", "int", "integer", "iterable", "le", "lessthan", "lower", "lt",
    "mapping", "ne", "none", "number", "odd", "safe", "sameas", "sequence", "startingwith",
    "startswith", "string", "test", "true", "undefined", "upper"]

/-- The names of the filters. -/
def filterNames : List String :=
  ["abs", "attr", "batch", "bool", "capitalize", "chain", "count", "d", "default",
    "dictsort", "e", "escape", "first", "float", "format", "groupby", "indent", "int",
    "items", "join", "last", "length", "lines", "list", "lower", "map", "max", "min",
    "pprint", "reject", "rejectattr", "replace", "reverse", "round", "safe", "select",
    "selectattr", "slice", "sort", "split", "string", "sum", "title", "tojson", "trim",
    "unique", "upper", "zip"]

namespace Value

/-- One value is divisible by another after both are brought to a common kind; a zero
divisor divides nothing. -/
def divisibleBy (a b : Value) : Bool :=
  match coerce a b with
  | some (.ints m n) => n != 0 && Int.emod m n == 0
  | some (.floats x y) => y != 0.0 && floatRem x y == 0.0
  | _ => false

/-- Two values are the same: objects when equal, other values when of one kind, both
integers or both not, and equal. -/
def sameAs (a b : Value) : Bool :=
  match a.isObject, b.isObject with
  | true, true => equals a b
  | false, false =>
    a.kind == b.kind && (a matches .int _) == (b matches .int _) && equals a b
  | _, _ => false

end Value

/-- A test on one value. -/
def unaryTest (f : Value → Bool) (args : List Value) : Except Error Bool :=
  Binder.bindAll (do let v ← Binder.value; return f v) args

/-- A test comparing two values. -/
def binaryTest (f : Value → Value → Bool) (args : List Value) : Except Error Bool :=
  Binder.bindAll (do
    let v ← Binder.value
    let o ← Binder.value
    return f v o) args

/-- A test on two texts. -/
def textTest (convert : Value → Except Error String) (f : String → String → Bool)
    (args : List Value) : Except Error Bool :=
  Binder.bindAll (do
    let s ← Binder.conv convert
    let t ← Binder.conv convert
    return f s t) args

/-- Applies a test to its arguments, the tested value first; none for an unknown test. -/
def applyTest? (name : String) (args : List Value) : Option (Except Error Bool) :=
  let cmp := fun (ok : Ordering → Bool) => binaryTest (fun a b => ok (Value.compare a b)) args
  match name with
  | "defined" => some (unaryTest (!·.isUndefined) args)
  | "undefined" => some (unaryTest Value.isUndefined args)
  | "none" => some (unaryTest (· matches .none) args)
  | "safe" | "escaped" => some (unaryTest (· matches .safe _) args)
  | "odd" => some (unaryTest (fun v => (v.toI128?.map (Int.emod · 2 != 0)).getD false) args)
  | "even" => some (unaryTest (fun v => (v.toI128?.map (Int.emod · 2 == 0)).getD false) args)
  | "divisibleby" => some (binaryTest Value.divisibleBy args)
  | "number" => some (unaryTest Value.isNumber args)
  | "integer" | "int" => some (unaryTest (· matches .int _) args)
  | "float" => some (unaryTest (· matches .float _) args)
  | "string" => some (unaryTest (·.kind == "string") args)
  | "sequence" => some (unaryTest (·.kind == "sequence") args)
  | "boolean" => some (unaryTest (·.kind == "bool") args)
  | "mapping" => some (unaryTest (·.kind == "map") args)
  | "iterable" => some (unaryTest (·.iterate?.isSome) args)
  | "true" => some (unaryTest (· matches .bool true) args)
  | "false" => some (unaryTest (· matches .bool false) args)
  | "startingwith" => some (textTest Value.argText (fun s t => s.startsWith t) args)
  | "endingwith" => some (textTest Value.argText (fun s t => s.endsWith t) args)
  | "startswith" => some (textTest Value.argStr (fun s t => s.startsWith t) args)
  | "endswith" => some (textTest Value.argStr (fun s t => s.endsWith t) args)
  | "filter" => some (Binder.bindAll (do
      let n ← Binder.conv Value.argStr
      return filterNames.contains n) args)
  | "test" => some (Binder.bindAll (do
      let n ← Binder.conv Value.argStr
      return testNames.contains n) args)
  | "in" => some (binaryTest (fun v c => match Value.contains c v with
      | .ok b => b
      | .error _ => false) args)
  | "eq" | "equalto" | "==" => some (binaryTest Value.equals args)
  | "ne" | "!=" => some (binaryTest (fun a b => !Value.equals a b) args)
  | "lt" | "lessthan" | "<" => some (cmp (· == .lt))
  | "le" | "<=" => some (cmp (· != .gt))
  | "gt" | "greaterthan" | ">" => some (cmp (· == .gt))
  | "ge" | ">=" => some (cmp (· != .lt))
  | "sameas" => some (binaryTest Value.sameAs args)
  | "lower" => some (Binder.bindAll (do
      let s ← Binder.conv Value.argStr
      return s.toList.all Text.isLowercase) args)
  | "upper" => some (Binder.bindAll (do
      let s ← Binder.conv Value.argStr
      return s.toList.all Text.isUppercase) args)
  | _ => none

end LowRankTuner.Template
