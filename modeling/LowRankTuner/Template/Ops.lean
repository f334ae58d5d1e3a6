/-
  LowRankTuner/Template/Ops.lean
  ==============================
  The operators of the template language on values.

  Arithmetic brings both operands to a common kind (`Value.coerce`): two integers are
  computed exactly and must stay within signed 128 bits, a float on either side makes the
  operation a float one, and anything else is the failure `tried to use OP operator on
  unsupported types A and B`.  An integer result outside 128 bits, a division by zero and
  a negative or too large exponent are `unable to calculate A OP B`.

  Some operators do more than arithmetic:

  * `+` joins two sequences or iterators, whose count is known when both counts are, and
    two strings;
  * `*` repeats a string (on either side, to at most 100 000 000 bytes) or a sequence a
    counted number of times;
  * `/` always divides as floats, `//` rounds the quotient toward negative infinity for
    integers and Euclidean for floats, `%` is the Euclidean remainder for integers and the
    remainder truncated toward zero for floats;
  * unary minus negates numbers only, and says no more than `invalid operation` otherwise;
  * `~` joins the printed texts of its operands;
  * `in` looks for a substring, a key, or an equal item.
-/
import LowRankTuner.Template.Repr
import LowRankTuner.Decimal.Arith
import LowRankTuner.Text.Search

namespace LowRankTuner.Template

namespace Value

/-- The failure of an operator on operands of kinds it does not apply to. -/
def impossible (op : String) (a b : Value) : Error :=
  .invalid ("tried to use " ++ op ++ " operator on unsupported types " ++ a.kind ++ " and " ++
    b.kind)

/-- The failure of an operator whose result does not exist or is out of range. -/
def failedOp (op : String) (a b : Value) : Error :=
  .invalid ("unable to calculate " ++ a.display ++ " " ++ op ++ " " ++ b.display)

/-- An integer result, checked against the 128-bit range. -/
def checkedInt (op : String) (a b : Value) (n : Int) : Except Error Value :=
  if fitsSigned 128 n then .ok (.int n) else .error (failedOp op a b)

/-- An arithmetic operator from its integer form (none when undefined) and its float
form. -/
def arith (op : String) (onInts : Int → Int → Option Int) (onFloats : Float → Float → Float)
    (a b : Value) : Except Error Value :=
  match coerce a b with
  | some (.ints m n) =>
    match onInts m n with
    | some r => checkedInt op a b r
    | Option.none => .error (failedOp op a b)
  | some (.floats x y) => .ok (.float (onFloats x y))
  | _ => .error (impossible op a b)

/-- The value is a sequence or an iterator, the kinds that `+` joins. -/
def isSequential : Value → Bool
  | .seq _ | .iter .. | .group .. => true
  | _ => false

/-- The value is an object rather than a primitive. -/
def isObject : Value → Bool
  | .undefined | .none | .bool _ | .int _ | .float _ | .str _ | .safe _ => false
  | _ => true

/-- `a + b`. -/
def add (a b : Value) : Except Error Value :=
  if a.isSequential && b.isSequential then
    let (xs, m) := a.iterate?.getD ([], false)
    let (ys, n) := b.iterate?.getD ([], false)
    .ok (.iter (xs ++ ys) (m && n))
  else
    match coerce a b with
    | some (.strs s t) => .ok (.str (s ++ t))
    | _ => arith "+" (fun m n => some (m + n)) (· + ·) a b

/-- `a - b`. -/
def sub (a b : Value) : Except Error Value := arith "-" (fun m n => some (m - n)) (· - ·) a b

/-- The items of a sequence repeated `n` times. -/
def repeatItems (xs : List Value) (n : Nat) : List Value :=
  if xs.isEmpty then [] else (List.replicate n xs).flatten

/-- The largest number of bytes a repeated string may have. -/
def repeatLimit : Nat := 100000000

/-- A string repeated `n` times, unless the result would pass the limit of bytes. -/
def repeatString (s : String) (n : Nat) : Except Error String :=
  if s.isEmpty then .ok ""
  else if s.utf8ByteSize * n > repeatLimit then .error (.invalid "repeated string is too large")
  else .ok (String.join (List.replicate n s))

/-- `a * b`: a string on either side is repeated, else a sequence on the left (or on the
right when the left is no object), else numbers are multiplied. -/
def mul (a b : Value) : Except Error Value :=
  let strCase := match a.asStr?, b.asStr? with
    | some s, _ => some (s, b)
    | Option.none, some s => some (s, a)
    | _, _ => Option.none
  match strCase with
  | some (s, n) =>
    match n.asCount? with
    | some k => return .str (← repeatString s k)
    | Option.none => .error (.invalid "strings can only be multiplied with integers")
  | Option.none =>
    let seqCase := if a.isObject then (if a.isSequential then some (a, b) else Option.none)
      else if b.isSequential then some (b, a) else Option.none
    match seqCase with
    | some (xs, n) =>
      match n.asCount? with
      | some k => .ok (.iter (repeatItems ((xs.iterate?.map (·.1)).getD []) k) true)
      | Option.none =>
        .error (.invalid "sequences and iterables can only be multiplied with integers")
    | Option.none => arith "*" (fun m n => some (m * n)) (· * ·) a b

/-- `a / b`, always as floats. -/
def div (a b : Value) : Except Error Value :=
  match a.asFloat?, b.asFloat? with
  | some x, some y => .ok (.float (x / y))
  | _, _ => .error (impossible "/" a b)

/-- `a // b`: integers rounded toward negative infinity of the Euclidean kind, floats by
Euclidean division. -/
def floorDiv (a b : Value) : Except Error Value :=
  arith "//" (fun m n => if n == 0 then Option.none else some (Int.ediv m n)) floatDivEuclid a b

/-- `a % b`: the Euclidean remainder of integers, the truncated remainder of floats. -/
def rem (a b : Value) : Except Error Value :=
  arith "%" (fun m n => if n == 0 then Option.none else some (Int.emod m n)) floatRem a b

/-- An integer power whose result fits in 128 bits; bases of size one never grow, other
bases pass the range before the exponent reaches 128. -/
def powSmall (m : Int) (n : Nat) : Option Int :=
  if m == 0 then some (if n == 0 then 1 else 0)
  else if m == 1 then some 1
  else if m == -1 then some (if n % 2 == 0 then 1 else -1)
  else if n < 128 then some (Int.pow m n) else Option.none

/-- `a ** b`: integer powers with an exponent below `2^32`, float powers otherwise. -/
def pow (a b : Value) : Except Error Value :=
  arith "**" (fun m n => if 0 ≤ n && n < Int.pow 2 32 then powSmall m n.toNat else Option.none)
    Float.pow a b

/-- `-v`: floats and integers negate, an integer at the bottom of the range overflows. -/
def neg (v : Value) : Except Error Value :=
  match v with
  | .float x => .ok (.float (-x))
  | .int n => if fitsSigned 128 n then
      (if fitsSigned 128 (-n) then .ok (.int (-n)) else .error (.invalid "overflow"))
    else .error (.bare .invalidOperation)
  | _ => .error (.bare .invalidOperation)

/-- `a ~ b`: the printed texts joined. -/
def concat (a b : Value) : Value := .str (a.display ++ b.display)

/-- `v in container`. -/
def contains (container v : Value) : Except Error Bool :=
  match container with
  | .undefined => .ok false
  | .str s | .safe s =>
    let needle := (v.asStr?).getD v.display
    .ok (Text.occursIn needle.toList s.toList)
  | .map fs | .kwargs fs => .ok (findKey fs v).isSome
  | .macroRef .. | .loop .. => .ok ((container.getValue? v).isSome)
  | .seq _ | .iter .. | .group .. =>
    .ok (((container.iterate?.map (·.1)).getD []).any (equals · v))
  | .func _ => .ok false
  | _ => .error (.invalid "cannot perform a containment check on this value")

end Value

end LowRankTuner.Template
