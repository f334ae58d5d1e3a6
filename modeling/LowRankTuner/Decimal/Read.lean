/-
  LowRankTuner/Decimal/Read.lean
  ==============================
  Reading decimal numerals: integers and floats as a standard numeral reader takes them.

  An integer numeral is an optional sign and one or more ASCII digits, and a natural one
  has no minus sign.  A float numeral is an optional sign, then `inf`, `infinity` or `nan`
  in any case, or digits with an optional point and fraction, at least one digit in all,
  and an optional exponent: `e` or `E`, an optional sign and one or more digits.  A float
  numeral denotes the double nearest to its exact value, ties to the even significand.
  Nothing else reads: no blanks, no underscores, no empty text.
-/
import LowRankTuner.Decimal.Binary

namespace LowRankTuner.Decimal

/-- The value of ASCII decimal digits. -/
def digitsValue (ds : List Char) : Nat := ds.foldl (fun acc c => acc * 10 + (c.toNat - 48)) 0

/-- Whether a list is one or more ASCII digits. -/
def allDigits (ds : List Char) : Bool := !ds.isEmpty && ds.all Char.isDigit

/-- The double nearest to `m · 10^e` with a sign; infinite past the largest double and zero
below the smallest. -/
def decimalFloat (neg : Bool) (m : Nat) (e : Int) : Float :=
  let digits := (toString m).length
  if m == 0 then (if neg then -0.0 else 0.0)
  else if e + digits > 400 then (if neg then -(1.0 / 0.0) else 1.0 / 0.0)
  else if e + digits < -400 then (if neg then -0.0 else 0.0)
  else if 0 ≤ e then floatOfRatio neg (m * Nat.pow 10 e.toNat) 1
  else floatOfRatio neg m (Nat.pow 10 e.natAbs)

/-- A sign at the front of a numeral: whether it is a minus, and the rest. -/
def splitSign : List Char → Bool × List Char
  | '-' :: rest => (true, rest)
  | '+' :: rest => (false, rest)
  | cs => (false, cs)

/-- The integer of an integer numeral. -/
def readInt? (s : String) : Option Int :=
  let (neg, ds) := splitSign s.toList
  if allDigits ds then some (if neg then -(digitsValue ds : Int) else digitsValue ds) else none

/-- The natural of a natural numeral: digits after an optional plus sign. -/
def readNat? (s : String) : Option Nat :=
  let ds := match s.toList with
    | '+' :: rest => rest
    | cs => cs
  if allDigits ds then some (digitsValue ds) else none

/-- The exponent of an exponent part after its `e`: an optional sign and digits. -/
def exponentValue? (cs : List Char) : Option Int :=
  let (neg, ds) := splitSign cs
  if allDigits ds then some (if neg then -(digitsValue ds : Int) else digitsValue ds) else none

/-- What a float numeral denotes: a signed infinity, NaN, or a sign, digits `m` and an
exponent `e` for `m · 10^e`. -/
inductive FloatNumeral where
  | infinity (neg : Bool)
  | nan
  | finite (neg : Bool) (m : Nat) (e : Int)

/-- The meaning of a float numeral. -/
def FloatNumeral.read? (s : String) : Option FloatNumeral :=
  let (neg, cs) := splitSign s.toList
  let word := String.ofList cs |>.toLower
  if word == "inf" || word == "infinity" then some (.infinity neg)
  else if word == "nan" then some .nan
  else
    let (whole, rest) := cs.span Char.isDigit
    let (frac, rest) := match rest with
      | '.' :: more => more.span Char.isDigit
      | _ => ([], rest)
    let exp : Option Int := match rest with
      | [] => some 0
      | c :: more => if c == 'e' || c == 'E' then exponentValue? more else none
    if whole.isEmpty && frac.isEmpty then none
    else exp.map fun e => .finite neg (digitsValue (whole ++ frac)) (e - frac.length)

/-- The float of a float numeral. -/
def readFloat? (s : String) : Option Float :=
  (FloatNumeral.read? s).map fun
    | .infinity neg => if neg then -(1.0 / 0.0) else 1.0 / 0.0
    | .nan => 0.0 / 0.0
    | .finite neg m e => decimalFloat neg m e

/-- The single nearest to `m · 10^e` with a sign; infinite past the largest single and zero
below the smallest. -/
def decimalFloat32 (neg : Bool) (m : Nat) (e : Int) : Float32 :=
  let digits := (toString m).length
  let inf : Float32 := 1.0 / 0.0
  if m == 0 then (if neg then -0.0 else 0.0)
  else if e + digits > 60 then (if neg then -inf else inf)
  else if e + digits < -60 then (if neg then -0.0 else 0.0)
  else if 0 ≤ e then float32OfRatio neg (m * Nat.pow 10 e.toNat) 1
  else float32OfRatio neg m (Nat.pow 10 e.natAbs)

/-- The single of a float numeral, rounded once from its exact value. -/
def readFloat32? (s : String) : Option Float32 :=
  (FloatNumeral.read? s).map fun
    | .infinity neg => if neg then -(1.0 / 0.0) else 1.0 / 0.0
    | .nan => 0.0 / 0.0
    | .finite neg m e => decimalFloat32 neg m e

/-- Why a text is not a natural numeral below a bound. -/
inductive NumeralFault where
  | empty
  | invalidDigit
  | tooLarge
  deriving DecidableEq

/-- What a numeral reader says of a numeral it refuses. -/
def NumeralFault.text : NumeralFault → String
  | .empty => "cannot parse integer from empty string"
  | .invalidDigit => "invalid digit found in string"
  | .tooLarge => "number too large to fit in target type"

/-- The natural of a numeral below `bound`, read digit by digit after an optional plus
sign: the first character that is not a digit, or the first digit that takes the value to
`bound`, is the fault. -/
def readNatBelow (bound : Nat) (s : String) : Except NumeralFault Nat :=
  let cs := s.toList
  if cs.isEmpty then .error .empty
  else
    let ds := match cs with
      | '+' :: rest => rest
      | cs => cs
    if ds.isEmpty then .error .invalidDigit
    else ds.foldlM (fun acc c =>
      if !c.isDigit then .error .invalidDigit
      else
        let n := acc * 10 + (c.toNat - 48)
        if n < bound then .ok n else .error .tooLarge) 0

end LowRankTuner.Decimal
