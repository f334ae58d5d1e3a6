/-
  LowRankTuner/Decimal/Layout.lean
  ================================
  Writing a shortest decimal as text.

  A `Layout` fixes the decisions a float printer makes beyond its digits: where positional
  notation gives way to scientific notation, whether an integral value keeps a `.0`, and
  the words for NaN and the infinities.  Three layouts are used in this library:

    * `Layout.json`  — JSON numbers: positional while the point sits at most 16 digits
      right of the first digit and at most 5 left of it, `1e30`/`1.5e-7` otherwise, and
      `.0` on integral values;
    * `Layout.plain` — messages: always positional, no `.0` (`32`, `0.0001`, `-0`);
    * `Layout.template` — values printed by the template language: always positional,
      with `.0` on integral values.
-/
import LowRankTuner.Decimal.Shortest

namespace LowRankTuner.Decimal

/-- The decisions of a float printer beyond its digits. -/
structure Layout where
  /-- Positional notation when the count `n + k` of digits before the point lies in
  `(low, high]`; `none` means always positional. -/
  positional : Option (Int × Int)
  /-- Integral values are written with `.0`. -/
  pointZero : Bool
  nanText : String
  infText : String

/-- JSON numbers. -/
def Layout.json : Layout := ⟨some (-5, 16), true, "NaN", "inf"⟩

/-- Message text: always positional, integral values bare. -/
def Layout.plain : Layout := ⟨none, false, "NaN", "inf"⟩

/-- Template output: always positional, integral values with `.0`. -/
def Layout.template : Layout := ⟨none, true, "NaN", "inf"⟩

/-- The digits of `d`, as characters. -/
def digitChars (d : Nat) : List Char := Nat.toDigits 10 d

/-- `d · 10^k` in positional notation. -/
def positionalText (pointZero : Bool) (d : Nat) (k : Int) : String :=
  let ds := digitChars d
  let n : Int := ds.length
  if 0 ≤ k then
    String.ofList (ds ++ List.replicate k.toNat '0') ++ (if pointZero then ".0" else "")
  else if 0 < n + k then
    let w := (n + k).toNat
    String.ofList (ds.take w) ++ "." ++ String.ofList (ds.drop w)
  else
    "0." ++ String.ofList (List.replicate (-(n + k)).toNat '0' ++ ds)

/-- `d · 10^k` in scientific notation: one digit, the rest after a point, then `e` and the
exponent with a minus sign only. -/
def scientificText (d : Nat) (k : Int) : String :=
  let ds := digitChars d
  let e : Int := ds.length + k - 1
  let mant := match ds with
    | [c] => String.singleton c
    | c :: rest => String.singleton c ++ "." ++ String.ofList rest
    | [] => "0"
  mant ++ "e" ++ (if e < 0 then "-" else "") ++ String.ofList (Nat.toDigits 10 e.natAbs)

/-- `d · 10^k` laid out. -/
def Layout.digits (l : Layout) (d : Nat) (k : Int) : String :=
  match l.positional with
  | none => positionalText l.pointZero d k
  | some (low, high) =>
    let point : Int := (digitChars d).length + k
    if d == 0 || (low < point && point ≤ high) then positionalText l.pointZero d k
    else scientificText d k

/-- A value class of format `f` laid out with its shortest digits. -/
def Layout.render (l : Layout) (f : FloatFormat) : FloatClass → String
  | .nan => l.nanText
  | .infinite neg => (if neg then "-" else "") ++ l.infText
  | .finite neg m q =>
    let (d, k) := if m == 0 then (0, 0) else shortest f m q
    (if neg then "-" else "") ++ l.digits d k

/-- A 64-bit float laid out. -/
def Layout.text64 (l : Layout) (x : Float) : String := l.render FloatFormat.double (FloatClass.ofFloat x)

/-- A 32-bit float laid out. -/
def Layout.text32 (l : Layout) (x : Float32) : String := l.render FloatFormat.single (FloatClass.ofFloat32 x)

end LowRankTuner.Decimal
