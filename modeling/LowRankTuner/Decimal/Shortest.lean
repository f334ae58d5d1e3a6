/-
  LowRankTuner/Decimal/Shortest.lean
  ==================================
  The shortest decimal that reads back to a given float.

  For a positive finite value `v = m · 2^q` of a format, the *rounding interval* is the set
  of reals that read back to `v`: it reaches half way to each neighbour, and its ends belong
  to it exactly when `m` is even.  `shortest` scans the decimal grids `10^k` from the
  coarsest that still holds a one-digit number near `v` to finer ones; on each grid only the
  two neighbours of `v` can be nearest, and the first grid on which one of them lies in the
  interval gives the answer, the nearer of the two, a tie going to the even digit string.
  Trailing zeros are then moved into the exponent.

  All comparisons are exact, over the naturals `4m ± g` scaled by powers of two and ten.
-/
import LowRankTuner.Decimal.Binary

namespace LowRankTuner.Decimal

/-! ## 1. Exact comparison of scaled naturals -/

/-- `a · 10^k` and `b · 2^e` as two naturals with the same denominator. -/
def crossScale (a : Nat) (k : Int) (b : Nat) (e : Int) : Nat × Nat :=
  (a * Nat.pow 10 k.toNat * Nat.pow 2 (-e).toNat, b * Nat.pow 2 e.toNat * Nat.pow 10 (-k).toNat)

/-- `⌊log₁₀ (num / den)⌋` for positive `num` and `den`. -/
def floorLog10 (num den : Nat) : Int :=
  let est : Int := ((Nat.toDigits 10 num).length : Int) - (Nat.toDigits 10 den).length
  -- the estimate from digit counts is exact or one too high
  let (a, b) := crossScale den est 1 0
  if a ≤ num * b then est else est - 1

/-- `⌊m · 2^q / 10^k⌋`. -/
def floorOnGrid (m : Nat) (q k : Int) : Nat :=
  (m * Nat.pow 2 q.toNat * Nat.pow 10 (-k).toNat) / (Nat.pow 2 (-q).toNat * Nat.pow 10 k.toNat)

/-! ## 2. The rounding interval -/

/-- The rounding interval of `m · 2^q`, as numerators over `2^(q-2)`: the lower end, the value
`4m`, the upper end, and whether the ends are included. -/
structure Interval where
  low : Nat
  mid : Nat
  high : Nat
  closed : Bool
  scale : Int

/-- The rounding interval of the positive value `m · 2^q` of format `f`. -/
def interval (f : FloatFormat) (m : Nat) (q : Int) : Interval :=
  { low := 4 * m - (if f.lowerGapHalved m q then 1 else 2)
    mid := 4 * m
    high := 4 * m + 2
    closed := m % 2 == 0
    scale := q - 2 }

/-- `d · 10^k` lies in the interval. -/
def Interval.holds (r : Interval) (d : Nat) (k : Int) : Bool :=
  let (x, lo) := crossScale d k r.low r.scale
  let (x', hi) := crossScale d k r.high r.scale
  if r.closed then lo ≤ x && x' ≤ hi else lo < x && x' < hi

/-- The distance from `d · 10^k` to the value, scaled to a natural (same scale for every `d`
on one grid). -/
def Interval.distance (r : Interval) (d : Nat) (k : Int) : Nat :=
  let (x, v) := crossScale d k r.mid r.scale
  if x ≤ v then v - x else x - v

/-! ## 3. The scan -/

/-- Moves trailing zeros of the digit string into the exponent. -/
def trimZeros : Nat → Nat → Int → Nat × Int
  | 0, d, k => (d, k)
  | fuel + 1, d, k => if d != 0 && d % 10 == 0 then trimZeros fuel (d / 10) (k + 1) else (d, k)

/-- The nearer of the two neighbours on grid `k` that lie in the interval, a tie going to the
even one. -/
def pickOnGrid (r : Interval) (lo : Nat) (k : Int) : Option Nat :=
  let hi := lo + 1
  match r.holds lo k, r.holds hi k with
  | false, false => none
  | true, false => some lo
  | false, true => some hi
  | true, true =>
    let dl := r.distance lo k
    let dh := r.distance hi k
    if dl < dh then some lo else if dh < dl then some hi
    else if lo % 2 == 0 then some lo else some hi

/-- Tries the grids for `n, n+1, …` significant digits, `fuel` of them. -/
def scan (r : Interval) (m : Nat) (q top : Int) : Nat → Nat → Nat × Int
  | 0, _ => (m, q)
  | fuel + 1, n =>
    let k := top - n + 1
    match pickOnGrid r (floorOnGrid m q k) k with
    | some d => trimZeros 40 d k
    | none => scan r m q top fuel (n + 1)

/-- The shortest decimal `d · 10^k` that reads back to the positive finite `m · 2^q` of
format `f`, the nearest of those, a tie going to the even digit string; `d` has no trailing
zero. -/
def shortest (f : FloatFormat) (m : Nat) (q : Int) : Nat × Int :=
  let (num, den) := scaleTwo m 1 q
  scan (interval f m q) m q (floorLog10 num den) 20 1

end LowRankTuner.Decimal
