/-
  LowRankTuner/Sampling/Weighted.lean
  ===================================
  Drawing indices with replacement, each with probability proportional to its weight.

  A weighted index keeps the running sums of the weights before the last one and the
  total.  A draw takes a float uniform in [0, total) and answers the number of running
  sums at or below it, so index `i` is drawn exactly when the float falls in
  [sum of weights before i, sum up to i).  The uniform float is `u * scale`, where `u` is in
  [0, 1) and `scale` is the total, lowered by single steps until `u * scale` stays below
  the total for every `u` a draw can produce.

  The sampler divides the weights by their maximum first, when that maximum is finite and
  positive, so that large finite weights cannot overflow the total.
-/
import LowRankTuner.Sampling.ChaCha
import LowRankTuner.Failure
import LowRankTuner.Decimal.Layout

namespace LowRankTuner

/-- Why weights do not make a distribution. -/
inductive WeightError where
  | noItem
  | invalidWeight
  | allWeightsZero
  deriving DecidableEq, Repr

/-- The message of a weight error. -/
def WeightError.message : WeightError → String
  | .noItem => "No weights provided in distribution"
  | .invalidWeight => "A weight is invalid in distribution"
  | .allWeightsZero => "All weights are zero in distribution"

/-- The greatest float below a positive float: its word less one. -/
def stepDown (x : Float) : Float := Float.ofBits (x.toBits - 1)

/-- The largest value `nextUnit` produces: one less the spacing of floats below one. -/
def largestUnit : Float := Float.ofBits 0x3FEFFFFFFFFFFFFF

/-- The scale of a uniform float on [0, high): `high`, stepped down while the largest draw
would reach `high`; `fuel` bounds the steps. -/
def uniformScale (high : Float) : Nat → Float → Float
  | 0, s => s
  | fuel + 1, s => if largestUnit * s + 0.0 ≥ high then uniformScale high fuel (stepDown s) else s

/-- Running sums of weights and their total, with the scale of the uniform draw. -/
structure WeightedIndex where
  /-- The running sums of the weights before the last. -/
  cumulative : Array Float
  total : Float
  scale : Float

namespace WeightedIndex

/-- The running sums of the weights after the first, each before adding its weight, and
the total; `none` at a weight that is not at least zero. -/
def sums : List Float → Float → Option (List Float × Float)
  | [], t => some ([], t)
  | w :: ws, t =>
    if w ≥ 0.0 then (sums ws (t + w)).map (fun (cs, total) => (t :: cs, total)) else none

/-- The weighted index of a list of weights. -/
def new (ws : List Float) : Except WeightError WeightedIndex :=
  match ws with
  | [] => .error .noItem
  | w :: rest =>
    if !(w ≥ 0.0) then .error .invalidWeight
    else match sums rest w with
      | none => .error .invalidWeight
      | some (cs, total) =>
        if total == 0.0 then .error .allWeightsZero
        else .ok ⟨cs.toArray, total, uniformScale total 64 total⟩

/-- The number of running sums at or below a value. -/
def rank (cs : Array Float) (x : Float) : Nat := (cs.toList.filter (· ≤ x)).length

/-- One draw. -/
def sample (wi : WeightedIndex) (r : StdRng) : Nat × StdRng :=
  let (u, r) := r.nextUnit
  (rank wi.cumulative (u * wi.scale + 0.0), r)

end WeightedIndex

/-- The larger of two floats, ignoring a NaN. -/
def maxNum (a b : Float) : Float :=
  if a.isNaN then b else if b.isNaN then a else if a < b then b else a

/-- Draws a fixed number of dataset indices with replacement, proportionally to weight. -/
structure WeightedSampler where
  index : WeightedIndex
  numSamples : Nat

namespace WeightedSampler

/-- The sampler of a list of weights. -/
def new (weights : List Float) (numSamples : Nat) : Except Failure WeightedSampler :=
  let m := weights.foldl maxNum 0.0
  let scaled := if !m.isNaN && !m.isInf && m > 0.0 then weights.map (· / m) else weights
  let total := scaled.foldl (· + ·) 0.0
  if total.isNaN || total.isInf then
    .error (.invalidConfig ("invalid sampling weights: total weight " ++
      Decimal.Layout.plain.text64 total ++ " is not finite"))
  else match WeightedIndex.new scaled with
    | .ok wi => .ok ⟨wi, numSamples⟩
    | .error e => .error (.invalidConfig ("invalid sampling weights: " ++ e.message))

/-- Sampling is always with replacement. -/
def replacement (_ : WeightedSampler) : Bool := true

/-- One epoch's indices. -/
def sample (s : WeightedSampler) (r : StdRng) : List Nat × StdRng :=
  (List.range s.numSamples).foldl (fun (acc, r) _ =>
    let (i, r) := s.index.sample r
    (acc ++ [i], r)) ([], r)

end WeightedSampler

end LowRankTuner
