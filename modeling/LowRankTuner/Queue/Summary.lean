/-
  LowRankTuner/Queue/Summary.lean
  ===============================
  The weight distribution of a set of records.

  The summary counts the records, takes the least and greatest weight and the mean, and
  counts the records of each tier; an empty set has least and greatest weight 0.  Its text
  has seven lines with the weights to one decimal place.
-/
import LowRankTuner.Queue.Record
import LowRankTuner.Decimal.Fixed

namespace LowRankTuner

/-- Count, extremes, mean and tier counts of the weights of some records. -/
structure WeightSummary where
  count : Nat
  min : Float
  max : Float
  mean : Float
  high : Nat
  medium : Nat
  normal : Nat

namespace WeightSummary

/-- The lesser of two weights, a NaN giving way to the other. -/
def fmin (a b : Float) : Float := if a.isNaN then b else if b.isNaN then a else if b < a then b else a

/-- The greater of two weights, a NaN giving way to the other. -/
def fmax (a b : Float) : Float := if a.isNaN then b else if b.isNaN then a else if b > a then b else a

/-- The summary of the records' weights, accumulated left to right. -/
def ofRecords (rs : List TrainingRecord) : WeightSummary :=
  match rs with
  | [] => ⟨0, 0, 0, 0, 0, 0, 0⟩
  | _ =>
    let step := fun (acc : WeightSummary × Float) (r : TrainingRecord) =>
      let (s, total) := acc
      let s := { s with min := fmin s.min r.weight, max := fmax s.max r.weight }
      let s := match r.tier with
        | .high => { s with high := s.high + 1 }
        | .medium => { s with medium := s.medium + 1 }
        | .normal => { s with normal := s.normal + 1 }
      (s, total + r.weight)
    let inf : Float := 1.0 / 0.0
    let (s, total) := rs.foldl step (⟨rs.length, inf, -inf, 0, 0, 0, 0⟩, 0.0)
    { s with mean := total / rs.length.toUInt64.toFloat }

/-- The seven lines of the summary, without a final newline. -/
def text (s : WeightSummary) : String :=
  "Weight distribution:\n" ++
  "  Min: " ++ Decimal.fixed64 s.min 1 ++ "\n" ++
  "  Max: " ++ Decimal.fixed64 s.max 1 ++ "\n" ++
  "  Mean: " ++ Decimal.fixed64 s.mean 1 ++ "\n" ++
  "  High-weight (≥10): " ++ toString s.high ++ "\n" ++
  "  Medium-weight (3-9): " ++ toString s.medium ++ "\n" ++
  "  Normal-weight (1-2): " ++ toString s.normal

end WeightSummary

end LowRankTuner
