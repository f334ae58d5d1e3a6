/-
  LowRankTuner/Queue/Record.lean
  ==============================
  Training examples with their sampling weights.

  A record pairs a query with the response the model should learn, and carries a
  sampling weight.  A weight is kept only when it is finite and positive; anything else
  becomes the default weight 1 (`sanitize`).  Weights fall into three tiers: at least 10
  is high, at least 3 is medium, and the rest is normal; new records of a tier get the
  weight 10, 3 or 1.
-/
namespace LowRankTuner

/-- The weight of a record that has none. -/
def defaultWeight : Float := 1.0

/-- A weight kept when finite and positive, else the default weight. -/
def sanitizeWeight : Option Float → Float
  | some w => if !w.isNaN && !w.isInf && w > 0 then w else defaultWeight
  | none => defaultWeight

/-- The three weight tiers. -/
inductive WeightTier where
  | high
  | medium
  | normal
  deriving DecidableEq, Repr

namespace WeightTier

/-- The tier of a weight: high from 10, medium from 3, normal below. -/
def ofWeight (w : Float) : WeightTier :=
  if w >= 10.0 then .high else if w >= 3.0 then .medium else .normal

/-- The weight given to a new record of the tier. -/
def weight : WeightTier → Float
  | .high => 10.0
  | .medium => 3.0
  | .normal => 1.0

/-- The name of the tier. -/
def name : WeightTier → String
  | .high => "High"
  | .medium => "Medium"
  | .normal => "Normal"

end WeightTier

/-- A query, the response to learn for it, and the record's sampling weight. -/
structure TrainingRecord where
  query : String
  response : String
  weight : Float

namespace TrainingRecord

/-- A record whose weight is sanitized. -/
def withWeight (query response : String) (w : Float) : TrainingRecord :=
  ⟨query, response, sanitizeWeight (some w)⟩

/-- A record of the high tier: the correction of a critical mistake. -/
def critical (query response : String) : TrainingRecord :=
  withWeight query response WeightTier.high.weight

/-- A record of the medium tier: a better answer than the one given before. -/
def improvement (query response : String) : TrainingRecord :=
  withWeight query response WeightTier.medium.weight

/-- A record of the normal tier. -/
def normal (query response : String) : TrainingRecord :=
  withWeight query response WeightTier.normal.weight

/-- The tier of the record's weight. -/
def tier (r : TrainingRecord) : WeightTier := WeightTier.ofWeight r.weight

end TrainingRecord

end LowRankTuner
