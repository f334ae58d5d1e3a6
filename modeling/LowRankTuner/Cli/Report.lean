/-
  LowRankTuner/Cli/Report.lean
  ============================
  Lines the command line prints about a run.

  Counts are written with a comma between groups of three digits, counted from the right.
  The share of trainable parameters is a percentage with four decimals, and zero when the
  model has no parameters at all.
-/
import LowRankTuner.Decimal.Fixed
import LowRankTuner.Decimal.Binary

namespace LowRankTuner

/-- Inserts commas into a digit string before every group of three from the right. -/
def groupDigits (digits : List Char) : List Char :=
  (digits.zipIdx).flatMap (fun (c, i) =>
    if i > 0 && (digits.length - i) % 3 == 0 then [',', c] else [c])

/-- A count with its thousands separated by commas. -/
def groupThousands (n : Nat) : String := String.ofList (groupDigits (Nat.toDigits 10 n))

/-- The share of trainable parameters in percent. -/
def trainablePercent (trainable total : Nat) : Float :=
  if total == 0 then 0.0
  else 100.0 * floatOfRatio false trainable 1 / floatOfRatio false total 1

/-- The line that reports trainable and total parameter counts. -/
def trainableParametersLine (trainable total : Nat) : String :=
  "trainable params: " ++ groupThousands trainable ++ " || all params: " ++ groupThousands total ++
    " || trainable%: " ++ Decimal.fixed64 (trainablePercent trainable total) 4

end LowRankTuner
