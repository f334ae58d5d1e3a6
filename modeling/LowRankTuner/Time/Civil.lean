/-
  LowRankTuner/Time/Civil.lean
  ============================
  Calendar dates and times of day from seconds since the Unix epoch, in UTC.

  Days are turned into dates of the proleptic Gregorian calendar by counting 400-year
  eras of 146097 days from 1 March 0000, so that a leap day ends each year of the count;
  the year then starts in March, and January and February belong to the next year.
  Checkpoints carry the moment as `YYYY-MM-DDTHH:MM:SSZ`, archived queues as
  `YYYYmmdd_HHMMSS`.
-/
namespace LowRankTuner

/-- A moment of UTC time, to the second. -/
structure Moment where
  year : Nat
  month : Nat
  day : Nat
  hour : Nat
  minute : Nat
  second : Nat
  deriving DecidableEq, Repr

namespace Moment

/-- The date of a day counted from 1970-01-01, as year, month and day. -/
def civilOfDays (days : Nat) : Nat × Nat × Nat :=
  let z := days + 719468
  let era := z / 146097
  let doe := z - era * 146097
  let yoe := (doe - doe / 1460 + doe / 36524 - doe / 146096) / 365
  let doy := doe - (365 * yoe + yoe / 4 - yoe / 100)
  let mp := (5 * doy + 2) / 153
  let day := doy - (153 * mp + 2) / 5 + 1
  let month := if mp < 10 then mp + 3 else mp - 9
  let year := yoe + era * 400 + (if month ≤ 2 then 1 else 0)
  (year, month, day)

/-- The moment a number of seconds after the epoch. -/
def ofEpoch (secs : Nat) : Moment :=
  let (year, month, day) := civilOfDays (secs / 86400)
  let t := secs % 86400
  { year, month, day, hour := t / 3600, minute := t % 3600 / 60, second := t % 60 }

/-- A number in at least `width` digits, with leading zeros. -/
def padded (width n : Nat) : String :=
  let ds := Nat.toDigits 10 n
  String.ofList (List.replicate (width - ds.length) '0' ++ ds)

/-- The moment as `YYYY-MM-DDTHH:MM:SSZ`. -/
def rfc3339 (m : Moment) : String :=
  padded 4 m.year ++ "-" ++ padded 2 m.month ++ "-" ++ padded 2 m.day ++ "T" ++
    padded 2 m.hour ++ ":" ++ padded 2 m.minute ++ ":" ++ padded 2 m.second ++ "Z"

/-- The moment as `YYYYmmdd_HHMMSS`. -/
def stamp (m : Moment) : String :=
  padded 4 m.year ++ padded 2 m.month ++ padded 2 m.day ++ "_" ++
    padded 2 m.hour ++ padded 2 m.minute ++ padded 2 m.second

example : (ofEpoch 0).rfc3339 = "1970-01-01T00:00:00Z" := by decide
example : (ofEpoch 951782400).stamp = "20000229_000000" := by decide

end Moment

end LowRankTuner
