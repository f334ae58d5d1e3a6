/-
  LowRankTuner/Toml/Datetime.lean
  ===============================
  TOML dates and times: reading their text and writing it back in normal form.

  A datetime is a date `YYYY-MM-DD`, a time `HH:MM:SS` with an optional fraction, or both,
  joined by `T`, `t` or a blank; a date with a time may carry an offset, `Z` or `±HH:MM`.
  Months run from 1 to 12, days from 1 to 31, hours up to 24 and minutes and seconds up to
  59.  The normal form joins date and time by `T`, keeps at most nine fraction digits
  without trailing zeros, writes `Z` in upper case and gives an offset's hours a sign.
-/
namespace LowRankTuner.Toml

/-- A calendar date. -/
structure LocalDate where
  year : Nat
  month : Nat
  day : Nat

/-- A time of day, to the nanosecond. -/
structure LocalTime where
  hour : Nat
  minute : Nat
  second : Nat
  nanosecond : Nat

/-- The offset of a datetime from universal time. -/
inductive Offset where
  | utc
  | custom (hours : Int) (minutes : Nat)

/-- A date, a time, or both, with an optional offset. -/
structure Datetime where
  date : Option LocalDate
  time : Option LocalTime
  offset : Option Offset

/-- A natural in at least `width` digits, zeros in front. -/
def padded (width n : Nat) : String :=
  let s := toString n
  String.ofList (List.replicate (width - s.length) '0') ++ s

/-- The value of a decimal digit character. -/
def digitValue? (c : Char) : Option Nat :=
  if c.isDigit then some (c.toNat - 48) else none

/-- The value of two decimal digits at the front, and the rest. -/
def twoDigits : List Char → Option (Nat × List Char)
  | a :: b :: rest => do pure (10 * (← digitValue? a) + (← digitValue? b), rest)
  | _ => none

/-- The value of four decimal digits at the front, and the rest. -/
def fourDigits (cs : List Char) : Option (Nat × List Char) := do
  let (hi, r) ← twoDigits cs
  let (lo, r) ← twoDigits r
  pure (100 * hi + lo, r)

/-- One expected character at the front, and the rest. -/
def expectChar (c : Char) : List Char → Option (List Char)
  | d :: rest => if d == c then some rest else none
  | [] => none

/-- The nanoseconds of the digits of a fraction, the first nine of them counting. -/
def nanosOf (ds : List Char) : Nat :=
  ((ds.take 9).zipIdx.map fun (d, i) => (d.toNat - 48) * Nat.pow 10 (8 - i)).foldr (· + ·) 0

/-- The date at the front of a text. -/
def readDate (cs : List Char) : Option (LocalDate × List Char) := do
  let (y, r) ← fourDigits cs
  let r ← expectChar '-' r
  let (m, r) ← twoDigits r
  let r ← expectChar '-' r
  let (d, r) ← twoDigits r
  if m < 1 || m > 12 || d < 1 || d > 31 then none
  pure (⟨y, m, d⟩, r)

/-- The time at the front of a text. -/
def readTime (cs : List Char) : Option (LocalTime × List Char) := do
  let (h, r) ← twoDigits cs
  let r ← expectChar ':' r
  let (m, r) ← twoDigits r
  let r ← expectChar ':' r
  let (s, r) ← twoDigits r
  let (ns, r) ← match r with
    | '.' :: more =>
      let (ds, rest) := more.span Char.isDigit
      if ds.isEmpty then none else some (nanosOf ds, rest)
    | _ => some (0, r)
  if h > 24 || m > 59 || s > 59 then none
  pure (⟨h, m, s, ns⟩, r)

/-- The offset at the front of a text, if it has one. -/
def readOffset : List Char → Option (Option Offset × List Char)
  | [] => some (none, [])
  | c :: rest =>
    if c == 'Z' || c == 'z' then some (some .utc, rest)
    else if c == '+' || c == '-' then do
      let (h, r) ← twoDigits rest
      let r ← expectChar ':' r
      let (m, r) ← twoDigits r
      pure (some (.custom (if c == '-' then -(h : Int) else h) m), r)
    else none

/-- The datetime that a whole text spells, if any. -/
def Datetime.parse? (s : String) : Option Datetime := do
  let cs := s.toList
  if cs.length < 3 then none
  let (date, r) ← if cs[2]? == some ':' then pure (none, cs) else do
    let (d, r) ← readDate cs
    pure (some d, r)
  let (timed, r) := match date, r with
    | some _, c :: rest => if c == 'T' || c == 't' || c == ' ' then (true, rest) else (false, r)
    | some _, [] => (false, r)
    | none, _ => (true, r)
  let (time, r) ← if timed then do
      let (t, r) ← readTime r
      pure (some t, r)
    else pure (none, r)
  let (offset, r) ← if date.isSome && time.isSome then readOffset r else pure (none, r)
  if !r.isEmpty then none
  pure ⟨date, time, offset⟩

/-- The normal text of a datetime. -/
def Datetime.text (d : Datetime) : String :=
  let date := match d.date with
    | some x => padded 4 x.year ++ "-" ++ padded 2 x.month ++ "-" ++ padded 2 x.day
    | none => ""
  let time := match d.time with
    | some t =>
      let frac := if t.nanosecond == 0 then "" else
        "." ++ String.ofList ((padded 9 t.nanosecond).toList.reverse.dropWhile (· == '0')).reverse
      (if d.date.isSome then "T" else "") ++ padded 2 t.hour ++ ":" ++ padded 2 t.minute ++ ":" ++
        padded 2 t.second ++ frac
    | none => ""
  let offset := match d.offset with
    | some .utc => "Z"
    | some (.custom h m) => (if h < 0 then "-" else "+") ++ padded 2 h.natAbs ++ ":" ++ padded 2 m
    | none => ""
  date ++ time ++ offset

end LowRankTuner.Toml
