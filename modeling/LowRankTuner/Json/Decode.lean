/-
  LowRankTuner/Json/Decode.lean
  =============================
  Decoding a JSON text straight into the fields of a record, with the faults a record
  decoder reports and the places it reports them at.

  A record is an object whose keys name fields, or an array that lists the fields in
  order.  Each field has a type (`FieldType`) and may have a default.  Keys that name no
  field are skipped: their value is checked for syntax only (`ignoreValue`), so an
  out-of-range number there is accepted.  A field named twice, a field missing without a
  default, and an array too short for the fields without defaults are faults of the
  record as a whole; they are placed after the record's closing bracket has been looked
  for, at the offset reached then (`afterClose`).  A value of the wrong type is placed
  right after the value, or at the bracket that opens an array or an object.
-/
import LowRankTuner.Json.Read
import LowRankTuner.Decimal.Layout
import LowRankTuner.Text.Quote

namespace LowRankTuner.Json

/-! ## 1. Record-level faults -/

/-- A fault of the record as a whole: it keeps, in its column, the offset at which it arose,
and no line, until the record places it. -/
def failRecord {α : Type} (text : String) : ReadM α := do
  throw ⟨.message text, 0, ← get⟩

/-- The offset reached when the closing bracket `close` is looked for from offset `i`:
blanks are consumed, then the bracket itself; for an array, a comma and the blanks after
it are consumed as well. -/
def afterClose (src : ByteArray) (close : UInt8) (i : Nat) : Nat :=
  let rec skip : Nat → Nat → Nat
    | 0, j => j
    | fuel + 1, j =>
      match src.data[j]? with
      | some 32 | some 9 | some 10 | some 13 => skip fuel (j + 1)
      | _ => j
  let j := skip (src.size + 1) i
  match src.data[j]? with
  | some b =>
    if b == close then j + 1
    else if close == 93 && b == 44 then skip (src.size + 1) (j + 1)
    else j
  | none => j

/-- Runs a record body; a record-level fault is placed after the closing bracket. -/
def placeRecord {α : Type} (close : UInt8) (body : ReadM α) : ReadM α := fun src i =>
  match body src i with
  | .error e =>
    if e.line == 0 then
      let (l, c) := placeOf src (afterClose src close e.column)
      .error { e with line := l, column := c }
    else .error e
  | ok => ok

/-! ## 2. What a value is when it is not what was expected -/

/-- How a number shows in a fault. -/
def unexpectedNumber : JsonNumber → String
  | .nat n => "integer `" ++ toString n ++ "`"
  | .negInt i => "integer `" ++ toString i ++ "`"
  | .float x => "floating point `" ++ Decimal.Layout.template.text64 x ++ "`"
  | .float32 x => "floating point `" ++ Decimal.Layout.template.text64 x.toFloat ++ "`"

/-- The fault of a value of the wrong type: the value is read (a scalar) or looked at (an
array or an object), and the fault is placed at the last byte consumed. -/
def invalidType {α : Type} (expected : String) : ReadM α := do
  let say := fun (what : String) => "invalid type: " ++ what ++ ", expected " ++ expected
  match ← peek with
  | some 110 => eat; ident [117, 108, 108]; fail (.message (say "null"))
  | some 116 => eat; ident [114, 117, 101]; fail (.message (say "boolean `true`"))
  | some 102 => eat; ident [97, 108, 115, 101]; fail (.message (say "boolean `false`"))
  | some 45 => eat; let n ← number false; fail (.message (say (unexpectedNumber n)))
  | some 34 => eat; let s ← stringBody; fail (.message (say ("string " ++ Text.quoted s)))
  | some 91 => fail (.message (say "sequence"))
  | some 123 => fail (.message (say "map"))
  | some b =>
    if 48 ≤ b && b ≤ 57 then do let n ← number true; fail (.message (say (unexpectedNumber n)))
    else failAhead .expectedSomeValue
  | none => failAhead .expectedSomeValue

/-! ## 3. Field values -/

/-- The types a field can have. -/
inductive FieldType where
  | string
  | usize
  | f64
  | bool
  /-- A `usize` or `null`. -/
  | optUsize
  deriving DecidableEq, Repr

/-- What a fault says a field of the type expected. -/
def FieldType.expected : FieldType → String
  | .string => "a string"
  | .usize | .optUsize => "usize"
  | .f64 => "f64"
  | .bool => "a boolean"

/-- A number as a `usize`. -/
def asUsize (n : JsonNumber) : ReadM Json :=
  match n with
  | .nat k => pure (.num (.nat k))
  | .negInt i => fail (.message ("invalid value: integer `" ++ toString i ++ "`, expected usize"))
  | x => fail (.message ("invalid type: " ++ unexpectedNumber x ++ ", expected usize"))

/-- A number as an `f64`. -/
def asF64 (n : JsonNumber) : Json :=
  match n with
  | .nat k => .num (.float (floatOfRatio false k 1))
  | .negInt i => .num (.float (floatOfRatio true i.natAbs 1))
  | x => .num x

/-- A number field: its sign, then its digits. -/
def numberField (ty : FieldType) (conv : JsonNumber → ReadM Json) : ReadM Json := do
  match ← blanks with
  | none => failAhead .eofWhileParsingValue
  | some 45 => eat; conv (← number false)
  | some b =>
    if 48 ≤ b && b ≤ 57 then conv (← number true) else invalidType ty.expected

/-- The value of a field of the given type. -/
def fieldValue (ty : FieldType) : ReadM Json := do
  match ty with
  | .string =>
    match ← blanks with
    | none => failAhead .eofWhileParsingValue
    | some 34 => eat; return .str (← stringBody)
    | some _ => invalidType ty.expected
  | .bool =>
    match ← blanks with
    | none => failAhead .eofWhileParsingValue
    | some 116 => eat; ident [114, 117, 101]; pure (.bool true)
    | some 102 => eat; ident [97, 108, 115, 101]; pure (.bool false)
    | some _ => invalidType ty.expected
  | .usize => numberField ty asUsize
  | .f64 => numberField ty (fun n => pure (asF64 n))
  | .optUsize =>
    match ← blanks with
    | some 110 => eat; ident [117, 108, 108]; pure .null
    | _ => numberField ty asUsize

/-! ## 4. Skipping a value -/

/-- Skips the digits, exponent and fraction of a number, judging only its syntax. -/
def ignoreExponent : ReadM Unit := do
  eat
  match ← peek with
  | some 43 | some 45 => eat
  | _ => pure ()
  match ← next with
  | some b => if 48 ≤ b && b ≤ 57 then skipDigits ((← read).size + 1) else fail .invalidNumber
  | none => fail .invalidNumber

/-- Skips a fraction after its point was looked at. -/
def ignoreDecimal : ReadM Unit := do
  eat
  match digitOf? (← peek) with
  | none => failAhead .invalidNumber
  | some _ =>
    skipDigits ((← read).size + 1)
    match ← peek with
    | some 101 | some 69 => ignoreExponent
    | _ => pure ()

/-- Skips a number whose sign was consumed. -/
def ignoreNumber : ReadM Unit := do
  match ← next with
  | some 48 =>
    if (digitOf? (← peek)).isSome then failAhead .invalidNumber
  | some b =>
    if 49 ≤ b && b ≤ 57 then skipDigits ((← read).size + 1) else fail .invalidNumber
  | none => fail .invalidNumber
  match ← peek with
  | some 46 => ignoreDecimal
  | some 101 | some 69 => ignoreExponent
  | _ => pure ()

/-- Skips an escape after its backslash. -/
def ignoreEscape : ReadM Unit := do
  match ← next with
  | none => fail .eofWhileParsingString
  | some b =>
    if [34, 92, 47, 98, 102, 110, 114, 116].contains b then pure ()
    else if b == 117 then do let _ ← hexEscape; pure ()
    else fail .invalidEscape

/-- Skips the rest of a string whose quote was consumed; a control character is refused
where it stands. -/
def ignoreStr : ReadM Unit := do
  let fuel := (← read).size + 1
  let rec go : Nat → ReadM Unit
    | 0 => pure ()
    | n + 1 => do
      match ← peek with
      | none => fail .eofWhileParsingString
      | some 34 => eat
      | some 92 => eat; ignoreEscape; go n
      | some b => if b < 32 then fail .controlCharacterWhileParsingString else eat; go n
  go fuel

/-- Skips a scalar, or consumes the bracket of an array or object and names it. -/
def ignoreItem : ReadM (Option UInt8) := do
  match ← blanks with
  | none => failAhead .eofWhileParsingValue
  | some 110 => eat; ident [117, 108, 108]; pure none
  | some 116 => eat; ident [114, 117, 101]; pure none
  | some 102 => eat; ident [97, 108, 115, 101]; pure none
  | some 45 => eat; ignoreNumber; pure none
  | some 34 => eat; ignoreStr; pure none
  | some 91 => eat; pure (some 91)
  | some 123 => eat; pure (some 123)
  | some b => if 48 ≤ b && b ≤ 57 then do ignoreNumber; pure none else failAhead .expectedSomeValue

/-- After an item inside `frame` (a comma allowed when `comma`): consumes closing brackets
while they match, and answers the frame in which the next item follows, with the frames
around it, or `none` when the outermost bracket has closed. -/
def closeFrames : Nat → Bool → UInt8 → List UInt8 → ReadM (Option (UInt8 × List UInt8))
  | 0, _, _, _ => pure none
  | fuel + 1, comma, frame, outer => do
    match ← blanks with
    | some 44 =>
      if comma then eat; pure (some (frame, outer))
      else pure (some (frame, outer))
    | some b =>
      if (b == 93 && frame == 91) || (b == 125 && frame == 123) then
        eat
        match outer with
        | [] => pure none
        | f :: rest => closeFrames fuel true f rest
      else if comma then
        failAhead (if frame == 91 then .expectedListCommaOrEnd else .expectedObjectCommaOrEnd)
      else pure (some (frame, outer))
    | none => failAhead (if frame == 91 then .eofWhileParsingList else .eofWhileParsingObject)

/-- The key and colon before an item of an object. -/
def ignoreKey : ReadM Unit := do
  match ← blanks with
  | some 34 => eat; ignoreStr
  | some _ => failAhead .keyMustBeAString
  | none => failAhead .eofWhileParsingObject
  match ← blanks with
  | some 58 => eat
  | some _ => failAhead .expectedColon
  | none => failAhead .eofWhileParsingObject

/-- Skips items, keeping the open brackets in `frames` (innermost first). -/
def ignoreFrom : Nat → List UInt8 → ReadM Unit
  | 0, _ => pure ()
  | fuel + 1, frames => do
    let opened ← ignoreItem
    let next ← match opened, frames with
      | some f, _ => closeFrames fuel false f frames
      | none, f :: rest => closeFrames fuel true f rest
      | none, [] => pure none
    match next with
    | none => pure ()
    | some (frame, outer) =>
      if frame == 123 then ignoreKey
      ignoreFrom fuel (frame :: outer)

/-- Skips one value, judging its syntax only. -/
def ignoreValue : ReadM Unit := do
  ignoreFrom (2 * (← read).size + 2) []

/-! ## 5. Records -/

/-- A field of a record: its key, its type, and its value when the text has none. -/
structure FieldSpec where
  name : String
  type : FieldType
  default : Option Json := none

/-- The colon after a key. -/
def objectColon : ReadM Unit := do
  match ← blanks with
  | some 58 => eat
  | some _ => failAhead .expectedColon
  | none => failAhead .eofWhileParsingObject

/-- The entries of a record object after its `{`, up to the `}` (looked at): the fields
found, in the order found. -/
def recordEntries (fields : List FieldSpec) : Nat → Bool → List (String × Json) →
    ReadM (List (String × Json))
  | 0, _, acc => pure acc
  | fuel + 1, first, acc => do
    match ← blanks with
    | some 125 => pure acc
    | none => failAhead .eofWhileParsingObject
    | some c =>
      let entry : ReadM (List (String × Json)) := do
        match ← blanks with
        | some 34 =>
          eat
          let k ← stringBody
          match fields.find? (·.name == k) with
          | some f =>
            if acc.any (·.1 == k) then failRecord ("duplicate field `" ++ k ++ "`")
            objectColon
            let v ← fieldValue f.type
            recordEntries fields fuel false (acc ++ [(k, v)])
          | none =>
            objectColon
            ignoreValue
            recordEntries fields fuel false acc
        | some 125 => failAhead .trailingComma
        | some _ => failAhead .keyMustBeAString
        | none => failAhead .eofWhileParsingValue
      if c == 44 && !first then do eat; entry
      else if first then entry
      else failAhead .expectedObjectCommaOrEnd

/-- The values of the fields, in the order of the fields, from those found. -/
def completeFields (found : List (String × Json)) : List FieldSpec → ReadM (List Json)
  | [] => pure []
  | f :: rest => do
    let v ← match (found.find? (·.1 == f.name)).map (·.2), f.default with
      | some v, _ => pure v
      | none, some d => pure d
      | none, none => failRecord ("missing field `" ++ f.name ++ "`")
    return v :: (← completeFields found rest)

/-- Looks for the next element of an array record: `true` when one follows, positioned at
it, and `false` at the closing `]`. -/
def nextElement (first : Bool) : ReadM Bool := do
  let atItem : ReadM Bool := do
    match ← blanks with
    | some 93 => failAhead .trailingComma
    | some _ => pure true
    | none => failAhead .eofWhileParsingValue
  match ← blanks with
  | some 93 => pure false
  | some 44 => if first then pure true else do eat; atItem
  | some _ => if first then pure true else failAhead .expectedListCommaOrEnd
  | none => failAhead .eofWhileParsingList

/-- The fields of an array record, in order: a missing element takes its field's default,
and a field without one makes the array too short. -/
def recordElements (expecting : String) (index : Nat) (first : Bool) :
    List FieldSpec → ReadM (List Json)
  | [] => pure []
  | f :: rest => do
    let v ← if ← nextElement first then fieldValue f.type
      else match f.default with
        | some d => pure d
        | none => failRecord ("invalid length " ++ toString index ++ ", expected " ++ expecting)
    return v :: (← recordElements expecting (index + 1) false rest)

/-- The `]` that closes an array record. -/
def closeRecordArray : ReadM Unit := do
  match ← blanks with
  | some 93 => eat
  | some 44 =>
    eat
    match ← blanks with
    | some 93 => failAhead .trailingComma
    | _ => failAhead .trailingCharacters
  | some _ => failAhead .trailingCharacters
  | none => failAhead .eofWhileParsingList

/-- A record named `name` with the given fields, as an object or an array. -/
def record (name : String) (fields : List FieldSpec) : ReadM (List Json) := do
  let fuel := (← read).size + 2
  match ← blanks with
  | none => failAhead .eofWhileParsingValue
  | some 123 =>
    eat
    placeRecord 125 do
      let found ← recordEntries fields fuel true []
      let vs ← completeFields found fields
      closeObject
      pure vs
  | some 91 =>
    eat
    let expecting := "struct " ++ name ++ " with " ++ toString fields.length ++ " elements"
    placeRecord 93 do
      let vs ← recordElements expecting 0 true fields
      closeRecordArray
      pure vs
  | some _ => invalidType ("struct " ++ name)

/-- Decodes a whole text as a record: the record, then nothing but blanks. -/
def decodeRecord (name : String) (fields : List FieldSpec) (src : ByteArray) :
    Except Error (List Json) :=
  let body : ReadM (List Json) := do
    let vs ← record name fields
    finish
    pure vs
  (body.run src |>.run 0).map (·.1)

end LowRankTuner.Json
