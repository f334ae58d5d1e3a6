/-
  LowRankTuner/Settings/Setting.lean
  ==================================
  Layered settings: the values they hold, where each came from, and how a value is read
  as a boolean, a natural, a float or a text.

  A setting is nothing, a boolean, an integer, a float, a text, an array or a table, and
  carries the name of the source it came from, if any, so that a message can say where a
  bad value was written.  Readings are lenient: a text reads as a number when it is a
  numeral and as a boolean when it is one of `true`, `on`, `yes`, `1` or `false`, `off`,
  `no`, `0` in any case; a float reads as a natural rounded half away from zero and held
  to the 64-bit range; any scalar reads as a text.

  `SettingsFault.text` words every failure, with the dotted key of the bad value and its
  source where a reading failed.
-/
import LowRankTuner.Decimal.Layout
import LowRankTuner.Decimal.Read
import LowRankTuner.Text.Quote
import LowRankTuner.Text.Case

namespace LowRankTuner

/-- Where a setting came from, as messages name it: `none` for built-in values and for
tables put together from several sources. -/
abbrev Origin := Option String

/-- A value of layered settings, with its origin. -/
inductive Setting where
  | nil (origin : Origin)
  | bool (origin : Origin) (b : Bool)
  | int (origin : Origin) (i : Int)
  | float (origin : Origin) (x : Float)
  | str (origin : Origin) (s : String)
  | array (origin : Origin) (items : List Setting)
  | table (origin : Origin) (entries : List (String × Setting))

/-- Why settings do not load. -/
inductive SettingsFault where
  /-- A value read as what it is not: how it shows, what was wanted, the dotted key of the
  value, if known, and its origin. -/
  | mismatch (unexpected expected : String) (key : Option String) (origin : Origin)
  /-- A fault in the words of a record reader. -/
  | message (text : String)
  /-- A source whose text does not read, with the reader's words and the source's name. -/
  | unreadable (cause : String) (uri : Origin)
  /-- A source file that cannot be had, in the file system's words. -/
  | unavailable (text : String)
  /-- The computation stopped outright, such as for an array grown past what memory holds. -/
  | aborted (detail : String)

namespace SettingsFault

/-- The words of a fault. -/
def text : SettingsFault → String
  | .mismatch u e key origin =>
    "invalid type: " ++ u ++ ", expected " ++ e ++
      (match key with | some k => " for key `" ++ k ++ "`" | none => "") ++
      (match origin with | some o => " in " ++ o | none => "")
  | .message t => t
  | .unreadable cause uri => cause ++ (match uri with | some u => " in " ++ u | none => "")
  | .unavailable t => t
  | .aborted d => d

/-- The fault of a value found under `segment`: its key gets the segment in front, joined
by a period when `dotted` and the key does not start with a bracket.  Faults without a
key of their own stay as they are. -/
def under (segment : String) (dotted : Bool) : SettingsFault → SettingsFault
  | .mismatch u e key origin =>
    let k := key.getD ""
    let dot := if dotted && !k.startsWith "[" && !k.isEmpty then "." else ""
    .mismatch u e (some (segment ++ dot ++ k)) origin
  | f => f

end SettingsFault

namespace Setting

/-- Where a setting came from. -/
def origin : Setting → Origin
  | .nil o | .bool o _ | .int o _ | .float o _ | .str o _ | .array o _ | .table o _ => o

/-- How a reading names a setting of a kind it cannot read. -/
def kindText : Setting → String
  | .nil _ => "unit value"
  | .array .. => "sequence"
  | .table .. => "map"
  | .bool _ b => "boolean `" ++ (if b then "true" else "false") ++ "`"
  | .int _ i => "integer 64 bit `" ++ toString i ++ "`"
  | .float _ x => "floating point `" ++ Decimal.Layout.plain.text64 x ++ "`"
  | .str _ s => "string " ++ Text.quoted s

/-- The fault of a setting read as `expected`. -/
def mismatch {α : Type} (s : Setting) (expected : String) : Except SettingsFault α :=
  .error (.mismatch s.kindText expected none s.origin)

/-- The words that read as true. -/
def trueWords : List String := ["1", "true", "on", "yes"]

/-- The words that read as false. -/
def falseWords : List String := ["0", "false", "off", "no"]

/-- A setting read as a boolean: a number is true when it is not zero, and a text is one of
the boolean words in any case. -/
def toBool (s : Setting) : Except SettingsFault Bool :=
  match s with
  | .bool _ b => .ok b
  | .int _ i => .ok (i != 0)
  | .float _ x => .ok (x != 0.0)
  | .str o t =>
    let w := Text.lower t
    if trueWords.contains w then .ok true
    else if falseWords.contains w then .ok false
    else .error (.mismatch ("string " ++ Text.quoted w) "a boolean" none o)
  | s => s.mismatch "a boolean"

/-- A setting read as a natural below `2^64`: a negative integer is refused, a float is
rounded half away from zero and held to the range, a boolean is zero or one, and a text is
a boolean word or a natural numeral. -/
def toNat64 (s : Setting) : Except SettingsFault Nat :=
  match s with
  | .int o i =>
    if 0 ≤ i && i < Int.pow 2 64 then .ok i.toNat
    else .error (.mismatch s.kindText "an unsigned 64 bit or less integer" none o)
  | .bool _ b => .ok (if b then 1 else 0)
  | .float _ x => .ok x.round.toUInt64.toNat
  | .str o t =>
    let w := Text.lower t
    if ["true", "on", "yes"].contains w then .ok 1
    else if ["false", "off", "no"].contains w then .ok 0
    else match Decimal.readNat? t with
      | some n => if n < Nat.pow 2 64 then .ok n else .error (.mismatch s.kindText "an integer" none o)
      | none => .error (.mismatch s.kindText "an integer" none o)
  | s => s.mismatch "an integer"

/-- A setting read as a float: an integer is rounded to the nearest double, a boolean is
zero or one, and a text is a boolean word or a float numeral. -/
def toFloat (s : Setting) : Except SettingsFault Float :=
  match s with
  | .float _ x => .ok x
  | .int _ i => .ok (floatOfRatio (i < 0) i.natAbs 1)
  | .bool _ b => .ok (if b then 1.0 else 0.0)
  | .str o t =>
    let w := Text.lower t
    if ["true", "on", "yes"].contains w then .ok 1.0
    else if ["false", "off", "no"].contains w then .ok 0.0
    else match Decimal.readFloat? t with
      | some x => .ok x
      | none => .error (.mismatch s.kindText "a floating point" none o)
  | s => s.mismatch "a floating point"

/-- A setting read as a text: a scalar's own words, a float in its shortest positional
digits. -/
def toText (s : Setting) : Except SettingsFault String :=
  match s with
  | .str _ t => .ok t
  | .bool _ b => .ok (if b then "true" else "false")
  | .int _ i => .ok (toString i)
  | .float _ x => .ok (Decimal.Layout.plain.text64 x)
  | s => s.mismatch "a string"

end Setting

end LowRankTuner
