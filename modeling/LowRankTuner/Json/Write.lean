/-
  LowRankTuner/Json/Write.lean
  ============================
  Writing JSON text.

  Strings escape the quote, the backslash and the control characters below U+0020 only
  (`\b \t \n \f \r`, else `\u00xx` in lower-case hex); every other character is written as
  itself.  Floats take their shortest digits in `Layout.json`, and a float that is NaN or
  infinite is written `null`.  `compact` puts no blanks anywhere; `pretty` breaks after
  every item, indents by two spaces and writes `": "` between key and value, with empty
  arrays and objects written `[]` and `{}`.
-/
import LowRankTuner.Json.Value
import LowRankTuner.Decimal.Layout

namespace LowRankTuner.Json

/-- The hex digit of a value below 16, in lower case. -/
def hexDigit (n : Nat) : Char :=
  if n < 10 then Char.ofNat (48 + n) else Char.ofNat (87 + n)

/-- One character of a string's contents, escaped. -/
def escapeChar (c : Char) : List Char :=
  match c with
  | '"' => ['\\', '"']
  | '\\' => ['\\', '\\']
  | '\n' => ['\\', 'n']
  | '\r' => ['\\', 'r']
  | '\t' => ['\\', 't']
  | c =>
    if c.toNat == 8 then ['\\', 'b']
    else if c.toNat == 12 then ['\\', 'f']
    else if c.toNat < 32 then ['\\', 'u', '0', '0', hexDigit (c.toNat / 16), hexDigit (c.toNat % 16)]
    else [c]

/-- A string as a JSON string literal. -/
def quote (s : String) : String :=
  "\"" ++ String.ofList (s.toList.flatMap escapeChar) ++ "\""

/-- The text of a number. -/
def numberText : JsonNumber → String
  | .nat n => toString n
  | .negInt n => toString n
  | .float x =>
    match FloatClass.ofFloat x with
    | .finite .. => Decimal.Layout.json.text64 x
    | _ => "null"
  | .float32 x =>
    match FloatClass.ofFloat32 x with
    | .finite .. => Decimal.Layout.json.text32 x
    | _ => "null"

mutual

/-- A value with no blanks. -/
def compact : Json → String
  | .null => "null"
  | .bool b => if b then "true" else "false"
  | .num n => numberText n
  | .str s => quote s
  | .arr xs => "[" ++ compactItems xs ++ "]"
  | .obj fs => "\x7b" ++ compactFields fs ++ "\x7d"

/-- Items separated by commas. -/
def compactItems : List Json → String
  | [] => ""
  | [x] => compact x
  | x :: rest => compact x ++ "," ++ compactItems rest

/-- Fields separated by commas. -/
def compactFields : List (String × Json) → String
  | [] => ""
  | [(k, v)] => quote k ++ ":" ++ compact v
  | (k, v) :: rest => quote k ++ ":" ++ compact v ++ "," ++ compactFields rest

end

/-- The blanks that start a line at nesting `n`. -/
def indent (n : Nat) : String := String.ofList (List.replicate (2 * n) ' ')

mutual

/-- A value broken over lines, at nesting `n`. -/
def pretty (n : Nat) : Json → String
  | .arr [] => "[]"
  | .obj [] => "\x7b\x7d"
  | .arr xs => "[\n" ++ prettyItems (n + 1) xs ++ "\n" ++ indent n ++ "]"
  | .obj fs => "\x7b\n" ++ prettyFields (n + 1) fs ++ "\n" ++ indent n ++ "\x7d"
  | v => compact v

/-- Items one per line at nesting `n`. -/
def prettyItems (n : Nat) : List Json → String
  | [] => ""
  | [x] => indent n ++ pretty n x
  | x :: rest => indent n ++ pretty n x ++ ",\n" ++ prettyItems n rest

/-- Fields one per line at nesting `n`. -/
def prettyFields (n : Nat) : List (String × Json) → String
  | [] => ""
  | [(k, v)] => indent n ++ quote k ++ ": " ++ pretty n v
  | (k, v) :: rest => indent n ++ quote k ++ ": " ++ pretty n v ++ ",\n" ++ prettyFields n rest

end

end LowRankTuner.Json
