/-
  LowRankTuner/Json5/Value.lean
  =============================
  JSON5 values: what the parse tree of a JSON5 text means.

  A string's pieces become its characters: `\b`, `\f`, `\n`, `\r`, `\t` and `\v` their
  control characters, `\0` the null character, `\x` and `\u` the code point of their hex
  digits, and any other escaped character itself.  A number without a point, without an
  exponent unless it is hexadecimal, and other than the infinities and NaN is an integer
  that must fit 64 signed bits; any other number is a float, which must be finite unless it
  is `Infinity`, `-Infinity`, `NaN` or `-NaN`.  The faults are worded as a standard integer
  reader words them.
-/
import LowRankTuner.Json5.Grammar
import LowRankTuner.Decimal.Read

namespace LowRankTuner.Json5

/-- A JSON5 value; an object keeps its pairs in order. -/
inductive Value where
  | null
  | bool (b : Bool)
  | integer (i : Int)
  | float (x : Float)
  | string (s : String)
  | array (items : List Value)
  | object (entries : List (String × Value))
  deriving Inhabited

/-- The value of hexadecimal digits. -/
def hexValue (ds : String) : Nat :=
  ds.foldl (fun acc c =>
    acc * 16 + (if c.isDigit then c.toNat - 48 else if 'a' ≤ c && c ≤ 'f' then c.toNat - 87
      else c.toNat - 55)) 0

/-- The text of a piece of a string. -/
def Piece.text : Piece → Except String String
  | .plain c => .ok c.toString
  | .escaped c =>
    .ok (match c with
      | 'b' => (Char.ofNat 8).toString
      | 'f' => (Char.ofNat 12).toString
      | 'n' => "\n"
      | 'r' => "\r"
      | 't' => "\t"
      | 'v' => (Char.ofNat 11).toString
      | c => c.toString)
  | .nul => .ok (Char.ofNat 0).toString
  | .hex ds | .unicode ds =>
    let n := hexValue ds
    if n < 0xD800 || (0xE000 ≤ n && n ≤ 0x10FFFF) then .ok (Char.ofNat n).toString
    else .error "error parsing hex prefix"

/-- The text of a string's pieces. -/
def piecesText (ps : List Piece) : Except String String := do
  return String.join (← ps.mapM Piece.text)

/-- Whether a number's text starts with `0x` or `0X` and has more after it. -/
def isHexLiteral (s : String) : Bool := s.length > 2 && (s.startsWith "0x" || s.startsWith "0X")

/-- Whether a number's text is read as an integer. -/
def isInt (s : String) : Bool :=
  !s.contains '.' && (isHexLiteral s || (!s.contains 'e' && !s.contains 'E')) &&
    !(["Infinity", "-Infinity", "+Infinity", "NaN", "-NaN", "+NaN"].contains s)

/-- A 64-bit signed integer in a radix: an optional sign, then digits; the fault names the
first thing wrong from the left. -/
def readInt64 (radix : Nat) (s : String) : Except String Int :=
  match s.toList with
  | [] => .error "cannot parse integer from empty string"
  | ['+'] | ['-'] => .error "invalid digit found in string"
  | cs =>
    let (neg, ds) := match cs with
      | '+' :: more => (false, more)
      | '-' :: more => (true, more)
      | more => (false, more)
    ds.foldlM (fun acc c =>
      let d? := if c.isDigit then some (c.toNat - 48)
        else if 'a' ≤ c && c ≤ 'z' then some (c.toNat - 87)
        else if 'A' ≤ c && c ≤ 'Z' then some (c.toNat - 55)
        else none
      match d? with
      | some d =>
        if d < radix then
          let v := if neg then acc * radix - d else acc * radix + d
          if v ≥ Int.pow 2 63 then .error "number too large to fit in target type"
          else if v < -Int.pow 2 63 then .error "number too small to fit in target type"
          else .ok v
        else .error "invalid digit found in string"
      | none => .error "invalid digit found in string") (0 : Int)

/-- The integer of a number's text. -/
def integerOf (s : String) : Except String Int :=
  if isHexLiteral s then readInt64 16 (String.ofList (s.toList.drop 2)) else readInt64 10 s

/-- The float of a number's text. -/
def floatOf (s : String) : Except String Float :=
  if s == "Infinity" then .ok (1.0 / 0.0)
  else if s == "-Infinity" then .ok (-(1.0 / 0.0))
  else if s == "NaN" || s == "-NaN" then .ok (0.0 / 0.0)
  else match Decimal.readFloat? s with
    | some x => if x.isFinite then .ok x else .error "error parsing number: too large"
    | none => .error "error parsing number"

mutual

/-- The value of a parse tree, or the first fault in document order. -/
def Tree.toValue : Tree → Except String Value
  | .null => .ok .null
  | .boolean b => .ok (.bool b)
  | .string ps => .string <$> piecesText ps
  | .number s => if isInt s then .integer <$> integerOf s else .float <$> floatOf s
  | .array items => .array <$> Tree.itemValues items
  | .object pairs => .object <$> Tree.pairValues pairs

/-- The values of items. -/
def Tree.itemValues : List Tree → Except String (List Value)
  | [] => .ok []
  | x :: more => do
    let v ← x.toValue
    let vs ← Tree.itemValues more
    return v :: vs

/-- The keys and values of pairs. -/
def Tree.pairValues : List (List Piece × Tree) → Except String (List (String × Value))
  | [] => .ok []
  | (k, x) :: more => do
    let key ← piecesText k
    let v ← x.toValue
    let vs ← Tree.pairValues more
    return (key, v) :: vs

end

/-- The value of JSON5 text, or the words of its fault. -/
def read (text : String) : Except String Value := do
  let tree ← parse text
  tree.toValue

end LowRankTuner.Json5
