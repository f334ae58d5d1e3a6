/-
  LowRankTuner/Json/Read.lean
  ===========================
  Reading JSON text, with the error a malformed text gets.

  The reader walks the UTF-8 bytes of the text once, left to right, and stops at the first
  fault.  Every fault has a kind (`ErrorCode`) and a place: a line and a byte column.  The
  place is either that of the last byte consumed (`fail`) or one byte past the byte looked
  at but not consumed (`failAhead`); which one a fault uses is part of its definition, as
  is the text of each kind (`ErrorCode.text`).

  Numbers follow one rule: digits accumulate in a 64-bit natural; an integer that fits
  stays an integer, anything else becomes a float computed as the significand times or
  over a power of ten (`fromParts`), and a finite text whose float overflows is refused as
  out of range.  Nesting deeper than 127 levels is refused.  A value written and read
back (`reread`) is how a record serialized to text appears to whoever reads that text.
-/
import LowRankTuner.Json.Value
import LowRankTuner.Json.Write
import LowRankTuner.Decimal.Binary

namespace LowRankTuner.Json

/-! ## 1. Faults -/

/-- The kinds of fault in reading JSON, and the messages of decoding into a structure. -/
inductive ErrorCode where
  | eofWhileParsingList
  | eofWhileParsingObject
  | eofWhileParsingString
  | eofWhileParsingValue
  | expectedColon
  | expectedListCommaOrEnd
  | expectedObjectCommaOrEnd
  | expectedSomeIdent
  | expectedSomeValue
  | invalidEscape
  | invalidNumber
  | numberOutOfRange
  | controlCharacterWhileParsingString
  | keyMustBeAString
  | loneLeadingSurrogateInHexEscape
  | trailingComma
  | trailingCharacters
  | unexpectedEndOfHexEscape
  | recursionLimitExceeded
  | message (text : String)
  deriving DecidableEq, Repr

/-- The words of each fault. -/
def ErrorCode.text : ErrorCode → String
  | .eofWhileParsingList => "EOF while parsing a list"
  | .eofWhileParsingObject => "EOF while parsing an object"
  | .eofWhileParsingString => "EOF while parsing a string"
  | .eofWhileParsingValue => "EOF while parsing a value"
  | .expectedColon => "expected `:`"
  | .expectedListCommaOrEnd => "expected `,` or `]`"
  | .expectedObjectCommaOrEnd => "expected `,` or `\x7d`"
  | .expectedSomeIdent => "expected ident"
  | .expectedSomeValue => "expected value"
  | .invalidEscape => "invalid escape"
  | .invalidNumber => "invalid number"
  | .numberOutOfRange => "number out of range"
  | .controlCharacterWhileParsingString =>
    "control character (\\u0000-\\u001F) found while parsing a string"
  | .keyMustBeAString => "key must be a string"
  | .loneLeadingSurrogateInHexEscape => "lone leading surrogate in hex escape"
  | .trailingComma => "trailing comma"
  | .trailingCharacters => "trailing characters"
  | .unexpectedEndOfHexEscape => "unexpected end of hex escape"
  | .recursionLimitExceeded => "recursion limit exceeded"
  | .message t => t

/-- A fault with its place; line 0 means the fault has no place. -/
structure Error where
  code : ErrorCode
  line : Nat
  column : Nat
  deriving DecidableEq, Repr

/-- The message of a fault: its words, then its place when it has one. -/
def Error.message (e : Error) : String :=
  if e.line == 0 then e.code.text
  else e.code.text ++ " at line " ++ toString e.line ++ " column " ++ toString e.column

/-- The line and byte column of byte offset `i`: the line counts the newlines before the
line that holds `i`, the column the bytes from the start of that line to `i`. -/
def placeOf (src : ByteArray) (i : Nat) : Nat × Nat :=
  let (line, start) := (List.range i).foldl
    (fun (acc : Nat × Nat) j =>
      if src.get! j == 10 then (acc.1 + 1, j + 1) else acc) (1, 0)
  (line, i - start)

/-! ## 2. The reading monad -/

/-- Reading: the text is fixed, the state is the offset of the next byte. -/
abbrev ReadM := ReaderT ByteArray (StateT Nat (Except Error))

/-- A fault placed at the last byte consumed. -/
def fail {α : Type} (code : ErrorCode) : ReadM α := do
  let src ← read
  let i ← get
  let (l, c) := placeOf src i
  throw ⟨code, l, c⟩

/-- A fault placed one byte past the byte looked at. -/
def failAhead {α : Type} (code : ErrorCode) : ReadM α := do
  let src ← read
  let i ← get
  let (l, c) := placeOf src (min src.size (i + 1))
  throw ⟨code, l, c⟩

/-- Gives a fault without a place the place of the last byte consumed. -/
def placed {α : Type} (x : ReadM α) : ReadM α := fun src i =>
  match x src i with
  | .error e =>
    if e.line == 0 then
      let (l, c) := placeOf src i
      -- the offset after the failed step is not known here, so the one before it is used
      .error { e with line := l, column := c }
    else .error e
  | ok => ok

/-- The next byte, if any, without consuming it. -/
def peek : ReadM (Option UInt8) := do
  let src ← read
  let i ← get
  return if h : i < src.size then some (src.get i h) else none

/-- Consumes one byte. -/
def eat : ReadM Unit := modify (· + 1)

/-- The next byte, consumed. -/
def next : ReadM (Option UInt8) := do
  let b ← peek
  if b.isSome then eat
  return b

/-- Consumes blanks (space, tab, newline, return) and looks at the byte after them. -/
def skipBlanks : Nat → ReadM (Option UInt8)
  | 0 => peek
  | fuel + 1 => do
    match ← peek with
    | some 32 | some 9 | some 10 | some 13 => eat; skipBlanks fuel
    | b => return b

/-- Consumes blanks, with fuel for every byte of the text. -/
def blanks : ReadM (Option UInt8) := do
  skipBlanks ((← read).size + 1)

/-- Consumes the rest of a word such as `null`. -/
def ident : List UInt8 → ReadM Unit
  | [] => pure ()
  | b :: rest => do
    match ← next with
    | none => fail .eofWhileParsingValue
    | some c => if c == b then ident rest else fail .expectedSomeIdent

/-! ## 3. Numbers -/

/-- `10^k` as the nearest 64-bit float, for `k ≤ 308`. -/
def pow10Table : Array Float :=
  (List.range 309).toArray.map (fun k => floatOfRatio false (Nat.pow 10 k) 1)

/-- The largest 64-bit natural. -/
def u64Max : Nat := Nat.pow 2 64 - 1

/-- A digit byte's value. -/
def digitOf? (b : Option UInt8) : Option Nat :=
  match b with
  | some c => if 48 ≤ c && c ≤ 57 then some (c.toNat - 48) else none
  | none => none

/-- The float of significand and decimal exponent: the significand rounded to a float, then
multiplied or divided by the float power of ten; exponents below `-308` divide by `1e308`
first, and an overflow is refused. -/
def fromParts (positive : Bool) (sig : Nat) (exp : Int) : ReadM Float := do
  let start := floatOfRatio false sig 1
  let rec go : Nat → Float → Int → ReadM Float
    | 0, f, _ => pure f
    | fuel + 1, f, e =>
      match pow10Table[e.natAbs]? with
      | some p =>
        if 0 ≤ e then
          let g := f * p
          if g.isInf then fail .numberOutOfRange else pure g
        else pure (f / p)
      | none =>
        if f == 0 then pure f
        else if 0 ≤ e then fail .numberOutOfRange
        else go fuel (f / 1e308) (e + 308)
  let f ← go (exp.natAbs / 308 + 2) start exp
  return if positive then f else -f

/-- Skips digits. -/
def skipDigits : Nat → ReadM Unit
  | 0 => pure ()
  | fuel + 1 => do
    match digitOf? (← peek) with
    | some _ => eat; skipDigits fuel
    | none => pure ()

/-- The largest 32-bit signed integer, the bound of an exponent. -/
def i32Max : Int := Int.pow 2 31 - 1

/-- The digits of an exponent, after `e` or `E` and its sign were consumed: the exponent is
read while it stays within 32 bits, then the float is made. -/
def exponentDigits (positive : Bool) (sig : Nat) (start : Int) (positiveExp : Bool) (fuel : Nat) :
    ReadM Float := do
  match ← next with
  | none => fail .eofWhileParsingValue
  | some c =>
    match digitOf? (some c) with
    | none => fail .invalidNumber
    | some d0 =>
      let rec more : Nat → Int → ReadM (Option Int)
        | 0, e => pure (some e)
        | n + 1, e => do
          match digitOf? (← peek) with
          | some d =>
            eat
            if e * 10 + d > i32Max then pure none else more n (e * 10 + d)
          | none => pure (some e)
      match ← more fuel d0 with
      | some e =>
        let final := if positiveExp then min (start + e) i32Max else max (start - e) (-i32Max - 1)
        fromParts positive sig final
      | none =>
        -- the exponent overflows: zero for a zero significand or a negative exponent
        if sig != 0 && positiveExp then fail .numberOutOfRange
        else
          skipDigits fuel
          pure (if positive then 0.0 else -0.0)

/-- The exponent part, after `e` or `E` was looked at. -/
def exponentPart (positive : Bool) (sig : Nat) (start : Int) : ReadM Float := do
  let fuel := (← read).size + 1
  eat
  match ← peek with
  | some 43 => eat; exponentDigits positive sig start true fuel
  | some 45 => eat; exponentDigits positive sig start false fuel
  | _ => exponentDigits positive sig start true fuel

/-- What follows the digits of a fraction: an exponent, or the end of the number. -/
def fractionEnd (positive : Bool) (sig : Nat) (exp : Int) : ReadM Float := do
  match ← peek with
  | some 101 | some 69 => exponentPart positive sig exp
  | _ => fromParts positive sig exp

/-- The fraction part, after the point was looked at. -/
def fractionPart (positive : Bool) (sig : Nat) (before : Int) : ReadM Float := do
  let fuel := (← read).size + 1
  eat
  let rec go : Nat → Nat → Int → ReadM (Nat × Int × Bool)
    | 0, s, e => pure (s, e, false)
    | n + 1, s, e => do
      match digitOf? (← peek) with
      | some d =>
        if s * 10 + d > u64Max then pure (s, e, true)
        else eat; go n (s * 10 + d) (e - 1)
      | none => pure (s, e, false)
  let (s, after, overflow) ← go fuel sig 0
  if overflow then
    skipDigits fuel
    fractionEnd positive s (before + after)
  else
    if after == 0 then
      match ← peek with
      | some _ => failAhead .invalidNumber
      | none => failAhead .eofWhileParsingValue
    else
      fractionEnd positive s (before + after)

/-- What follows the integer digits: a fraction, an exponent, or the end of the number. -/
def numberTail (positive : Bool) (sig : Nat) : ReadM JsonNumber := do
  match ← peek with
  | some 46 => return .float (← fractionPart positive sig 0)
  | some 101 | some 69 => return .float (← exponentPart positive sig 0)
  | _ =>
    if positive then return .nat sig
    else if sig == 0 || sig > Nat.pow 2 63 then return .float (-(floatOfRatio false sig 1))
    else return .negInt (-(sig : Int))

/-- Digits past the 64-bit range only raise the decimal exponent. -/
def longInteger (positive : Bool) (sig : Nat) : ReadM JsonNumber := do
  let fuel := (← read).size + 1
  let rec go : Nat → Int → ReadM JsonNumber
    | 0, e => return .float (← fromParts positive sig e)
    | n + 1, e => do
      match ← peek with
      | some 46 => return .float (← fractionPart positive sig e)
      | some 101 | some 69 => return .float (← exponentPart positive sig e)
      | b =>
        match digitOf? b with
        | some _ => eat; go n (e + 1)
        | none => return .float (← fromParts positive sig e)
  go fuel 0

/-- A number, its sign already consumed. -/
def number (positive : Bool) : ReadM JsonNumber := do
  let fuel := (← read).size + 1
  match ← next with
  | none => fail .eofWhileParsingValue
  | some 48 =>
    match digitOf? (← peek) with
    | some _ => failAhead .invalidNumber
    | none => numberTail positive 0
  | some c =>
    match digitOf? (some c) with
    | none => fail .invalidNumber
    | some d0 =>
      let rec go : Nat → Nat → ReadM JsonNumber
        | 0, s => numberTail positive s
        | n + 1, s => do
          match digitOf? (← peek) with
          | some d =>
            if s * 10 + d > u64Max then longInteger positive s
            else eat; go n (s * 10 + d)
          | none => numberTail positive s
      go fuel d0

/-! ## 4. Strings -/

/-- The UTF-8 bytes of a code point. -/
def utf8Bytes (c : Nat) : List UInt8 :=
  (String.singleton (Char.ofNat c)).toUTF8.toList

/-- The value of a hex digit byte. -/
def hexValue (b : UInt8) : Option Nat :=
  if 48 ≤ b && b ≤ 57 then some (b.toNat - 48)
  else if 97 ≤ b && b ≤ 102 then some (b.toNat - 87)
  else if 65 ≤ b && b ≤ 70 then some (b.toNat - 55)
  else none

/-- Four hex digits after `\u`: all four are consumed before they are judged. -/
def hexEscape : ReadM Nat := do
  let src ← read
  let i ← get
  if i + 4 > src.size then
    set src.size
    fail .eofWhileParsingString
  else
    set (i + 4)
    let ds := [src.get! i, src.get! (i + 1), src.get! (i + 2), src.get! (i + 3)].map hexValue
    match ds with
    | [some a, some b, some c, some d] => pure (((a * 16 + b) * 16 + c) * 16 + d)
    | _ => fail .invalidEscape

/-- A `\u` escape: a code point outside the surrogates, or a leading surrogate followed by
a `\u` escape of a trailing one. -/
def unicodeEscape : ReadM (List UInt8) := do
  let n ← hexEscape
  if 0xDC00 ≤ n && n ≤ 0xDFFF then fail .loneLeadingSurrogateInHexEscape
  else if n < 0xD800 || n > 0xDBFF then pure (utf8Bytes n)
  else
    match ← peek with
    | none => fail .eofWhileParsingString
    | some 92 =>
      eat
      match ← peek with
      | none => fail .eofWhileParsingString
      | some 117 =>
        eat
        let n2 ← hexEscape
        if n2 < 0xDC00 || n2 > 0xDFFF then fail .loneLeadingSurrogateInHexEscape
        else pure (utf8Bytes (((n - 0xD800) * 1024 + (n2 - 0xDC00)) + 0x10000))
      | some _ => eat; fail .unexpectedEndOfHexEscape
    | some _ => eat; fail .unexpectedEndOfHexEscape

/-- The escape after a backslash. -/
def escape : ReadM (List UInt8) := do
  match ← next with
  | none => fail .eofWhileParsingString
  | some 34 => pure [34]
  | some 92 => pure [92]
  | some 47 => pure [47]
  | some 98 => pure [8]
  | some 102 => pure [12]
  | some 110 => pure [10]
  | some 114 => pure [13]
  | some 116 => pure [9]
  | some 117 => unicodeEscape
  | some _ => fail .invalidEscape

/-- The rest of a string whose opening quote was consumed. -/
def stringBody : ReadM String := do
  let fuel := (← read).size + 1
  let rec go : Nat → Array UInt8 → ReadM (Array UInt8)
    | 0, acc => pure acc
    | n + 1, acc => do
      match ← peek with
      | none => fail .eofWhileParsingString
      | some 34 => eat; pure acc
      | some 92 => eat; let bs ← escape; go n (acc ++ bs.toArray)
      | some b => if b < 32 then eat; fail .controlCharacterWhileParsingString
                  else eat; go n (acc.push b)
  let bytes ← go fuel #[]
  return (String.fromUTF8? ⟨bytes⟩).getD ""

/-! ## 5. Values -/

/-- The nesting a text may have. -/
def depthLimit : Nat := 128

mutual

/-- A value, blanks before it consumed first. -/
def value : Nat → Nat → ReadM Json
  | 0, _ => fail .recursionLimitExceeded
  | fuel + 1, depth => do
    match ← blanks with
    | none => failAhead .eofWhileParsingValue
    | some 110 => eat; ident [117, 108, 108]; pure .null
    | some 116 => eat; ident [114, 117, 101]; pure (.bool true)
    | some 102 => eat; ident [97, 108, 115, 101]; pure (.bool false)
    | some 45 => eat; return .num (← number false)
    | some 34 => eat; return .str (← stringBody)
    | some 91 =>
      if depth + 1 ≥ depthLimit then failAhead .recursionLimitExceeded
      else
        eat
        let items ← arrayItems fuel (depth + 1) true []
        closeArray
        pure (.arr items)
    | some 123 =>
      if depth + 1 ≥ depthLimit then failAhead .recursionLimitExceeded
      else
        eat
        let fields ← objectFields fuel (depth + 1) true []
        closeObject
        pure (.obj fields)
    | some b =>
      if 48 ≤ b && b ≤ 57 then return .num (← number true)
      else failAhead .expectedSomeValue

/-- The items of an array after its `[`, up to the `]` (looked at, not consumed). -/
def arrayItems : Nat → Nat → Bool → List Json → ReadM (List Json)
  | 0, _, _, acc => pure acc.reverse
  | fuel + 1, depth, first, acc => do
    let b ← blanks
    match b with
    | some 93 => pure acc.reverse
    | none => failAhead .eofWhileParsingList
    | some c =>
      let go : ReadM (List Json) := do
        match ← blanks with
        | some 93 => failAhead .trailingComma
        | none => failAhead .eofWhileParsingValue
        | some _ =>
          let v ← value fuel depth
          arrayItems fuel depth false (v :: acc)
      if c == 44 && !first then eat; go
      else if first then go
      else failAhead .expectedListCommaOrEnd

/-- The fields of an object after its `{`, up to the `}` (looked at, not consumed). -/
def objectFields : Nat → Nat → Bool → List (String × Json) → ReadM (List (String × Json))
  | 0, _, _, acc => pure acc.reverse
  | fuel + 1, depth, first, acc => do
    let b ← blanks
    match b with
    | some 125 => pure acc.reverse
    | none => failAhead .eofWhileParsingObject
    | some c =>
      let go : ReadM (List (String × Json)) := do
        match ← blanks with
        | some 34 =>
          eat
          let k ← stringBody
          match ← blanks with
          | some 58 =>
            eat
            let v ← value fuel depth
            objectFields fuel depth false ((k, v) :: acc)
          | some _ => failAhead .expectedColon
          | none => failAhead .eofWhileParsingObject
        | some 125 => failAhead .trailingComma
        | some _ => failAhead .keyMustBeAString
        | none => failAhead .eofWhileParsingValue
      if c == 44 && !first then eat; go
      else if first then go
      else failAhead .expectedObjectCommaOrEnd

/-- The `]` that closes an array. -/
def closeArray : ReadM Unit := do
  match ← blanks with
  | some 93 => eat
  | some 44 =>
    eat
    match ← blanks with
    | some 93 => failAhead .trailingComma
    | _ => failAhead .trailingCharacters
  | some _ => failAhead .trailingCharacters
  | none => failAhead .eofWhileParsingList

/-- The `}` that closes an object. -/
def closeObject : ReadM Unit := do
  match ← blanks with
  | some 125 => eat
  | some 44 => failAhead .trailingComma
  | some _ => failAhead .trailingCharacters
  | none => failAhead .eofWhileParsingObject

end

/-- Nothing but blanks may follow the value of a document. -/
def finish : ReadM Unit := do
  match ← blanks with
  | some _ => failAhead .trailingCharacters
  | none => pure ()

/-- A whole document: one value and blanks around it. -/
def document : ReadM Json := do
  let v ← value ((← read).size + 2) 0
  finish
  pure v

/-- Reads the UTF-8 bytes of a JSON document, the fields of each object as written: in
their order, a key given twice kept twice. -/
def parseBytesAsWritten (src : ByteArray) : Except Error Json :=
  (document.run src |>.run 0).map (·.1)

/-- Reads the UTF-8 bytes of a JSON document, the fields of each object sorted by key and
the last of equal keys kept. -/
def parseBytes (src : ByteArray) : Except Error Json :=
  (parseBytesAsWritten src).map normalize

/-- Reads a JSON text. -/
def parse (s : String) : Except Error Json := parseBytes s.toUTF8

/-- A value as it reads back from its own compact text.  Numbers pass through their
shortest digits and the reader's conversion, which is not always the nearest float when
the exponent is large or small: `1e-30` reads back as `9.999999999999999e-31`.  Floats
that are not finite are written, and so read back, as null. -/
def reread (j : Json) : Json :=
  match parse j.compact with
  | .ok r => r
  | .error _ => j

end LowRankTuner.Json
