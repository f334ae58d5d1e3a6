/-
  LowRankTuner/Ron/Value.lean
  ===========================
  Reading RON text into values.

  A value is `true` or `false`; `None`, `Some(value)` or `()`; a number; a string in double
  quotes with escapes, or raw as `r"..."` between `#` marks; a character in single quotes;
  a list `[...]`; a map `{key: value, ...}`; or a struct: an optional name, then `(...)`
  with `field: value` pairs, or with plain values for a tuple.  A name alone is the unit
  value.  Commas separate items and may trail; blanks and `//` or nested `/* */` comments
  may stand between tokens.  `#![enable(...)]` attributes may stand in front.

  A number is a float when its float characters run longer than its integer ones: `7` and
  `0x1F` are integers, `3.5`, `1e5` and `.5` floats, and `inf`, `-inf` and `NaN` are words.
  An integer that no integer reading takes is read again as a float; one that does not fit
  64 bits is refused.

  Text is read as UTF-8 bytes, each shown as the character of its value: a fault's place
  is a line and a column of bytes, both counted from one, and a byte a message names is
  that character.  A map keeps its pairs in the order of their keys, a later pair with an
  equal key replacing the value.
-/
import LowRankTuner.Decimal.Read
import LowRankTuner.Decimal.Layout
import LowRankTuner.Text.Quote

namespace LowRankTuner.Ron

/-- A RON value. -/
inductive Value where
  | bool (b : Bool)
  | char (c : Char)
  | map (entries : List (Value × Value))
  | integer (i : Int)
  | float (x : Float)
  | option (v : Option Value)
  | string (s : String)
  | seq (items : List Value)
  | unit
  deriving Inhabited

/-- A fault of RON text: its line and column, both zero for a fault of no place, and what
is wrong. -/
structure Error where
  line : Nat
  column : Nat
  message : String

/-- The words of a fault, with its place in front when it has one. -/
def Error.text (e : Error) : String :=
  if e.line == 0 && e.column == 0 then e.message
  else toString e.line ++ ":" ++ toString e.column ++ ": " ++ e.message

/-- The rank of a value's kind in the order of values. -/
def Value.rank : Value → Nat
  | .bool _ => 0
  | .char _ => 1
  | .map _ => 2
  | .integer _ => 3
  | .float _ => 4
  | .option _ => 5
  | .string _ => 6
  | .seq _ => 7
  | .unit => 8

/-- Floats in total order, NaN first. -/
def floatOrder (a b : Float) : Ordering :=
  if a.isNaN then (if b.isNaN then .eq else .lt)
  else if b.isNaN then .gt
  else if a < b then .lt else if b < a then .gt else .eq

mutual

/-- The order of values: by kind, then by contents, collections item by item. -/
def Value.order : Value → Value → Ordering
  | .bool a, .bool b => compare a b
  | .char a, .char b => compare a b
  | .map xs, .map ys => Value.orderEntries xs ys
  | .integer a, .integer b => compare a b
  | .float a, .float b => floatOrder a b
  | .option none, .option none => .eq
  | .option none, .option (some _) => .lt
  | .option (some _), .option none => .gt
  | .option (some a), .option (some b) => Value.order a b
  | .string a, .string b => compare a b
  | .seq xs, .seq ys => Value.orderItems xs ys
  | .unit, .unit => .eq
  | a, b => compare a.rank b.rank

/-- Lists of values in lexicographic order. -/
def Value.orderItems : List Value → List Value → Ordering
  | [], [] => .eq
  | [], _ :: _ => .lt
  | _ :: _, [] => .gt
  | x :: xs, y :: ys => (Value.order x y).then (Value.orderItems xs ys)

/-- Lists of pairs in lexicographic order. -/
def Value.orderEntries : List (Value × Value) → List (Value × Value) → Ordering
  | [], [] => .eq
  | [], _ :: _ => .lt
  | _ :: _, [] => .gt
  | (k, v) :: xs, (k', v') :: ys =>
    ((Value.order k k').then (Value.order v v')).then (Value.orderEntries xs ys)

end

/-- Pairs with one more put in its place by key; an equal key keeps its place and takes
the new value. -/
def insertEntry : List (Value × Value) → Value × Value → List (Value × Value)
  | [], e => [e]
  | (k, v) :: more, (k', v') =>
    match Value.order k' k with
    | .lt => (k', v') :: (k, v) :: more
    | .eq => (k, v') :: more
    | .gt => (k, v) :: insertEntry more (k', v')

/-- The reader's place: the bytes still to read, each as the character of its value, and
the line and column of the next one.  After a number is read again as a float the column
keeps what the first reading counted. -/
structure Cursor where
  rest : List Char
  line : Nat := 1
  column : Nat := 1
  /-- One more than the length of the whole text: no loop that reads a byte each step runs
  longer. -/
  limit : Nat := 1

/-- A step of the reader, which may fail. -/
abbrev ReadM := StateT Cursor (Except Error)

namespace Cursor

/-- The place after one byte; at the end nothing moves. -/
def advance1 (c : Cursor) : Cursor :=
  match c.rest with
  | '\n' :: rest => { c with rest := rest, line := c.line + 1, column := 1 }
  | _ :: rest => { c with rest := rest, column := c.column + 1 }
  | [] => c

/-- The place after `n` bytes. -/
def advance (c : Cursor) : Nat → Cursor
  | 0 => c
  | n + 1 => c.advance1.advance n

end Cursor

/-- A fault at the current place. -/
def fail {α : Type} (message : String) : ReadM α := do
  let c ← get
  throw ⟨c.line, c.column, message⟩

/-- The next byte, if any. -/
def peek? : ReadM (Option Char) := do return (← get).rest.head?

/-- The next byte; at the end a fault. -/
def peekOrEof : ReadM Char := do
  match (← get).rest with
  | b :: _ => pure b
  | [] => fail "Unexpected end of RON"

/-- The place after `n` bytes. -/
def advance (n : Nat) : ReadM Unit := modify (·.advance n)

/-- The next byte, read. -/
def eatByte : ReadM Char := do
  let b ← peekOrEof
  advance 1
  return b

/-- Whether the text ahead starts with `s`. -/
def testFor (s : String) : ReadM Bool := do return s.toList.isPrefixOf (← get).rest

/-- `s` read when the text ahead starts with it. -/
def consume (s : String) : ReadM Bool := do
  if ← testFor s then
    advance s.length
    return true
  return false

/-- A character that may continue an identifier. -/
def isIdentOther (b : Char) : Bool := b.isAlphanum || b == '_'

/-- A character that may start an identifier. -/
def isIdentFirst (b : Char) : Bool := b.isAlpha || b == '_'

/-- A character of a raw identifier. -/
def isIdentRaw (b : Char) : Bool := isIdentOther b || b == '.' || b == '+' || b == '-'

/-- A character of an integer: a hex digit or `_`. -/
def isIntChar (b : Char) : Bool := b.isDigit || ('a' ≤ b && b ≤ 'f') || ('A' ≤ b && b ≤ 'F') || b == '_'

/-- A character of a float: a digit, `.`, `e`, `E`, a sign or `_`. -/
def isFloatChar (b : Char) : Bool := b.isDigit || ".eE+-_".contains b

/-- A blank between tokens. -/
def isWhitespace (b : Char) : Bool := b == ' ' || b == '\t' || b == '\n' || b == '\r'

/-- Whether the text ahead is the identifier `s`, not followed by an identifier character. -/
def checkIdent (s : String) : ReadM Bool := do
  let c ← get
  return s.toList.isPrefixOf c.rest && !((c.rest.drop s.length).head?.map isIdentOther).getD false

/-- The identifier `s` read when it is ahead. -/
def consumeIdent (s : String) : ReadM Bool := do
  if ← checkIdent s then
    advance s.length
    return true
  return false

/-- An identifier: a letter or `_`, then letters, digits and `_`; or `r#` and raw
characters.  A failure moves nothing. -/
def identifier : ReadM (List Char) := do
  let c ← get
  let next ← peekOrEof
  if !isIdentFirst next then fail "Expected identifier"
  if next == 'r' then
    match c.rest with
    | _ :: '"' :: _ => fail "Expected identifier"
    | _ :: '#' :: more =>
      if !((more.head?.map isIdentRaw).getD false) then fail "Expected identifier"
      advance 2
      let ident := (← get).rest.takeWhile isIdentRaw
      advance ident.length
      return ident
    | [_] => fail "Unexpected end of RON"
    | _ =>
      let ident := c.rest.takeWhile isIdentOther
      advance ident.length
      return ident
  let ident := c.rest.takeWhile isIdentOther
  advance ident.length
  return ident

/-- The place after a nested block comment, at depth `level`. -/
def blockComment : Nat → Nat → ReadM Unit
  | 0, _ => pure ()
  | _ + 1, 0 => pure ()
  | n + 1, level + 1 => do
    let c ← get
    if c.rest.isEmpty then fail "Unclosed block comment"
    advance (c.rest.takeWhile (fun b => b != '/' && b != '*')).length
    if ← consume "/*" then blockComment n (level + 2)
    else if ← consume "*/" then blockComment n level
    else
      match (← get).rest with
      | [] => fail "Unclosed block comment"
      | _ => do
        advance 1
        blockComment n (level + 1)

/-- The place after blanks and comments. -/
def skipWs : Nat → ReadM Unit
  | 0 => pure ()
  | n + 1 => do
    advance ((← get).rest.takeWhile isWhitespace).length
    if ← consume "/" then
      match ← eatByte with
      | '/' => advance ((← get).rest.takeWhile (· != '\n')).length
      | '*' => blockComment (← get).limit 1
      | b => fail ("Unexpected byte " ++ showByte b)
      skipWs n
where
  /-- A byte as a character in single quotes, escaped as a character is shown. -/
  showByte (b : Char) : String :=
    let body := match b with
      | '\t' => "\\t"
      | '\n' => "\\n"
      | '\r' => "\\r"
      | '\\' => "\\\\"
      | b =>
        if b.toNat == 0 then "\\0"
        else if b == Text.apostrophe then "\\" ++ b.toString
        else if Text.isGraphemeExtend b || !Text.isPrintable b then
          "\\u\x7b" ++ Text.hexText b.toNat ++ "\x7d"
        else b.toString
    Text.apostrophe.toString ++ body ++ Text.apostrophe.toString

/-- Blanks and comments skipped, as many as there are. -/
def skipBlanks : ReadM Unit := do skipWs (← get).limit

/-- A `,` with the blanks around it, if one is next. -/
def comma : ReadM Bool := do
  skipBlanks
  if ← consume "," then
    skipBlanks
    return true
  return false

/-- The value of a digit in a radix, if it is one. -/
def digitIn (radix : Nat) (b : Char) : Option Nat :=
  let d? := if b.isDigit then some (b.toNat - 48)
    else if 'a' ≤ b && b ≤ 'f' then some (b.toNat - 87)
    else if 'A' ≤ b && b ≤ 'F' then some (b.toNat - 55)
    else none
  d?.bind fun d => if d < radix then some d else none

/-- An integer read at a place, with the place after the attempt: a radix prefix `0x`,
`0b` or `0o`, then integer characters, underscores between digits; its value must lie in
`[low, high]`.  A failed reading still counts the columns it passed. -/
def integerAt (c : Cursor) (neg : Bool) (low high : Int) : Cursor × Option Int :=
  let radix := match c.rest with
    | '0' :: 'x' :: _ => 16
    | '0' :: 'b' :: _ => 2
    | '0' :: 'o' :: _ => 8
    | _ => 10
  let c := if radix != 10 then c.advance 2 else c
  let digits := c.rest.takeWhile isIntChar
  match digits with
  | [] => (c, none)
  | '_' :: _ => (c, none)
  | _ =>
    let value := digits.foldl (fun acc b => acc.bind fun v =>
      if b == '_' then some v
      else (digitIn radix b).bind fun d =>
        let v' := if neg then v * radix - d else v * radix + d
        if low ≤ v' && v' ≤ high then some v' else none) (some (0 : Int))
    (c.advance digits.length, value)

/-- Whether the number ahead is a float: after a sign, its float characters run longer
than its integer characters. -/
def nextIsFloat (rest : List Char) : Bool :=
  let rest := match rest with
    | '+' :: more | '-' :: more => more
    | more => more
  (rest.takeWhile isFloatChar).length > (rest.takeWhile isIntChar).length

/-- A float: a word `inf`, `+inf`, `-inf`, `NaN`, `+NaN`, `-NaN`, or float characters
that form a decimal numeral; an underscore among them is refused. -/
def float : ReadM Float := do
  for w in ["inf", "+inf", "-inf", "NaN", "+NaN", "-NaN"] do
    if ← consumeIdent w then
      return (if w.endsWith "inf" then (if w.startsWith "-" then -(1.0 / 0.0) else 1.0 / 0.0)
        else 0.0 / 0.0)
  let chars := (← get).rest.takeWhile isFloatChar
  match chars.findIdx? (· == '_') with
  | some i =>
    advance i
    fail "Unexpected underscore in float"
  | none =>
    match Decimal.readFloat? (String.ofList chars) with
    | some x =>
      advance chars.length
      return x
    | none => fail "Expected float"

/-- A number: a float when it looks like one, else an integer, and when no integer
reading takes it a float read again from its start. -/
def number : ReadM Value := do
  let c ← get
  if nextIsFloat c.rest then return .float (← float)
  let signed := match c.rest with
    | '+' :: _ | '-' :: _ => true
    | _ => false
  let i128 : Int := Int.pow 2 127
  let (after, value) :=
    if signed then
      let neg := c.rest.head? == some '-'
      integerAt (c.advance 1) neg (-i128) (i128 - 1)
    else integerAt c false 0 (Int.pow 2 128 - 1)
  match value with
  | some v =>
    set after
    if -Int.pow 2 63 ≤ v && v < Int.pow 2 63 then return .integer v
    else if !signed && v < Int.pow 2 64 then return .integer (v - Int.pow 2 64)
    else throw ⟨0, 0, "invalid type: integer `" ++ toString v ++ "` as " ++
      (if signed then "i128" else "u128") ++ ", expected a RON value"⟩
  | none =>
    set { after with rest := c.rest }
    return .float (← float)

/-- A code point of escaped hex digits, up to six of them before `}`. -/
def unicodeDigits : Nat → Nat → Nat → ReadM (Nat × Nat)
  | 0, v, k => pure (v, k)
  | n + 1, v, k => do
    let b ← peekOrEof
    if b == '}' then return (v, k)
    advance 1
    match digitIn 16 b with
    | some d => unicodeDigits n (v * 16 + d) (k + 1)
    | none => fail "Non-hex digit found"

/-- The character a backslash escape stands for, read after the backslash. -/
def escape : ReadM Char := do
  let b ← eatByte
  match b with
  | '"' => return '"'
  | '\\' => return '\\'
  | 'n' => return '\n'
  | 'r' => return '\r'
  | 't' => return '\t'
  | '0' => return Char.ofNat 0
  | 'x' =>
    let h ← eatByte
    let some hi := digitIn 16 h | fail "Non-hex digit found"
    let l ← eatByte
    let some lo := digitIn 16 l | fail "Non-hex digit found"
    return Char.ofNat (hi * 16 + lo)
  | 'u' =>
    if (← eatByte) != '{' then fail "Missing \x7b in Unicode escape"
    let (v, k) ← unicodeDigits 6 0 0
    if k == 0 then fail "Expected 1-6 digits, got 0 digits in Unicode escape"
    if (← eatByte) != '}' then fail "No \x7d at the end of Unicode escape"
    if v < 0xD800 || (0xE000 ≤ v && v ≤ 0x10FFFF) then return Char.ofNat v
    fail "Not a valid char"
  | b => if b == Text.apostrophe then return b else fail "Unknown escape character"

/-- Bytes, each a character of its value, read back as UTF-8 text. -/
def decodeBytes (bs : List Char) : String :=
  (String.fromUTF8? (ByteArray.mk (bs.map fun b => b.toNat.toUInt8).toArray)).getD ""

/-- The UTF-8 bytes of a character, each as the character of its value. -/
def encodeChar (ch : Char) : List Char :=
  (String.singleton ch).toUTF8.toList.map fun b => Char.ofNat b.toNat

/-- The rest of a double-quoted string after its quote and some bytes read, with escapes. -/
def escapedRest : Nat → List Char → ReadM String
  | 0, acc => pure (decodeBytes acc)
  | n + 1, acc => do
    let ch ← escape
    let rest := (← get).rest
    let plain := rest.takeWhile (fun b => b != '\\' && b != '"')
    if (rest[plain.length]?).isNone then fail "Unexpected end of RON"
    let acc := acc ++ encodeChar ch ++ plain
    advance (plain.length + 1)
    if rest[plain.length]? == some '"' then return decodeBytes acc
    escapedRest n acc

/-- A string in double quotes, after its opening quote. -/
def escapedString : ReadM String := do
  let rest := (← get).rest
  let plain := rest.takeWhile (fun b => b != '\\' && b != '"')
  if (rest[plain.length]?).isNone then fail "Expected end of string"
  advance (plain.length + 1)
  if rest[plain.length]? == some '"' then return decodeBytes plain
  escapedRest (← get).limit plain

/-- A raw string after its `r`: `#` marks, a quote, and the text up to a quote with as many
marks after it. -/
def rawString : ReadM String := do
  let hashes := ((← get).rest.takeWhile (· == '#')).length
  advance hashes
  if !(← consume "\"") then fail "Expected string"
  let ending := '"' :: List.replicate hashes '#'
  let rest := (← get).rest
  let rec find : Nat → List Char → Option Nat
    | _, [] => none
    | i, l@(_ :: more) => if ending.isPrefixOf l then some i else find (i + 1) more
  match find 0 rest with
  | some i =>
    advance (i + hashes + 1)
    return decodeBytes (rest.take i)
  | none => fail "Expected end of string"

/-- A string, quoted or raw. -/
def string : ReadM String := do
  if ← consume "\"" then escapedString
  else if ← consume "r" then rawString
  else fail "Expected string"

/-- A character in single quotes. -/
def char : ReadM Char := do
  let _ ← consume Text.apostrophe.toString
  let b ← peekOrEof
  let ch ← if b == '\\' then do
      advance 1
      escape
    else do
      let rest := (← get).rest
      match (rest.take 5).findIdx? (· == Text.apostrophe) with
      | none => fail "Expected char"
      | some pos =>
        match (decodeBytes (rest.take pos)).toList with
        | [ch] =>
          advance pos
          pure ch
        | _ => fail "Expected char"
  if !(← consume Text.apostrophe.toString) then fail "Expected char"
  return ch

mutual

/-- A value of any kind. -/
def value : Nat → ReadM Value
  | 0 => fail "Unexpected end of RON"
  | n + 1 => do
    if ← consumeIdent "true" then return .bool true
    if ← consumeIdent "false" then return .bool false
    if ← checkIdent "Some" then
      let _ ← consume "Some"
      skipBlanks
      if ← consume "(" then
        skipBlanks
        let v ← value n
        skipBlanks
        if ← consume ")" then return .option (some v)
        fail "Expected end of option"
      fail "Expected option"
    if ← consumeIdent "None" then return .option none
    if ← consume "()" then return .unit
    if ← consumeIdent "inf" then return .float (1.0 / 0.0)
    if ← consumeIdent "-inf" then return .float (-(1.0 / 0.0))
    if ← consumeIdent "NaN" then return .float (0.0 / 0.0)
    let saved ← get
    match (identifier.run saved) with
    | .ok (_, after) =>
      set after
      skipBlanks
      anyStruct n
    | .error _ =>
      let b ← peekOrEof
      if b == '(' then anyStruct n
      else if b == '[' then
        advance 1
        let items ← items n ']' true []
        let _ ← comma
        let _ ← consume "]"
        return .seq items
      else if b == '{' then
        advance 1
        let es ← entries n '}' false true []
        let _ ← comma
        let _ ← consume "\x7d"
        return .map es
      else if b.isDigit || b == '+' || b == '-' then number
      else if b == '.' then return .float (← float)
      else if b == '"' || b == 'r' then return .string (← string)
      else if b == Text.apostrophe then return .char (← char)
      else fail ("Unexpected byte " ++ skipWs.showByte b)

/-- A struct or tuple after its optional name, or the unit value when no `(` follows: a
tuple when its first item is not a name and a `:`. -/
def anyStruct : Nat → ReadM Value
  | 0 => fail "Unexpected end of RON"
  | n + 1 => do
    let saved ← get
    if !(← consume "(") then return .unit
    skipBlanks
    let isTuple ← match identifier.run (← get) with
      | .error _ => pure true
      | .ok (_, after) => do
        set after
        skipBlanks
        let b ← eatByte
        pure (b != ':')
    set saved
    let _ ← consume "("
    if isTuple then
      let xs ← items n ')' true []
      let _ ← comma
      let _ ← consume ")"
      return .seq xs
    else
      let es ← entries n ')' true true []
      let _ ← comma
      let _ ← consume ")"
      return .map es

/-- Whether another item follows in a comma-separated list ending at `close`. -/
def hasElement (close : Char) (hadComma : Bool) : ReadM Bool := do
  skipBlanks
  let b ← peekOrEof
  if hadComma then return b != close
  if b == close then return false
  fail "Expected comma"

/-- The items of a list ending at `close`. -/
def items : Nat → Char → Bool → List Value → ReadM (List Value)
  | 0, _, _, acc => pure acc.reverse
  | n + 1, close, hadComma, acc => do
    if !(← hasElement close hadComma) then return acc.reverse
    let v ← value n
    let hadComma ← comma
    items n close hadComma (v :: acc)

/-- The pairs of a map or struct ending at `close`; a struct's keys are names. -/
def entries : Nat → Char → Bool → Bool → List (Value × Value) → ReadM (List (Value × Value))
  | 0, _, _, _, acc => pure acc
  | n + 1, close, names, hadComma, acc => do
    if !(← hasElement close hadComma) then return acc
    let k ← if names then do
        let ident ← identifier
        pure (Value.string (String.ofList ident))
      else value n
    skipBlanks
    if !(← consume ":") then fail "Expected colon"
    skipBlanks
    let v ← value n
    let hadComma ← comma
    entries n close names hadComma (insertEntry acc (k, v))

end

/-- The names of an `enable` attribute, up to its last one. -/
def extensionNames : Nat → ReadM Unit
  | 0 => pure ()
  | n + 1 => do
    let ident := String.ofList (← identifier)
    if !(["unwrap_newtypes", "implicit_some", "unwrap_variant_newtypes"].contains ident) then
      fail ("No RON extension named `" ++ ident ++ "`")
    let hadComma ← comma
    let more := ((← get).rest.head?.map isIdentOther).getD false
    if !hadComma && more then fail "Expected comma"
    if hadComma && more then extensionNames n

/-- One `#![enable(...)]` attribute, if one is next; whether there was one. -/
def enableAttribute : ReadM Bool := do
  if (← peek?) != some '#' then return false
  if !(← consume "#!") then fail "Expected an enable attribute"
  skipBlanks
  if !(← consume "[") then fail "Expected an enable attribute"
  skipBlanks
  if !(← consume "enable") then fail "Expected an enable attribute"
  skipBlanks
  if !(← consume "(") then fail "Expected an enable attribute"
  skipBlanks
  extensionNames (← get).limit
  skipBlanks
  if ← consume ")]" then return true
  fail "Expected closing `)` and `]` after the attribute"

/-- The attributes in front of the value. -/
def attributes : Nat → ReadM Unit
  | 0 => pure ()
  | n + 1 => do
    if ← enableAttribute then
      skipBlanks
      attributes n

/-- A whole document: attributes, one value, and nothing after it but blanks. -/
def document : ReadM Value := do
  skipBlanks
  attributes (← get).limit
  let v ← value ((← get).limit + 1)
  skipBlanks
  if !(← get).rest.isEmpty then fail "Non-whitespace trailing characters"
  return v

/-- The value of RON text, or the first fault. -/
def parse (text : String) : Except Error Value :=
  let bytes := text.toUTF8.toList.map fun b => Char.ofNat b.toNat
  document.run' { rest := bytes, limit := bytes.length + 1 }

end LowRankTuner.Ron
