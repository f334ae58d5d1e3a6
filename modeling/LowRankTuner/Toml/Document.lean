/-
  LowRankTuner/Toml/Document.lean
  ===============================
  Reading the lines of a TOML document into sections.

  A document is a run of lines, each blank, a comment, a table header `[a.b]` or `[[a.b]]`,
  or a key, an equals sign and a value.  A section is a header with the key-value lines
  under it; the lines before the first header form a section with an empty header.  A key
  may be dotted (`a.b = 1`), which puts the value into nested tables of the section.

  Values are strings, booleans, numbers, datetimes, arrays and inline tables.  Integers are
  decimal with an optional sign, or hexadecimal, octal or binary after `0x`, `0o`, `0b`;
  underscores may stand between digits and a decimal integer has no leading zero.  Floats
  have a fraction, an exponent or both, or are `inf` or `nan` with an optional sign; one
  that does not fit a double is refused.  A bare word that does not start like a number is
  not a value.

  Reading consumes at least one character per step, so every loop is run with the number
  of characters left as fuel.
-/
import LowRankTuner.Toml.Token
import LowRankTuner.Decimal.Read

namespace LowRankTuner.Toml

/-- A value as a line writes it, before the document's tables are put together; every
nested value carries the offset it starts at. -/
inductive Item where
  | str (s : String)
  | int (i : Int)
  | float (x : Float)
  | bool (b : Bool)
  | datetime (text : String)
  | array (items : List (Nat × Item))
  /-- A table written in braces. -/
  | inline (pairs : List (String × Nat × Item))
  /-- A table made by dotted keys. -/
  | dotted (pairs : List (String × Nat × Item))

/-- A table header or a key-value line's keys, values and where they start. -/
abbrev Pair := String × Nat × Item

/-- A section of a document: the offset of its header, the header's keys, its pairs (taken
away once put into the document) and whether it is an element of an array of tables. -/
structure Section where
  offset : Nat
  header : List String
  values : Option (List Pair)
  array : Bool

/-- Reading a document: the cursor moves, and a failure stops everything. -/
abbrev ReadM := StateT Cursor (Except Error)

/-- The failure of a read. -/
def fail {α : Type} (f : Fault) (offset : Nat) : ReadM α := throw (.placed f offset)

/-- The offset of the next character. -/
def current : ReadM Nat := do pure (← get).current

/-- The next token, consumed. -/
def nextToken : ReadM (Option (Span × Token)) := do
  match (← get).next with
  | .error e => throw e
  | .ok none => pure none
  | .ok (some (sp, t, c)) => set c; pure (some (sp, t))

/-- The next token, not consumed. -/
def peekToken : ReadM (Option (Span × Token)) := do
  match (← get).next with
  | .error e => throw e
  | .ok none => pure none
  | .ok (some (sp, t, _)) => pure (some (sp, t))

/-- Consumes the next token if it is `t`, giving its span. -/
def eatSpanned (t : Token) : ReadM (Option Span) := do
  match ← peekToken with
  | some (sp, found) => if found == t then do let _ ← nextToken; pure (some sp) else pure none
  | none => pure none

/-- Consumes the next token if it is `t`. -/
def eat (t : Token) : ReadM Bool := do pure (← eatSpanned t).isSome

/-- Consumes the next token, which must be `t`. -/
def expectSpanned (t : Token) : ReadM Span := do
  let at₀ ← current
  match ← nextToken with
  | some (sp, found) => if found == t then pure sp else fail (.wanted t.describe found.describe) at₀
  | none => fail (.wanted t.describe "eof") (← get).stop

/-- Consumes the next token, which must be `t`. -/
def expect (t : Token) : ReadM Unit := do let _ ← expectSpanned t

/-- Skips blanks. -/
def eatWhitespace : ReadM Unit :=
  modify fun c => { c with rest := c.rest.dropWhile fun (_, d) => d == ' ' || d == '\t' }

/-- The end of a line: a line feed or the end of the text. -/
def eatNewlineOrEof : ReadM Unit := do
  let at₀ ← current
  match ← nextToken with
  | none | some (_, .newline) => pure ()
  | some (_, t) => fail (.wanted "newline" t.describe) at₀

/-- Skips a comment and the end of its line, if a comment comes next. -/
def eatComment : ReadM Bool := do
  match (← get).rest with
  | (_, '#') :: rest =>
    set { (← get) with rest := rest.dropWhile fun (_, d) => isCommentChar d }
    eatNewlineOrEof
    pure true
  | _ => pure false

/-- Skips everything up to and including the next line feed. -/
def skipToNewline : ReadM Unit :=
  modify fun c => { c with rest := (c.rest.dropWhile fun (_, d) => d != '\n').drop 1 }

/-- A key: a bare word, or a string on one line. -/
def tableKey : ReadM String := do
  let at₀ ← current
  match ← nextToken with
  | some (_, .keylike k) => pure k
  | some (sp, .str v multiline) => if multiline then fail .multilineStringKey sp.start else pure v
  | some (_, t) => fail (.wanted "a table key" t.describe) at₀
  | none => fail (.wanted "a table key" "eof") (← get).stop

/-- The rest of a dotted key after its first part, with at most `fuel` parts more. -/
def dottedRest : Nat → List String → ReadM (List String)
  | 0, acc => pure acc.reverse
  | fuel + 1, acc => do
    if ← eat .period then
      eatWhitespace
      let k ← tableKey
      eatWhitespace
      dottedRest fuel (k :: acc)
    else pure acc.reverse

/-- A key of one or more parts joined by periods. -/
def dottedKey : ReadM (List String) := do
  let k ← tableKey
  eatWhitespace
  dottedRest ((← get).stop + 1) [k]

/-- A value put under a dotted key among the pairs of a table: every part but the last
names a table made by dotted keys, created where missing; a part naming any other value
is refused at that value. -/
def addDotted (v : Nat × Item) : List String → List Pair → Except Error (List Pair)
  | [], pairs => .ok pairs
  | [k], pairs => .ok (pairs ++ [(k, v)])
  | k :: more, pairs =>
    match pairs.find? (·.1 == k) with
    | some (_, s, .dotted inner) => do
      let inner' ← addDotted v more inner
      let (before, after) := pairs.span (·.1 != k)
      pure (before ++ (k, s, .dotted inner') :: after.drop 1)
    | some (_, s, _) => .error (.placed .dottedKeyInvalidType s)
    | none => do
      let inner ← addDotted v more []
      pure (pairs ++ [(k, v.1, .dotted inner)])

/-- The digits of an integer at the front of `s`, which starts at byte `start`: an optional
sign where `signed`, then digits of the radix with single underscores between them, a zero
in front of other digits only where `leadingZeros`.  The result is the integer's text and
the rest. -/
def integerPart (s : String) (start : Nat) (signed leadingZeros : Bool) (radix : Nat) :
    Except Error (String × String) :=
  let cs := s.toList
  let isDigitOf (c : Char) : Bool :=
    if radix == 16 then (hexValue? c).isSome else '0' ≤ c && c.toNat < 48 + radix
  -- state: first digit still to come, a zero came first, the last was an underscore
  let rec walk (i : Nat) (first firstZero underscore : Bool) : List Char → Except Error (Nat × Bool × Bool)
    | [] => .ok (i, first, underscore)
    | c :: rest =>
      if i == 0 && (c == '+' || c == '-') && signed then walk (i + 1) first firstZero underscore rest
      else if c == '0' && first then walk (i + 1) false true underscore rest
      else if isDigitOf c then
        if !first && firstZero && !leadingZeros then .error (.placed .numberInvalid (start + i))
        else walk (i + 1) false firstZero false rest
      else if c == '_' && first then .error (.placed .numberInvalid (start + i))
      else if c == '_' && !underscore then walk (i + 1) false firstZero true rest
      else .ok (i, first, underscore)
  match walk 0 true false false cs with
  | .error e => .error e
  | .ok (stop, first, underscore) =>
    if first || underscore then .error (.placed .numberInvalid start)
    else .ok (String.ofList (cs.take stop), String.ofList (cs.drop stop))

/-- The value of digits of a radix with an optional sign, or nothing if there are none or
one is not a digit. -/
def digitsValue? (radix : Nat) (cs : List Char) : Option Int :=
  let (neg, ds) := match cs with
    | '-' :: r => (true, r)
    | '+' :: r => (false, r)
    | r => (false, r)
  if ds.isEmpty then none else do
    let n ← ds.foldlM (fun acc c => (hexValue? c).bind fun v =>
      if v < radix then some (acc * radix + v) else none) 0
    pure (if neg then -(n : Int) else n)

/-- An integer of a radix that starts at byte `start`; it fits in 64 signed bits. -/
def integer (s : String) (start radix : Nat) : Except Error Int := do
  let (digits, rest) ← integerPart s start (radix == 10) (radix != 10) radix
  if !rest.isEmpty then throw (.placed .numberInvalid start)
  match digitsValue? radix (digits.toList.filter (· != '_')) with
  | some n => if -Int.pow 2 63 ≤ n && n < Int.pow 2 63 then pure n else throw (.placed .numberInvalid start)
  | none => throw (.placed .numberInvalid start)

/-- A float from its integral digits (with sign), fraction digits and exponent digits (with
sign), underscores left out. -/
def floatOfParts (integral fraction exponent : List Char) : Float :=
  let clean (cs : List Char) := cs.filter (· != '_')
  let (neg, whole) := match clean integral with
    | '-' :: r => (true, r)
    | '+' :: r => (false, r)
    | r => (false, r)
  let frac := clean fraction
  let m := (whole ++ frac).foldl (fun acc c => acc * 10 + (c.toNat - 48)) 0
  let e := (digitsValue? 10 (clean exponent)).getD 0
  Decimal.decimalFloat neg m (e - frac.length)

/-- The exponent after an `e` that ends a bare word: an optional `+` token, then digits. -/
def exponentWord (start : Nat) : ReadM String := do
  let _ ← eat .plus
  match ← nextToken with
  | some (sp, .keylike w) =>
    match integerPart w sp.start false true 10 with
    | .ok (a, b) => if b.isEmpty then pure a else fail .numberInvalid start
    | .error e => throw e
  | _ => fail .numberInvalid start

/-- A float whose integral part is the word `s` at `start`, with the word after a period,
if any, and its offset. -/
def float (s : String) (start : Nat) (after : Option (String × Nat)) : ReadM Float := do
  let (integral, suffix) ← integerPart s start true false 10
  let (fraction, suffix, suffixAt) ← match after with
    | some (w, at₁) =>
      if !suffix.isEmpty then fail .numberInvalid start
      else do
        let (a, b) ← integerPart w at₁ false true 10
        pure (a, b, at₁ + a.utf8ByteSize)
    | none => pure ("", suffix, start + integral.utf8ByteSize)
  let exponent ← match suffix.toList with
    | [] => pure ""
    | [c] => if c == 'e' || c == 'E' then exponentWord start else fail .numberInvalid start
    | c :: more =>
      if c == 'e' || c == 'E' then do
        let (a, b) ← integerPart (String.ofList more) (suffixAt + 1) true true 10
        if b.isEmpty then pure a else fail .numberInvalid start
      else fail .numberInvalid start
  let x := floatOfParts integral.toList fraction.toList exponent.toList
  if x.isNaN || x.isInf then fail .numberInvalid start else pure x

/-- A number, the bare word `s` of span `sp` being its start. -/
def number (sp : Span) (s : String) : ReadM (Nat × Item) := do
  let toInt (r : Except Error Int) : ReadM (Nat × Item) :=
    match r with
    | .ok n => pure (sp.start, .int n)
    | .error e => throw e
  if s.startsWith "0x" then toInt (integer (String.ofList (s.toList.drop 2)) (sp.start + 2) 16)
  else if s.startsWith "0o" then toInt (integer (String.ofList (s.toList.drop 2)) (sp.start + 2) 8)
  else if s.startsWith "0b" then toInt (integer (String.ofList (s.toList.drop 2)) (sp.start + 2) 2)
  else if s.contains 'e' || s.contains 'E' then do pure (sp.start, .float (← float s sp.start none))
  else if ← eat .period then do
    let at₁ ← current
    match ← nextToken with
    | some (sp', .keylike after) => pure (sp.start, .float (← float s sp.start (some (after, sp'.start))))
    | _ => fail .numberInvalid at₁
  else if s == "inf" then pure (sp.start, .float (1.0 / 0.0))
  else if s == "-inf" then pure (sp.start, .float (-(1.0 / 0.0)))
  else if s == "nan" then pure (sp.start, .float (0.0 / 0.0))
  else if s == "-nan" then pure (sp.start, .float (-(0.0 / 0.0)))
  else toInt (integer s sp.start 10)

/-- A number after a leading `+` at `sp`; its faults are placed in the word after the sign. -/
def numberAfterPlus (sp : Span) : ReadM (Nat × Item) := do
  let at₁ ← current
  match ← nextToken with
  | some (sp', .keylike s) => do
    let (_, item) ← number sp' s
    pure (sp.start, item)
  | _ => fail .numberInvalid at₁

/-- The next token if it is a bare word, consumed, or a date fault at `start`. -/
def dateWord (start : Nat) : ReadM Unit := do
  match ← nextToken with
  | some (_, .keylike _) => pure ()
  | _ => fail .dateInvalid start

/-- Whether `sub` occurs in `s`. -/
def hasInfix (s sub : String) : Bool := (s.splitOn sub).length > 1

/-- A bare word that starts a datetime rather than a number: it has a `T`, or a dash after
its first character that is not an exponent's sign. -/
def looksLikeDate (s : String) : Bool :=
  s.contains 'T' || s.contains 't' ||
    (s.length > 1 && (String.ofList (s.toList.drop 1)).contains '-' && !hasInfix s "e-" &&
      !hasInfix s "E-")

/-- A datetime whose first word, at `start`, has been read from the characters `origin`;
`colonEaten` is whether the colon after it has been read too.  A single blank and a word
after a date are its time.  The result is the datetime's text: the characters of `origin`
up to the cursor. -/
def datetime (start : Nat) (origin : List Located) (colonEaten : Bool) : ReadM String := do
  match (← get).next with
  | .ok (some (_, .whitespace " ", c')) =>
    match c'.next with
    | .ok (some (_, .keylike _, c'')) => set c''
    | _ => pure ()
  | _ => pure ()
  let timed ← if colonEaten then pure true else eat .colon
  if timed then
    dateWord start
    expect .colon
    dateWord start
    if ← eat .period then dateWord start
    if ← eat .plus then dateWord start
    if ← eat .colon then dateWord start
  let stop ← current
  pure (String.ofList ((origin.takeWhile fun (i, _) => i < stop).map (·.2)))

/-- A number or a datetime starting with the bare word `s` of span `sp`, read from the
characters `origin`. -/
def numberOrDate (sp : Span) (s : String) (origin : List Located) : ReadM (Nat × Item) := do
  if looksLikeDate s then pure (sp.start, .datetime (← datetime sp.start origin false))
  else if ← eat .colon then pure (sp.start, .datetime (← datetime sp.start origin true))
  else number sp s

/-- Skips the blanks, line feeds and comments between array items, with at most `fuel`
lines. -/
def betweenItems : Nat → ReadM Unit
  | 0 => pure ()
  | n + 1 => do
    eatWhitespace
    let more ← if ← eat .newline then pure true else eatComment
    if more then betweenItems n else pure ()

/-- Skips the blanks, line feeds and comments between array items. -/
def between : ReadM Unit := do betweenItems ((← get).stop + 1)

mutual

/-- A value, with at most `fuel` nested steps. -/
def value : Nat → ReadM (Nat × Item)
  | 0 => do fail .unexpectedEof (← get).stop
  | fuel + 1 => do
    let at₀ ← current
    let origin := (← get).rest
    match ← nextToken with
    | some (sp, .str v _) => pure (sp.start, .str v)
    | some (sp, .keylike "true") => pure (sp.start, .bool true)
    | some (sp, .keylike "false") => pure (sp.start, .bool false)
    | some (sp, .keylike k) =>
      if k == "inf" || k == "nan" then numberOrDate sp k origin
      else match k.toList with
        | c :: _ => if c == '-' || c.isDigit then numberOrDate sp k origin else fail .unquotedString at₀
        | [] => fail .unquotedString at₀
    | some (sp, .plus) => numberAfterPlus sp
    | some (sp, .leftBrace) => do
      eatWhitespace
      if (← eatSpanned .rightBrace).isSome then pure (sp.start, .inline [])
      else pure (sp.start, .inline (← inlinePairs fuel []))
    | some (sp, .leftBracket) => pure (sp.start, .array (← arrayItems fuel []))
    | some (_, t) => fail (.wanted "a value" t.describe) at₀
    | none => do fail .unexpectedEof (← get).stop

/-- The pairs of an inline table after its opening brace and `acc`, up to its closing
brace. -/
def inlinePairs : Nat → List Pair → ReadM (List Pair)
  | 0, _ => do fail .unexpectedEof (← get).stop
  | fuel + 1, acc => do
    let key ← dottedKey
    eatWhitespace
    expect .equals
    eatWhitespace
    let v ← value fuel
    let acc ← match addDotted v key acc with
      | .ok a => pure a
      | .error e => throw e
    eatWhitespace
    if (← eatSpanned .rightBrace).isSome then pure acc
    else
      expect .comma
      eatWhitespace
      inlinePairs fuel acc

/-- The items of an array after its opening bracket and `acc`, up to its closing
bracket. -/
def arrayItems : Nat → List (Nat × Item) → ReadM (List (Nat × Item))
  | 0, _ => do fail .unexpectedEof (← get).stop
  | fuel + 1, acc => do
    between
    if (← eatSpanned .rightBracket).isSome then return acc.reverse
    let v ← value fuel
    between
    if ← eat .comma then arrayItems fuel (v :: acc)
    else
      between
      let _ ← expectSpanned .rightBracket
      pure (v :: acc).reverse

end

/-- A line of a document: a table header, with the cursor right after its opening
brackets, or a key-value line. -/
inductive Line where
  | header (offset : Nat) (after : Cursor) (array : Bool)
  | keyValue (key : List String) (v : Nat × Item)

/-- Skips blank and comment lines, with at most `fuel` of them. -/
def skipBlankLines : Nat → ReadM Unit
  | 0 => pure ()
  | fuel + 1 => do
    eatWhitespace
    let more ← if ← eatComment then pure true else eat .newline
    if more then skipBlankLines fuel else pure ()

/-- The next line of a document, if any. -/
def line : ReadM (Option Line) := do
  skipBlankLines ((← get).stop + 1)
  match ← peekToken with
  | some (_, .leftBracket) => do
    let start ← current
    expect .leftBracket
    let array ← eat .leftBracket
    let after ← get
    skipToNewline
    pure (some (.header start after array))
  | some _ => do
    let key ← dottedKey
    eatWhitespace
    expect .equals
    eatWhitespace
    let v ← value ((← get).stop + 1)
    eatWhitespace
    if !(← eatComment) then eatNewlineOrEof
    pure (some (.keyValue key v))
  | none => pure none

/-- The keys of a table header after its opening brackets, up to its closing ones and the
end of its line. -/
def headerKeys (array : Bool) : ReadM (List String) := do
  let rec more : Nat → List String → ReadM (List String)
    | 0, acc => pure acc.reverse
    | n + 1, acc => do
      eatWhitespace
      if ← eat .period then
        eatWhitespace
        more n ((← tableKey) :: acc)
      else
        expect .rightBracket
        if array then expect .rightBracket
        eatWhitespace
        if !(← eatComment) then eatNewlineOrEof
        pure acc.reverse
  eatWhitespace
  let first ← tableKey
  more ((← get).stop + 1) [first]

/-- A section is kept once it has a header or a key-value line. -/
def Section.kept (s : Section) : Bool := !s.header.isEmpty || s.values.isSome

/-- The sections of the lines from the cursor on, after `done` and the open section `cur`,
with at most `fuel` lines. -/
def sectionsFrom : Nat → List Section → Section → ReadM (List Section)
  | 0, done, cur => pure (if cur.kept then done ++ [cur] else done)
  | fuel + 1, done, cur => do
    match ← line with
    | none => pure (if cur.kept then done ++ [cur] else done)
    | some (.header offset after array) =>
      let done := if cur.kept then done ++ [cur] else done
      let saved ← get
      set after
      let keys ← headerKeys array
      set saved
      sectionsFrom fuel done ⟨offset, keys, some [], array⟩
    | some (.keyValue key v) =>
      match addDotted v key (cur.values.getD []) with
      | .ok vs => sectionsFrom fuel done { cur with values := some vs }
      | .error e => throw e

/-- The sections of a document. -/
def sections (text : String) : Except Error (List Section) :=
  let c := Cursor.ofText text
  (sectionsFrom (c.stop + 1) [] ⟨0, [], none, false⟩).run' c

end LowRankTuner.Toml
