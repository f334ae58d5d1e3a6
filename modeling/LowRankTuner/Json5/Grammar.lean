/-
  LowRankTuner/Json5/Grammar.lean
  ===============================
  Reading JSON5 text into parse trees, by a parsing expression grammar that reports its
  failures the way such grammars do.

  JSON5 extends JSON: keys may be identifiers, strings may be single-quoted and continue
  over escaped line breaks, numbers may be hexadecimal, start or end with a point, carry
  a plus sign, or be `Infinity` or `NaN`, arrays and objects may have a trailing comma,
  and `//` and `/* */` comments may stand wherever blanks may.

  The grammar's alternatives are tried in order, each one given up where it stops
  matching.  Some of its rules are named: `null`, `boolean`, `string`, `number`, `object`,
  `array`, `identifier`, the pieces of strings and the end of the input.  When the text
  does not match, the fault is placed at the furthest position where a named rule was
  tried and failed, and lists the names tried there, sorted and without repeats; a rule
  that failed where the one inner rule it tried failed leaves that inner rule's name
  standing instead of its own.  The fault is shown as the line and column of that place,
  the line's text with a caret under the place, and the list.
-/
import LowRankTuner.Text.Alphanumeric
import LowRankTuner.Text.Printable
import LowRankTuner.Text.Quote

namespace LowRankTuner.Json5

/-- The named rules of the grammar, in the order their names sort. -/
inductive Rule where
  | eoi
  | array
  | boolean
  | charEscapeSequence
  | charLiteral
  | hexEscapeSequence
  | identifier
  | nulEscapeSequence
  | null
  | number
  | object
  | string
  | unicodeEscapeSequence
  deriving BEq, Inhabited

/-- A rule's place in the order of names. -/
def Rule.rank : Rule → Nat
  | .eoi => 0
  | .array => 1
  | .boolean => 2
  | .charEscapeSequence => 3
  | .charLiteral => 4
  | .hexEscapeSequence => 5
  | .identifier => 6
  | .nulEscapeSequence => 7
  | .null => 8
  | .number => 9
  | .object => 10
  | .string => 11
  | .unicodeEscapeSequence => 12

/-- A rule's name as a fault lists it. -/
def Rule.name : Rule → String
  | .eoi => "EOI"
  | .array => "array"
  | .boolean => "boolean"
  | .charEscapeSequence => "char_escape_sequence"
  | .charLiteral => "char_literal"
  | .hexEscapeSequence => "hex_escape_sequence"
  | .identifier => "identifier"
  | .nulEscapeSequence => "nul_escape_sequence"
  | .null => "null"
  | .number => "number"
  | .object => "object"
  | .string => "string"
  | .unicodeEscapeSequence => "unicode_escape_sequence"

/-- A piece of a string or identifier: a plain character, the character after a
backslash, `\0`, or the hex digits of `\x` or `\u`. -/
inductive Piece where
  | plain (c : Char)
  | escaped (c : Char)
  | nul
  | hex (digits : String)
  | unicode (digits : String)

/-- The parse tree of a JSON5 value; a number keeps its text. -/
inductive Tree where
  | null
  | boolean (b : Bool)
  | string (pieces : List Piece)
  | number (lexeme : String)
  | array (items : List Tree)
  | object (pairs : List (List Piece × Tree))

/-- How a rule treats blanks: between its parts, not at all, or not at all while still
reporting the rules inside it. -/
inductive Atomicity where
  | nonAtomic
  | atomic
  | compoundAtomic
  deriving BEq

/-- The state of a parse: the text, the position, the furthest position where a named rule
failed with the names that failed there, in the order they failed, and how blanks are
treated. -/
structure PegState where
  input : Array Char
  pos : Nat := 0
  attemptPos : Nat := 0
  positives : List Rule := []
  atomicity : Atomicity := .nonAtomic

/-- A parse step, which may fail; a failure keeps the state it reached. -/
abbrev P := OptionT (StateM PegState)

namespace PegState

/-- The number of names noted at a position. -/
def attemptsAt (s : PegState) (pos : Nat) : Nat :=
  if s.attemptPos == pos then s.positives.length else 0

/-- A failure of rule `r` tried at `pos` noted: a rule whose inner rules added exactly one
name leaves it standing; else the names its inner rules added at the same place give way
to its own, and a place further on than any before starts the list again. -/
def track (r : Rule) (pos posIdx prev : Nat) (s : PegState) : PegState :=
  if s.atomicity == .atomic then s
  else
    let curr := s.attemptsAt pos
    if curr > prev && curr - prev == 1 then s
    else
      let s := if pos == s.attemptPos then { s with positives := s.positives.take posIdx } else s
      let s := if pos > s.attemptPos then { s with positives := [], attemptPos := pos } else s
      if pos == s.attemptPos then { s with positives := s.positives ++ [r] } else s

end PegState

/-- The current character, failing at the end. -/
def peekChar : P Char := do
  let s ← get
  match s.input[s.pos]? with
  | some c => pure c
  | none => failure

/-- A character that passes a test, read. -/
def charIf (p : Char → Bool) : P Char := do
  let c ← peekChar
  if p c then
    modify fun s => { s with pos := s.pos + 1 }
    pure c
  else failure

/-- Any character, read. -/
def anyChar : P Char := charIf fun _ => true

/-- Whether `w` stands at a position, up to ASCII case when `caseless`. -/
def matchesAt (input : Array Char) (pos : Nat) (caseless : Bool) (w : List Char) : Bool :=
  (List.range w.length).all fun i =>
    match input[pos + i]?, w[i]? with
    | some c, some d => if caseless then c.toLower == d.toLower else c == d
    | _, _ => false

/-- A word, read. -/
def lit (w : String) : P Unit := do
  let s ← get
  if matchesAt s.input s.pos false w.toList then set { s with pos := s.pos + w.length }
  else failure

/-- A word in any ASCII case, read. -/
def litCaseless (w : String) : P Unit := do
  let s ← get
  if matchesAt s.input s.pos true w.toList then set { s with pos := s.pos + w.length }
  else failure

/-- A step that goes back to its start when it fails. -/
def attempt {α : Type} (x : P α) : P α := OptionT.mk do
  let start := (← get).pos
  match ← x.run with
  | some a => pure (some a)
  | none =>
    modify fun s => { s with pos := start }
    pure none

/-- Whether a step matches here (when `positive`) or does not, reading nothing. -/
def lookahead {α : Type} (positive : Bool) (x : P α) : P Unit := OptionT.mk do
  let start := (← get).pos
  let r ← x.run
  modify fun s => { s with pos := start }
  pure (if r.isSome == positive then some () else none)

/-- A step that may not match. -/
def optional {α : Type} (x : P α) : P (Option α) := OptionT.mk do
  match ← (attempt x).run with
  | some a => pure (some (some a))
  | none => pure (some none)

/-- A step repeated while it matches, at most `n` times. -/
def many {α : Type} (x : P α) : Nat → P (List α)
  | 0 => pure []
  | n + 1 => OptionT.mk do
    match ← (attempt x).run with
    | some a =>
      match ← (many x n).run with
      | some more => pure (some (a :: more))
      | none => pure (some [a])
    | none => pure (some [])

/-- The number of characters left, a bound on repetitions. -/
def budget : P Nat := do
  let s ← get
  return s.input.size - s.pos + 1

/-- A step repeated while it matches. -/
def manyAll {α : Type} (x : P α) : P (List α) := do many x (← budget)

/-- A step repeated while it matches, at least once. -/
def many1 {α : Type} (x : P α) : P (List α) := do
  let a ← x
  let more ← manyAll x
  return a :: more

/-- A step run with a treatment of blanks, the old one restored after. -/
def withAtomicity {α : Type} (a : Atomicity) (x : P α) : P α := OptionT.mk do
  let old := (← get).atomicity
  modify fun s => { s with atomicity := a }
  let r ← x.run
  modify fun s => { s with atomicity := old }
  pure r

/-- A named rule: a failure is noted at the position where it was tried. -/
def rule {α : Type} (r : Rule) (x : P α) : P α := OptionT.mk do
  let s ← get
  let actual := s.pos
  let posIdx := if actual == s.attemptPos then s.positives.length else 0
  let prev := s.attemptsAt actual
  match ← x.run with
  | some a => pure (some a)
  | none =>
    modify (PegState.track r actual posIdx prev)
    pure none

/-- A character that ends a line. -/
def isLineTerminator (c : Char) : Bool :=
  c == '\n' || c == '\r' || c.toNat == 0x2028 || c.toNat == 0x2029

/-- A space separator character. -/
def isSpaceSeparator (c : Char) : Bool :=
  let n := c.toNat
  n == 0x20 || n == 0xA0 || n == 0x1680 || (0x2000 ≤ n && n ≤ 0x200A) || n == 0x202F ||
    n == 0x205F || n == 0x3000

/-- A blank: tab, vertical tab, form feed, a space separator, the byte order mark or a line
terminator. -/
def isBlank (c : Char) : Bool :=
  c == '\t' || c.toNat == 0x0B || c.toNat == 0x0C || c.toNat == 0xFEFF || isSpaceSeparator c ||
    isLineTerminator c

/-- The position after a comment starting at `pos`, if one does. -/
def commentEnd (input : Array Char) (pos : Nat) : Option Nat :=
  if matchesAt input pos false "/*".toList then
    let rec close : Nat → Nat → Option Nat
      | 0, _ => none
      | n + 1, i =>
        if matchesAt input i false "*/".toList then some (i + 2)
        else if i < input.size then close n (i + 1) else none
    close (input.size + 1) (pos + 2)
  else if matchesAt input pos false "//".toList then
    let rec line : Nat → Nat → Nat
      | 0, i => i
      | n + 1, i =>
        match input[i]? with
        | some c => if isLineTerminator c then i else line n (i + 1)
        | none => i
    some (line (input.size + 1) (pos + 2))
  else none

/-- The position after the blanks and comments starting at `pos`. -/
def blanksEnd (input : Array Char) : Nat → Nat → Nat
  | 0, pos => pos
  | n + 1, pos =>
    match input[pos]? with
    | some c =>
      if isBlank c then blanksEnd input n (pos + 1)
      else match commentEnd input pos with
        | some e => blanksEnd input n e
        | none => pos
    | none => pos

/-- Blanks and comments passed over, between the parts of a rule that allows them. -/
def ws : P Unit := modify fun s =>
  if s.atomicity == .nonAtomic then { s with pos := blanksEnd s.input (s.input.size + 1) s.pos }
  else s

/-- A line terminator. -/
def lineTerminator : P Unit := do let _ ← charIf isLineTerminator

/-- A line break: a return and line feed, or a line terminator. -/
def lineTerminatorSequence : P Unit := attempt (do lit "\r"; lit "\n") <|> lineTerminator

/-- A backslash before a line break, which a string leaves out. -/
def lineContinuation : P Unit := attempt (do lit "\\"; lineTerminatorSequence)

/-- A character with an escape of its own. -/
def isSingleEscape (c : Char) : Bool :=
  c == Text.apostrophe || c == '"' || c == '\\' || "bfnrtv".contains c

/-- A character that may follow a backslash only as part of a longer escape: one with an
escape of its own, a digit, `x` or `u`. -/
def escapeChar : P Unit := do let _ ← charIf fun c => isSingleEscape c || c.isDigit || c == 'x' || c == 'u'

/-- An escaped character. -/
def charEscapeSequence : P Piece :=
  rule .charEscapeSequence <| withAtomicity .atomic do
    let c ← charIf isSingleEscape <|> attempt (do lookahead false (escapeChar <|> lineTerminator); anyChar)
    pure (.escaped c)

/-- The escape `\0`. -/
def nulEscapeSequence : P Piece :=
  rule .nulEscapeSequence <| withAtomicity .atomic do
    lit "0"
    pure .nul

/-- A hexadecimal digit. -/
def hexDigit : P Char := charIf fun c => c.isDigit || ('a' ≤ c && c ≤ 'f') || ('A' ≤ c && c ≤ 'F')

/-- The two digits of `\x`. -/
def hexEscapeSequence : P Piece :=
  rule .hexEscapeSequence <| withAtomicity .atomic <| attempt do
    let a ← hexDigit
    let b ← hexDigit
    pure (.hex (String.ofList [a, b]))

/-- The four digits of `\u`. -/
def unicodeEscapeSequence : P Piece :=
  rule .unicodeEscapeSequence <| withAtomicity .atomic <| attempt do
    let a ← hexDigit
    let b ← hexDigit
    let c ← hexDigit
    let d ← hexDigit
    pure (.unicode (String.ofList [a, b, c, d]))

/-- What follows a backslash in a string. -/
def escapeSequence : P Piece :=
  charEscapeSequence <|> nulEscapeSequence <|> attempt (do lit "x"; hexEscapeSequence) <|>
    attempt (do lit "u"; unicodeEscapeSequence)

/-- A plain character of a string: anything but a backslash or a line terminator. -/
def charLiteral : P Piece :=
  rule .charLiteral <| withAtomicity .atomic <| attempt do
    lookahead false (lit "\\" <|> lineTerminator)
    pure (.plain (← anyChar))

/-- A character of a string quoted with `quote`: an escape, a line continuation, or a plain
character other than the quote. -/
def quotedChar (quote : Char) : P (Option Piece) :=
  attempt (do lit "\\"; some <$> escapeSequence) <|> (do lineContinuation; pure none) <|>
    attempt (do lookahead false (charIf (· == quote)); some <$> charLiteral)

/-- A string in double or single quotes. -/
def string : P (List Piece) :=
  rule .string <| withAtomicity .compoundAtomic <|
    attempt (do
      lit "\""
      let ps ← manyAll (quotedChar '"')
      lit "\""
      pure (ps.filterMap id)) <|>
    attempt (do
      let _ ← charIf (· == Text.apostrophe)
      let ps ← manyAll (quotedChar Text.apostrophe)
      let _ ← charIf (· == Text.apostrophe)
      pure (ps.filterMap id))

/-- A letter of any script, or a letter number. -/
def isUnicodeLetter (c : Char) : Bool :=
  c.isAlpha || (c.toNat ≥ 0x80 && Text.isAlphabetic c && !Text.isGraphemeExtend c)

/-- A character that may continue an identifier though it cannot start one: a combining
mark, a decimal digit, a connector or a zero-width joiner. -/
def isIdentifierMark (c : Char) : Bool :=
  c.isDigit || c.toNat == 0x200C || c.toNat == 0x200D ||
    [0x203F, 0x2040, 0x2054, 0xFE33, 0xFE34, 0xFE4D, 0xFE4E, 0xFE4F, 0xFF3F].contains c.toNat ||
    (c.toNat ≥ 0x80 && (Text.isGraphemeExtend c || (Text.isNumeric c && !Text.isAlphabetic c)))

/-- The first character of an identifier: a letter, `$` or `_`, or a `\u` escape. -/
def identifierStart : P Piece :=
  attempt (do lookahead true (charIf fun c => isUnicodeLetter c || c == '$' || c == '_'); charLiteral) <|>
    attempt (do lit "\\u"; unicodeEscapeSequence)

/-- A later character of an identifier. -/
def identifierPart : P Piece :=
  identifierStart <|> attempt (do lookahead true (charIf isIdentifierMark); charLiteral)

/-- An identifier. -/
def identifier : P (List Piece) :=
  rule .identifier <| withAtomicity .compoundAtomic <| attempt do
    let first ← identifierStart
    let more ← manyAll identifierPart
    pure (first :: more)

/-- Decimal digits, at least one. -/
def digits1 : P Unit := do let _ ← many1 (charIf Char.isDigit)

/-- Decimal digits, perhaps none. -/
def digits : P Unit := do let _ ← manyAll (charIf Char.isDigit)

/-- A decimal integer without leading zeros. -/
def decimalIntegerLiteral : P Unit :=
  lit "0" <|> attempt (do let _ ← charIf fun c => '1' ≤ c && c ≤ '9'; digits)

/-- An exponent: `e` or `E`, an optional sign and digits. -/
def exponentPart : P Unit := attempt do
  litCaseless "e"
  let _ ← optional (lit "+" <|> lit "-")
  digits1

/-- A decimal numeral: an integer with a point and optional fraction, a point and a
fraction, or an integer, each with an optional exponent. -/
def decimalLiteral : P Unit :=
  attempt (do decimalIntegerLiteral; lit "."; digits; let _ ← optional exponentPart) <|>
    attempt (do lit "."; digits1; let _ ← optional exponentPart) <|>
    attempt (do decimalIntegerLiteral; let _ ← optional exponentPart)

/-- A number, as its text: an optional sign, then a hex integer, a decimal numeral,
`Infinity` or `NaN`. -/
def number : P String :=
  rule .number <| withAtomicity .atomic <| attempt do
    let start := (← get).pos
    let _ ← optional (lit "+" <|> lit "-")
    attempt (do litCaseless "0x"; let _ ← many1 hexDigit) <|> decimalLiteral <|> lit "Infinity" <|>
      lit "NaN"
    let s ← get
    pure (String.ofList ((s.input.extract start s.pos).toList))

/-- `true` or `false`. -/
def boolean : P Bool :=
  rule .boolean <| withAtomicity .atomic <|
    (do lit "true"; pure true) <|> (do lit "false"; pure false)

mutual

/-- A value: `null`, a boolean, a string, a number, an object or an array. -/
def value : Nat → P Tree
  | 0 => failure
  | n + 1 =>
    (rule .null (withAtomicity .atomic (lit "null")) *> pure Tree.null) <|>
      (Tree.boolean <$> boolean) <|> (Tree.string <$> string) <|>
      (Tree.number <$> number) <|> object n <|> array n

/-- An object: pairs in braces, separated by commas, a trailing comma allowed. -/
def object : Nat → P Tree
  | 0 => failure
  | n + 1 =>
    rule .object <|
      attempt (do lit "\x7b"; ws; lit "\x7d"; pure (Tree.object [])) <|>
      attempt (do
        lit "\x7b"
        ws
        let first ← pair n
        let more ← pairsAfter n
        ws
        let _ ← optional (lit ",")
        ws
        lit "\x7d"
        pure (Tree.object (first :: more)))

/-- A pair: an identifier or string, a colon and a value. -/
def pair : Nat → P (List Piece × Tree)
  | 0 => failure
  | n + 1 => attempt do
    let k ← identifier <|> string
    ws
    lit ":"
    ws
    let v ← value n
    pure (k, v)

/-- The pairs after the first, each after a comma. -/
def pairsAfter : Nat → P (List (List Piece × Tree))
  | 0 => pure []
  | n + 1 => OptionT.mk do
    match ← (attempt (do ws; lit ","; ws; pair n)).run with
    | some p =>
      match ← (pairsAfter n).run with
      | some more => pure (some (p :: more))
      | none => pure (some [p])
    | none => pure (some [])

/-- An array: values in brackets, separated by commas, a trailing comma allowed. -/
def array : Nat → P Tree
  | 0 => failure
  | n + 1 =>
    rule .array <|
      attempt (do lit "["; ws; lit "]"; pure (Tree.array [])) <|>
      attempt (do
        lit "["
        ws
        let first ← value n
        let more ← itemsAfter n
        ws
        let _ ← optional (lit ",")
        ws
        lit "]"
        pure (Tree.array (first :: more)))

/-- The items after the first, each after a comma. -/
def itemsAfter : Nat → P (List Tree)
  | 0 => pure []
  | n + 1 => OptionT.mk do
    match ← (attempt (do ws; lit ","; ws; value n)).run with
    | some v =>
      match ← (itemsAfter n).run with
      | some more => pure (some (v :: more))
      | none => pure (some [v])
    | none => pure (some [])

end

/-- A whole text: blanks, one value, blanks and the end. -/
def document : P Tree := do
  ws
  let v ← value (3 * (← get).input.size + 8)
  ws
  rule .eoi do
    let s ← get
    if s.pos < s.input.size then failure
  pure v

/-- The line and column of a position, both counted from one; a return before a line feed
ends the line with it. -/
def lineColumn (input : List Char) : Nat × Nat :=
  let rec go : List Char → Nat × Nat → Nat × Nat
    | [], lc => lc
    | '\r' :: '\n' :: more, (l, _) => go more (l + 1, 1)
    | '\n' :: more, (l, _) => go more (l + 1, 1)
    | _ :: more, (l, c) => go more (l, c + 1)
  go input (1, 1)

/-- The line that holds a position, its line breaks left out, or shown as symbols when the
position is on one. -/
def lineAt (input : Array Char) (pos : Nat) : String :=
  let cs := input.toList
  let before := cs.take pos
  let start := match before.reverse.findIdx? (· == '\n') with
    | some i => pos - i
    | none => 0
  let after := cs.drop pos
  let stop := if input.size > 0 && pos == input.size - 1 then input.size
    else match after.findIdx? (· == '\n') with
      | some i => pos + i + 1
      | none => input.size
  let line := (cs.drop start).take (stop - start)
  let onBreak := match input[pos]? with
    | some c => c == '\n' || c == '\r'
    | none => false
  if onBreak then
    String.join (line.map fun c =>
      if c == '\r' then "␍" else if c == '\n' then "␊" else c.toString)
  else String.ofList (line.filter fun c => c != '\r' && c != '\n')

/-- Names joined as a list in words: `a`, `a or b`, `a, b, or c`. -/
def listInWords : List String → String
  | [] => ""
  | [a] => a
  | [a, b] => a ++ " or " ++ b
  | names => ", ".intercalate (names.dropLast) ++ ", or " ++ names.getLastD ""

/-- The names of rules sorted by their order, each once. -/
def sortedNames (rs : List Rule) : List String :=
  let ranks := (List.range 13).filter fun k => rs.any (·.rank == k)
  ranks.filterMap fun k => (rs.find? (·.rank == k)).map Rule.name

/-- The words of a failed parse: the place, the line with a caret under it, and the rules
expected there. -/
def faultText (s : PegState) : String :=
  let (line, col) := lineColumn (s.input.toList.take s.attemptPos)
  let spacing := String.ofList (List.replicate (toString line).length ' ')
  let text := lineAt s.input s.attemptPos
  let underline := String.ofList ((text.toList.take (col - 1)).map fun c => if c == '\t' then '\t' else ' ') ++
    "^---"
  let message := if s.positives.isEmpty then "unknown parsing error"
    else "expected " ++ listInWords (sortedNames s.positives)
  spacing ++ "--> " ++ toString line ++ ":" ++ toString col ++ "\n" ++
    spacing ++ " |\n" ++
    toString line ++ " | " ++ text ++ "\n" ++
    spacing ++ " | " ++ underline ++ "\n" ++
    spacing ++ " |\n" ++
    spacing ++ " = " ++ message

/-- The parse tree of JSON5 text, or the words of the fault. -/
def parse (text : String) : Except String Tree :=
  match document.run.run { input := text.toList.toArray } with
  | (some v, _) => .ok v
  | (none, s) => .error (faultText s)

end LowRankTuner.Json5
