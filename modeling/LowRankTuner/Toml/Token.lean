/-
  LowRankTuner/Toml/Token.lean
  ============================
  Cutting TOML text into tokens.

  The text is read as characters with their byte offsets.  A carriage return right before
  a line feed reads as a single line feed, and a byte order mark at the very start is
  skipped.  A token is white space, a line feed, a comment, one of the punctuation marks
  `= . , : + { } [ ]`, a run of key characters (ASCII letters, digits, `-` and `_`), or a
  quoted string.  Strings are basic (`"…"`, with escapes) or literal (`'…'`, without), and
  either kind may be tripled to span lines; a line feed right after a tripled opener is not
  part of the string.

  Every failure carries the byte offset it is reported at; `Error.message` turns the
  offset into a line and a column, both counted from one, the column in bytes.
-/
import LowRankTuner.Text.Quote

namespace LowRankTuner.Toml

/-- A character of the text and the byte offset it starts at. -/
abbrev Located := Nat × Char

/-- The located characters of a text from `i` on, each carriage return before a line feed
folded into the line feed. -/
def locateFrom (i : Nat) : List Char → List Located
  | [] => []
  | '\r' :: '\n' :: rest => (i, '\n') :: locateFrom (i + 2) rest
  | c :: rest => (i, c) :: locateFrom (i + c.utf8Size) rest

/-- The located characters of a text, a leading byte order mark skipped. -/
def locate (s : String) : List Located :=
  match locateFrom 0 s.toList with
  | (_, '\uFEFF') :: rest => rest
  | cs => cs

/-- Where reading stands: the characters still to read and the byte length of the text. -/
structure Cursor where
  rest : List Located
  stop : Nat

/-- The cursor at the start of a text. -/
def Cursor.ofText (s : String) : Cursor := ⟨locate s, s.utf8ByteSize⟩

/-- The offset of the next character, or the end of the text. -/
def Cursor.current (c : Cursor) : Nat :=
  match c.rest with
  | (i, _) :: _ => i
  | [] => c.stop

/-- The tokens of TOML text. -/
inductive Token where
  | whitespace (text : String)
  | newline
  | comment
  | equals
  | period
  | comma
  | colon
  | plus
  | leftBrace
  | rightBrace
  | leftBracket
  | rightBracket
  | keylike (text : String)
  | str (value : String) (multiline : Bool)
  deriving DecidableEq

/-- How a message names a token. -/
def Token.describe : Token → String
  | .keylike _ => "an identifier"
  | .equals => "an equals"
  | .period => "a period"
  | .comment => "a comment"
  | .newline => "a newline"
  | .whitespace _ => "whitespace"
  | .comma => "a comma"
  | .rightBrace => "a right brace"
  | .leftBrace => "a left brace"
  | .rightBracket => "a right bracket"
  | .leftBracket => "a left bracket"
  | .str _ multiline => if multiline then "a multiline string" else "a string"
  | .colon => "a colon"
  | .plus => "a plus"

/-- The byte range of a token. -/
structure Span where
  start : Nat
  stop : Nat

/-- Why TOML text does not read. -/
inductive Fault where
  | invalidCharInString (c : Char)
  | invalidEscape (c : Char)
  | invalidHexEscape (c : Char)
  | invalidEscapeValue (v : Nat)
  | newlineInString
  | unexpected (c : Char)
  | unterminatedString
  | newlineInTableKey
  | multilineStringKey
  | wanted (expected found : String)
  | unexpectedEof
  | numberInvalid
  | dateInvalid
  | duplicateTable (name : String)
  | redefineAsArray
  | dottedKeyInvalidType
  | unquotedString
  /-- A fault found while the document's values are put together, in its own words. -/
  | custom (text : String)

/-- The single quote, which opens literal strings. -/
def apostrophe : Char := Char.ofNat 39

/-- A character as a message shows it: printable ASCII as itself except quotes and the
backslash, which are escaped like tab, line feed and carriage return, and every other
character as `\u` with its hexadecimal code point in braces. -/
def showChar (c : Char) : String :=
  match c with
  | '\t' => "\\t"
  | '\r' => "\\r"
  | '\n' => "\\n"
  | '\\' => "\\\\"
  | '"' => "\\\""
  | c =>
    if c == apostrophe then "\\" ++ String.singleton apostrophe
    else if 0x20 ≤ c.toNat && c.toNat ≤ 0x7E then String.singleton c
    else "\\u\x7b" ++ Text.hexText c.toNat ++ "\x7d"

/-- The words of a fault. -/
def Fault.text : Fault → String
  | .unexpectedEof => "unexpected eof encountered"
  | .invalidCharInString c => "invalid character in string: `" ++ showChar c ++ "`"
  | .invalidEscape c => "invalid escape character in string: `" ++ showChar c ++ "`"
  | .invalidHexEscape c => "invalid hex escape character in string: `" ++ showChar c ++ "`"
  | .invalidEscapeValue v => "invalid escape value: `" ++ toString v ++ "`"
  | .newlineInString => "newline in string found"
  | .unexpected c => "unexpected character found: `" ++ showChar c ++ "`"
  | .unterminatedString => "unterminated string"
  | .newlineInTableKey => "found newline in table key"
  | .wanted e f => "expected " ++ e ++ ", found " ++ f
  | .numberInvalid => "invalid number"
  | .dateInvalid => "invalid date"
  | .duplicateTable name => "redefinition of table `" ++ name ++ "`"
  | .redefineAsArray => "table redefined as array"
  | .multilineStringKey => "multiline strings are not allowed for key"
  | .dottedKeyInvalidType => "dotted key attempted to extend non-table type"
  | .unquotedString => "invalid TOML value, did you mean to use a quoted string?"
  | .custom t => t

/-- A fault, the offset it is reported at, if known, and the keys of the tables it lies
in, outermost first. -/
structure Error where
  fault : Fault
  offset : Option Nat := none
  key : List String := []

/-- A fault at an offset. -/
def Error.placed (fault : Fault) (offset : Nat) : Error := ⟨fault, some offset, []⟩

/-- The error inside one more table, named by its key. -/
def Error.within (e : Error) (k : String) : Error := { e with key := k :: e.key }

/-- The line and column of `offset` among lines from the `i`-th on, which starts at byte
`cur`; past the last of `count` lines it is the start of the line after them. -/
def lineWalk (offset count i cur : Nat) : List String → Nat × Nat
  | [] => (count, 0)
  | l :: more =>
    if cur + l.utf8ByteSize + 1 > offset then (i, offset - cur)
    else lineWalk offset count (i + 1) (cur + l.utf8ByteSize + 1) more

/-- The line and column, both from zero, of a byte offset: lines end at line feeds, the
column counts bytes, and an offset past the last line is the start of the line after it. -/
def lineColumn (text : String) (offset : Nat) : Nat × Nat :=
  let pieces := text.splitOn "\n"
  let lines := if text.endsWith "\n" then pieces.dropLast else pieces
  let lines := if text.isEmpty then [] else lines
  lineWalk offset lines.length 0 0 lines

/-- The text of an error in a document: the fault, the keys it lies under and its line and
column. -/
def Error.message (e : Error) (text : String) : String :=
  let keys := if e.key.isEmpty then "" else " for key `" ++ ".".intercalate e.key ++ "`"
  let place := match e.offset with
    | some o =>
      let (l, c) := lineColumn text o
      " at line " ++ toString (l + 1) ++ " column " ++ toString (c + 1)
    | none => ""
  e.fault.text ++ keys ++ place

/-- A character that may stand in a bare key. -/
def isKeylike (c : Char) : Bool :=
  ('A' ≤ c && c ≤ 'Z') || ('a' ≤ c && c ≤ 'z') || ('0' ≤ c && c ≤ '9') || c == '-' || c == '_'

/-- A character that may stand in a string as itself: tab, or any character from space on
but delete. -/
def isStringChar (c : Char) : Bool :=
  c == '\t' || (0x20 ≤ c.toNat && c.toNat != 0x7F)

/-- A character that may stand in a comment: tab, or any character from space on. -/
def isCommentChar (c : Char) : Bool := c == '\t' || 0x20 ≤ c.toNat

/-- The offset of the first of some characters, or the end of the text. -/
def offsetOf (stop : Nat) : List Located → Nat
  | (i, _) :: _ => i
  | [] => stop

/-- The value of an ASCII hexadecimal digit. -/
def hexValue? (c : Char) : Option Nat :=
  if '0' ≤ c && c ≤ '9' then some (c.toNat - 48)
  else if 'a' ≤ c && c ≤ 'f' then some (c.toNat - 87)
  else if 'A' ≤ c && c ≤ 'F' then some (c.toNat - 55)
  else none

/-- The character of `n` hexadecimal digits after a `\u` or `\U` escape at `pos`, in a
string opened at `start`. -/
def hexEscape (start pos : Nat) : Nat → Nat → List Located → Except Error (Char × List Located)
  | 0, acc, cs =>
    if acc < 0x110000 && !(0xD800 ≤ acc && acc < 0xE000) then .ok (Char.ofNat acc, cs)
    else .error (.placed (.invalidEscapeValue acc) pos)
  | _ + 1, _, [] => .error (.placed .unterminatedString start)
  | n + 1, acc, (i, c) :: rest =>
    match hexValue? c with
    | some v => hexEscape start pos n (acc * 16 + v) rest
    | none => .error (.placed (.invalidHexEscape c) i)

/-- The characters after the line feed that ends the line of a backslash followed by a
blank `c` at `i`; anything but blanks before the line feed is a bad escape. -/
def toLineEnd (i : Nat) (c : Char) : List Located → Except Error (List Located)
  | [] => .ok []
  | (_, ' ') :: rest | (_, '\t') :: rest => toLineEnd i c rest
  | (_, '\n') :: rest => .ok rest
  | _ :: _ => .error (.placed (.invalidEscape c) i)

/-- Skips the blanks and line feeds after a backslash that ends a line in a tripled basic
string; the backslash was followed by the character `c` at `i`. -/
def lineEndEscape (i : Nat) (c : Char) (cs : List Located) : Except Error (List Located) := do
  let cs ← if c == '\n' then pure cs else toLineEnd i c cs
  pure (cs.dropWhile fun (_, d) => d == ' ' || d == '\t' || d == '\n')

/-- How a string's body is read: its quote, whether escapes count, whether it is tripled,
and the offset of its opening quote. -/
structure StringForm where
  delim : Char
  basic : Bool
  multiline : Bool
  start : Nat

/-- The escape after a backslash in a basic string: the character it stands for, if any,
and the characters after it. -/
def escape (f : StringForm) : List Located → Except Error (Option Char × List Located)
  | [] => .error (.placed .unterminatedString f.start)
  | (i, c) :: rest =>
    match c with
    | '"' => .ok (some '"', rest)
    | '\\' => .ok (some '\\', rest)
    | 'b' => .ok (some (Char.ofNat 8), rest)
    | 'f' => .ok (some (Char.ofNat 12), rest)
    | 'n' => .ok (some '\n', rest)
    | 'r' => .ok (some '\r', rest)
    | 't' => .ok (some '\t', rest)
    | 'u' => do let (ch, r) ← hexEscape f.start i 4 0 rest; pure (some ch, r)
    | 'U' => do let (ch, r) ← hexEscape f.start i 8 0 rest; pure (some ch, r)
    | c =>
      if f.multiline && (c == ' ' || c == '\t' || c == '\n') then
        do pure (none, ← lineEndEscape i c rest)
      else .error (.placed (.invalidEscape c) i)

/-- The body of a string up to its closing quote, with at most `fuel` steps; `first` is
whether nothing of the body has been read yet.  The result is the string's value, reversed
in `acc` while reading, and the characters after the closing quote. -/
def stringBody (f : StringForm) : Nat → Bool → List Char → List Located →
    Except Error (String × List Located)
  | 0, _, _, _ => .error (.placed .unterminatedString f.start)
  | _ + 1, _, _, [] => .error (.placed .unterminatedString f.start)
  | fuel + 1, first, acc, (i, c) :: rest =>
    if c == '\n' then
      if !f.multiline then .error (.placed .newlineInString i)
      else stringBody f fuel false (if first then acc else '\n' :: acc) rest
    else if c == f.delim then
      if !f.multiline then .ok (String.ofList acc.reverse, rest)
      else
        match rest with
        | (_, d1) :: rest1 =>
          if d1 != f.delim then stringBody f fuel false (f.delim :: acc) rest
          else
            match rest1 with
            | (_, d2) :: rest2 =>
              if d2 != f.delim then stringBody f fuel false (f.delim :: f.delim :: acc) rest1
              else
                -- three quotes close the string; up to two more belong to it
                let (acc, rest2) := match rest2 with
                  | (_, d3) :: r3 => if d3 == f.delim then (f.delim :: acc, r3) else (acc, rest2)
                  | [] => (acc, rest2)
                let (acc, rest2) := match rest2 with
                  | (_, d4) :: r4 => if d4 == f.delim then (f.delim :: acc, r4) else (acc, rest2)
                  | [] => (acc, rest2)
                .ok (String.ofList acc.reverse, rest2)
            | [] => stringBody f fuel false (f.delim :: f.delim :: acc) rest1
        | [] => stringBody f fuel false (f.delim :: acc) rest
    else if f.basic && c == '\\' then do
      let (ch, r) ← escape f rest
      stringBody f fuel false (match ch with | some ch => ch :: acc | none => acc) r
    else if isStringChar c then stringBody f fuel false (c :: acc) rest
    else .error (.placed (.invalidCharInString c) i)

/-- A string token whose opening quote, at `start`, has been read. -/
def stringToken (delim : Char) (basic : Bool) (start : Nat) (cs : List Located) :
    Except Error (Token × List Located) :=
  match cs with
  | (_, d) :: rest =>
    if d == delim then
      match rest with
      | (_, d2) :: rest2 =>
        if d2 == delim then do
          let (v, r) ← stringBody ⟨delim, basic, true, start⟩ (rest2.length + 1) true [] rest2
          pure (.str v true, r)
        else .ok (.str "" false, rest)
      | [] => .ok (.str "" false, rest)
    else do
      let (v, r) ← stringBody ⟨delim, basic, false, start⟩ (cs.length + 1) true [] cs
      pure (.str v false, r)
  | [] => .error (.placed .unterminatedString start)

/-- The next token and its span, or nothing at the end of the text. -/
def Cursor.next (c : Cursor) : Except Error (Option (Span × Token × Cursor)) :=
  match c.rest with
  | [] => .ok none
  | (start, ch) :: rest =>
    let single (t : Token) : Except Error (Option (Span × Token × Cursor)) :=
      .ok (some (⟨start, offsetOf c.stop rest⟩, t, { c with rest }))
    let after (t : Token) (r : List Located) : Except Error (Option (Span × Token × Cursor)) :=
      .ok (some (⟨start, offsetOf c.stop r⟩, t, { c with rest := r }))
    match ch with
    | '\n' => single .newline
    | ' ' | '\t' =>
      let (blank, r) := rest.span fun (_, d) => d == ' ' || d == '\t'
      after (.whitespace (String.ofList (ch :: blank.map (·.2)))) r
    | '#' => after .comment (rest.dropWhile fun (_, d) => isCommentChar d)
    | '=' => single .equals
    | '.' => single .period
    | ',' => single .comma
    | ':' => single .colon
    | '+' => single .plus
    | '{' => single .leftBrace
    | '}' => single .rightBrace
    | '[' => single .leftBracket
    | ']' => single .rightBracket
    | '"' => do let (t, r) ← stringToken '"' true start rest; after t r
    | ch =>
      if ch == apostrophe then do let (t, r) ← stringToken apostrophe false start rest; after t r
      else if isKeylike ch then
        let (word, r) := rest.span fun (_, d) => isKeylike d
        after (.keylike (String.ofList (ch :: word.map (·.2)))) r
      else .error (.placed (.unexpected ch) start)

end LowRankTuner.Toml
