/-
  LowRankTuner/Yaml/Token.lean
  ============================
  Reading YAML text into tokens.

  A scanner walks the text once and hands out tokens: the stream's start and end, document
  markers, directives, the starts and ends of block and flow collections, entry, key and
  value indicators, anchors, aliases, tags and scalars in their five styles.  Block
  structure comes from indentation: a key or an entry further right than the current
  indentation opens a block collection, and a token further left closes those it leaves.
  A scalar or a collection start may turn out to be a key only when a `:` follows it on its
  line, so the token that could start such a simple key is held back until that is known,
  and the key token, with the start of a block mapping when one opens, is then put in front
  of it.

  `scan` gives the tokens in the order they are handed out, and the fault that stopped the
  scanner, if one did: a reader that asks for a token past the last one meets that fault.
  Every fault is a place and a message; the place is the start of the construct that
  failed or the scanner's position, as each rule says.  Lines are counted from one and
  columns from zero.  The text ends at its first NUL character.
-/
import LowRankTuner.Text.Quote

namespace LowRankTuner.Yaml

/-- A place in YAML text: the characters before it, its line counted from one, and its
column counted from zero. -/
structure Mark where
  index : Nat
  line : Nat
  column : Nat
  deriving Inhabited

/-- A fault of YAML text: where it was found and what is wrong. -/
structure Error where
  mark : Mark
  info : String
  deriving Inhabited

/-- The words of a fault, with its line and its column counted from one. -/
def Error.text (e : Error) : String :=
  e.info ++ " at line " ++ toString e.mark.line ++ " column " ++ toString (e.mark.column + 1)

/-- How a scalar was written. -/
inductive ScalarStyle where
  | plain
  | singleQuoted
  | doubleQuoted
  | literal
  | folded
  deriving BEq, Inhabited

/-- What a token is. -/
inductive TokenKind where
  | streamStart
  | streamEnd
  | versionDirective (major minor : Nat)
  | tagDirective (handle pfx : String)
  | documentStart
  | documentEnd
  | blockSequenceStart
  | blockMappingStart
  | blockEnd
  | flowSequenceStart
  | flowSequenceEnd
  | flowMappingStart
  | flowMappingEnd
  | blockEntry
  | flowEntry
  | key
  | value
  | alias (name : String)
  | anchor (name : String)
  | tag (handle suffix : String)
  | scalar (style : ScalarStyle) (text : String)
  deriving Inhabited

/-- A token and the place it starts. -/
structure Token where
  mark : Mark
  kind : TokenKind
  deriving Inhabited

/-- A line break character. -/
def isBreak (c : Char) : Bool := c == '\n' || c == '\r'

/-- A line break or the end of the text, which reads as NUL. -/
def isBreakOrEnd (c : Char) : Bool := isBreak c || c == '\x00'

/-- A space or a tab. -/
def isBlank (c : Char) : Bool := c == ' ' || c == '\t'

/-- A blank, a line break or the end of the text. -/
def isBlankOrEnd (c : Char) : Bool := isBlank c || isBreakOrEnd c

/-- A character of anchor names, tag handles and directive names: an ASCII letter or
digit, `_` or `-`. -/
def isWordChar (c : Char) : Bool := c.isAlphanum || c == '_' || c == '-'

/-- The value of a hexadecimal digit. -/
def hexDigit? (c : Char) : Option Nat :=
  if c.isDigit then some (c.toNat - 48)
  else if 'a' ≤ c && c ≤ 'f' then some (c.toNat - 87)
  else if 'A' ≤ c && c ≤ 'F' then some (c.toNat - 55)
  else none

/-- A character that ends a plain scalar inside a flow collection. -/
def isFlowIndicator (c : Char) : Bool := ",[]\x7b\x7d".contains c

/-- A character of a tag's URI. -/
def isUriChar (c : Char) : Bool :=
  isWordChar c || ";/?:@&=+$,.!~*()[]%".contains c || c == Text.apostrophe

/-- A code point that is a character. -/
def isScalarValue (n : Nat) : Bool := n < 0xD800 || (0xE000 ≤ n && n ≤ 0x10FFFF)

/-- A place where a simple key may start: whether one may still start there, whether one
must, the number of the token it would be, and where it is. -/
structure SimpleKey where
  possible : Bool := false
  required : Bool := false
  tokenNumber : Nat := 0
  mark : Mark := ⟨0, 0, 0⟩

/-- Whether a possible simple key can no longer be one at a place: the place is on a later
line or more than 1024 characters on. -/
def SimpleKey.staleAt (m : Mark) (sk : SimpleKey) : Bool :=
  sk.possible && (sk.mark.line < m.line || sk.mark.index + 1024 < m.index)

/-- A simple key given up when it is stale at a place. -/
def SimpleKey.giveUpAt (m : Mark) (sk : SimpleKey) : SimpleKey :=
  if sk.staleAt m then { sk with possible := false } else sk

/-- The scanner's state: the text still to read, the current place, the tokens found and
not yet handed out, and what the block and flow structure so far requires. -/
structure Scanner where
  rest : List Char
  mark : Mark := ⟨0, 1, 0⟩
  queue : List Token := []
  started : Bool := false
  ended : Bool := false
  simpleKeyAllowed : Bool := true
  /-- One entry per flow level, the innermost first. -/
  simpleKeys : List SimpleKey := []
  indent : Int := -1
  indents : List Int := []
  flowLevel : Nat := 0
  tokensParsed : Nat := 0
  tokenAvailable : Bool := false
  /-- One more than the length of the whole text: no loop that reads a character each step
  runs longer. -/
  limit : Nat := 1

/-- A step of the scanner, which may fail. -/
abbrev ScanM := StateT Scanner (Except Error)

namespace Scanner

/-- The character `i` places ahead, NUL past the end. -/
def ahead (i : Nat) : ScanM Char := do return ((← get).rest[i]?).getD '\x00'

/-- The current character, NUL at the end. -/
def current : ScanM Char := ahead 0

/-- The current place. -/
def here : ScanM Mark := do return (← get).mark

/-- A fault at a place. -/
def fail {α : Type} (m : Mark) (info : String) : ScanM α := throw ⟨m, info⟩

/-- A bound on the steps of a loop that reads a character each step. -/
def budget : ScanM Nat := do return (← get).limit

/-- The place after the current character; at the end the column still advances. -/
def skip : ScanM Unit := modify fun s =>
  let m := s.mark
  match s.rest with
  | '\n' :: rest => { s with rest := rest, mark := ⟨m.index + 1, m.line + 1, 0⟩ }
  | _ :: rest => { s with rest := rest, mark := ⟨m.index + 1, m.line, m.column + 1⟩ }
  | [] => { s with mark := ⟨m.index + 1, m.line, m.column + 1⟩ }

/-- The place after a line break, a return and a line feed counting as one. -/
def skipLine : ScanM Unit := do
  let c ← current
  let c1 ← ahead 1
  if c == '\r' && c1 == '\n' then
    skip
    skip
  else if isBreak c then skip

/-- A line break read and added to `acc` as a line feed. -/
def readBreak (acc : String) : ScanM String := do
  let c ← current
  let c1 ← ahead 1
  if c == '\r' && c1 == '\n' then
    skip
    skip
    return acc.push '\n'
  else if isBreak c then
    skip
    return acc.push '\n'
  else return acc

/-- The characters read while they pass a test, added to `acc`. -/
def takeWhileM (p : Char → Bool) : Nat → String → ScanM String
  | 0, acc => pure acc
  | n + 1, acc => do
    let c ← current
    if p c then
      skip
      takeWhileM p n (acc.push c)
    else pure acc

/-- The place after the characters that pass a test. -/
def skipWhileM (p : Char → Bool) : Nat → ScanM Unit
  | 0 => pure ()
  | n + 1 => do
    if p (← current) then
      skip
      skipWhileM p n

/-- A token added at the end of the queue. -/
def push (t : Token) : ScanM Unit := modify fun s => { s with queue := s.queue ++ [t] }

/-- A token put into the queue at a position. -/
def insertAt (pos : Nat) (t : Token) : ScanM Unit :=
  modify fun s => { s with queue := s.queue.take pos ++ t :: s.queue.drop pos }

/-- Simple keys allowed from here on. -/
def allowSimpleKey : ScanM Unit := modify fun s => { s with simpleKeyAllowed := true }

/-- Simple keys not allowed from here on. -/
def disallowSimpleKey : ScanM Unit := modify fun s => { s with simpleKeyAllowed := false }

/-- Possible simple keys on an earlier line, or more than 1024 characters back, are given
up; one that was required is a fault. -/
def staleSimpleKeys : ScanM Unit := do
  let s ← get
  if s.simpleKeys.any (fun sk => sk.staleAt s.mark && sk.required) then
    fail s.mark "simple key expect ':'"
  set { s with simpleKeys := s.simpleKeys.map (SimpleKey.giveUpAt s.mark) }

/-- The innermost possible simple key given up; a required one is a fault. -/
def removeSimpleKey : ScanM Unit := do
  let s ← get
  match s.simpleKeys with
  | top :: more =>
    if top.possible && top.required then fail s.mark "simple key expected"
    set { s with simpleKeys := { top with possible := false } :: more }
  | [] => pure ()

/-- The current place noted as where a simple key may start, when one may. -/
def saveSimpleKey : ScanM Unit := do
  let s ← get
  let required := s.flowLevel > 0 && s.indent == (s.mark.column : Int)
  if s.simpleKeyAllowed then
    let sk : SimpleKey := ⟨true, required, s.tokensParsed + s.queue.length, s.mark⟩
    removeSimpleKey
    modify fun s => { s with simpleKeys := sk :: s.simpleKeys.drop 1 }

/-- One flow level deeper; at most 255 are open at once. -/
def increaseFlowLevel : ScanM Unit := do
  modify fun s => { s with simpleKeys := {} :: s.simpleKeys }
  let s ← get
  if s.flowLevel ≥ 255 then fail s.mark "recursion limit exceeded"
  set { s with flowLevel := s.flowLevel + 1 }

/-- One flow level less, if any is open. -/
def decreaseFlowLevel : ScanM Unit := modify fun s =>
  if s.flowLevel > 0 then { s with flowLevel := s.flowLevel - 1, simpleKeys := s.simpleKeys.drop 1 }
  else s

/-- Outside flow collections, a block collection opened at `col` when it is right of the
current indentation: its start token is added at the end, or at the place of the token
numbered `number`. -/
def rollIndent (col : Nat) (number : Option Nat) (kind : TokenKind) (m : Mark) : ScanM Unit := do
  let s ← get
  if s.flowLevel == 0 && s.indent < (col : Int) then
    set { s with indents := s.indent :: s.indents, indent := col }
    match number with
    | some n => insertAt (n - s.tokensParsed) ⟨m, kind⟩
    | none => push ⟨m, kind⟩

/-- Outside flow collections, the block collections right of `col` closed, a block end
token each. -/
def unrollIndent (col : Int) : Nat → ScanM Unit
  | 0 => pure ()
  | n + 1 => do
    let s ← get
    if s.flowLevel == 0 && s.indent > col then
      set { s with queue := s.queue ++ [Token.mk s.mark .blockEnd], indent := s.indents.headD (-1),
                   indents := s.indents.drop 1 }
      unrollIndent col n

/-- `unrollIndent` with room for every open block collection. -/
def unroll (col : Int) : ScanM Unit := do
  unrollIndent col ((← get).indents.length + 1)

/-- The place after blanks, line breaks and comments before the next token; a tab counts
only inside flow collections or where no simple key may start. -/
def skipToNextToken : Nat → ScanM Unit
  | 0 => pure ()
  | n + 1 => do
    let s ← get
    let c ← current
    if c == ' ' then
      skip
      skipToNextToken n
    else if c == '\t' then
      if s.flowLevel > 0 || !s.simpleKeyAllowed then
        skip
        skipToNextToken n
    else if isBreak c then
      skipLine
      if s.flowLevel == 0 then allowSimpleKey
      skipToNextToken n
    else if c == '#' then
      skipWhileM (fun c => !isBreakOrEnd c) (← budget)
      skipToNextToken n

/-- The stream's start. -/
def fetchStreamStart : ScanM Unit := modify fun s =>
  { s with indent := -1, started := true, simpleKeyAllowed := true,
           queue := s.queue ++ [Token.mk s.mark .streamStart], simpleKeys := s.simpleKeys ++ [{}] }

/-- The stream's end, on a line of its own. -/
def fetchStreamEnd : ScanM Unit := do
  modify fun s =>
    if s.mark.column != 0 then { s with mark := { s.mark with column := 0, line := s.mark.line + 1 } }
    else s
  unroll (-1)
  removeSimpleKey
  disallowSimpleKey
  push ⟨← here, .streamEnd⟩

/-- The digits of a version number. -/
def versionNumber (start : Mark) : Nat → Nat → Nat → ScanM Nat
  | 0, v, _ => pure v
  | n + 1, v, len => do
    let c ← current
    if c.isDigit then
      if len + 1 > 9 then
        fail start "while scanning a YAML directive, found extremely long version number"
      skip
      versionNumber start n (v * 10 + (c.toNat - 48)) (len + 1)
    else if len == 0 then
      fail start "while scanning a YAML directive, did not find expected version number"
    else pure v

/-- The version of a `%YAML` directive. -/
def versionDirectiveValue (start : Mark) : ScanM Token := do
  skipWhileM isBlank (← budget)
  let major ← versionNumber start (← budget) 0 0
  if (← current) != '.' then
    fail start "while scanning a YAML directive, did not find expected digit or '.' character"
  skip
  let minor ← versionNumber start (← budget) 0 0
  return ⟨start, .versionDirective major minor⟩

/-- A tag handle: `!`, `!!` or `!` word characters `!`; within a directive the handle must
end in `!`. -/
def tagHandle (directive : Bool) (start : Mark) : ScanM String := do
  if (← current) != '!' then fail start "while scanning a tag, did not find expected '!'"
  skip
  let handle ← takeWhileM isWordChar (← budget) "!"
  if (← current) == '!' then
    skip
    return handle.push '!'
  else if directive && handle != "!" then
    fail start "while parsing a tag directive, did not find expected '!'"
  else return handle

/-- A character written as `%` escaped UTF-8 octets, the bytes of a sequence put together
as one big-endian number. -/
def uriEscapes (start : Mark) : Nat → Nat → Nat → ScanM Char
  | 0, code, _ => pure (Char.ofNat code)
  | n + 1, code, width => do
    let c ← current
    let c1 ← ahead 1
    let c2 ← ahead 2
    match c == '%', hexDigit? c1, hexDigit? c2 with
    | true, some h, some l =>
      let octet := h * 16 + l
      let (width, code) ← if width == 0 then do
          let w ← if octet &&& 0x80 == 0 then pure 1
            else if octet &&& 0xE0 == 0xC0 then pure 2
            else if octet &&& 0xF0 == 0xE0 then pure 3
            else if octet &&& 0xF8 == 0xF0 then pure 4
            else fail start "while parsing a tag, found an incorrect leading UTF-8 octet"
          pure (w, octet)
        else do
          if octet &&& 0xC0 != 0x80 then
            fail start "while parsing a tag, found an incorrect trailing UTF-8 octet"
          pure (width, code * 256 + octet)
      skip
      skip
      skip
      if width - 1 == 0 then
        if isScalarValue code then pure (Char.ofNat code)
        else fail start "while parsing a tag, found an invalid UTF-8 codepoint"
      else uriEscapes start n code (width - 1)
    | _, _, _ => fail start "while parsing a tag, did not find URI escaped octet"

/-- The URI characters of a tag, after the head's characters past its first. -/
def tagUriChars (start : Mark) : Nat → String → Nat → ScanM (String × Nat)
  | 0, acc, len => pure (acc, len)
  | n + 1, acc, len => do
    let c ← current
    if isUriChar c then
      if c == '%' then
        let ch ← uriEscapes start 4 0 0
        tagUriChars start n (acc.push ch) (len + 1)
      else
        skip
        tagUriChars start n (acc.push c) (len + 1)
    else pure (acc, len)

/-- A tag's URI, continuing `head`; an empty one is a fault. -/
def tagUri (head : String) (start : Mark) : ScanM String := do
  let init := if head.length > 1 then String.ofList (head.toList.drop 1) else ""
  let (uri, len) ← tagUriChars start (← budget) init head.length
  if len == 0 then fail start "while parsing a tag, did not find expected tag URI"
  return uri

/-- The handle and prefix of a `%TAG` directive. -/
def tagDirectiveValue (start : Mark) : ScanM Token := do
  skipWhileM isBlank (← budget)
  let handle ← tagHandle true start
  skipWhileM isBlank (← budget)
  let pfx ← tagUri "" start
  if isBlankOrEnd (← current) then return ⟨start, .tagDirective handle pfx⟩
  else fail start "while scanning TAG, did not find expected whitespace or line break"

/-- A directive's name. -/
def directiveName : ScanM String := do
  let start ← here
  let name ← takeWhileM isWordChar (← budget) ""
  if name.isEmpty then
    fail start "while scanning a directive, could not find expected directive name"
  if !isBlankOrEnd (← current) then
    fail start "while scanning a directive, found unexpected non-alphabetical character"
  return name

/-- A directive line; one of an unknown name is read as an empty tag directive. -/
def scanDirective : ScanM Token := do
  let start ← here
  skip
  let name ← directiveName
  let tok ← if name == "YAML" then versionDirectiveValue start
    else if name == "TAG" then tagDirectiveValue start
    else do
      skipWhileM (fun c => !isBreakOrEnd c) (← budget)
      pure ⟨start, .tagDirective "" ""⟩
  skipWhileM isBlank (← budget)
  if (← current) == '#' then skipWhileM (fun c => !isBreakOrEnd c) (← budget)
  if !isBreakOrEnd (← current) then
    fail start "while scanning a directive, did not find expected comment or line break"
  if isBreak (← current) then skipLine
  return tok

/-- A directive token. -/
def fetchDirective : ScanM Unit := do
  unroll (-1)
  removeSimpleKey
  disallowSimpleKey
  push (← scanDirective)

/-- A `---` or `...` marker. -/
def fetchDocumentIndicator (kind : TokenKind) : ScanM Unit := do
  unroll (-1)
  removeSimpleKey
  disallowSimpleKey
  let m ← here
  skip
  skip
  skip
  push ⟨m, kind⟩

/-- A `[` or `{`, which may start a simple key. -/
def fetchFlowCollectionStart (kind : TokenKind) : ScanM Unit := do
  saveSimpleKey
  increaseFlowLevel
  allowSimpleKey
  let m ← here
  skip
  push ⟨m, kind⟩

/-- A `]` or `}`. -/
def fetchFlowCollectionEnd (kind : TokenKind) : ScanM Unit := do
  removeSimpleKey
  decreaseFlowLevel
  disallowSimpleKey
  let m ← here
  skip
  push ⟨m, kind⟩

/-- A `,` between flow entries. -/
def fetchFlowEntry : ScanM Unit := do
  removeSimpleKey
  allowSimpleKey
  let m ← here
  skip
  push ⟨m, .flowEntry⟩

/-- A `-` entry of a block sequence, opening the sequence when it is further right. -/
def fetchBlockEntry : ScanM Unit := do
  let s ← get
  if s.flowLevel == 0 then
    if !s.simpleKeyAllowed then
      fail s.mark "block sequence entries are not allowed in this context"
    rollIndent s.mark.column none .blockSequenceStart s.mark
  else fail s.mark "\"-\" is only valid inside a block"
  removeSimpleKey
  allowSimpleKey
  let m ← here
  skip
  push ⟨m, .blockEntry⟩

/-- A `?` key indicator, opening a block mapping when it is further right. -/
def fetchKey : ScanM Unit := do
  let s ← get
  let start := s.mark
  if s.flowLevel == 0 then
    if !s.simpleKeyAllowed then fail start "mapping keys are not allowed in this context"
    rollIndent start.column none .blockMappingStart start
  removeSimpleKey
  if (← get).flowLevel == 0 then allowSimpleKey else disallowSimpleKey
  skip
  push ⟨start, .key⟩

/-- A `:` value indicator: after a possible simple key, the key token goes in front of that
key, with the start of a block mapping when one opens. -/
def fetchValue : ScanM Unit := do
  let s ← get
  let start := s.mark
  match s.simpleKeys with
  | sk :: _ =>
    if sk.possible then
      insertAt (sk.tokenNumber - s.tokensParsed) ⟨sk.mark, .key⟩
      rollIndent sk.mark.column (some sk.tokenNumber) .blockMappingStart start
      modify fun s => { s with simpleKeys := match s.simpleKeys with
        | k :: ks => { k with possible := false } :: ks
        | [] => [] }
      disallowSimpleKey
    else
      if s.flowLevel == 0 then
        if !s.simpleKeyAllowed then fail start "mapping values are not allowed in this context"
        rollIndent start.column none .blockMappingStart start
      if (← get).flowLevel == 0 then allowSimpleKey else disallowSimpleKey
  | [] => pure ()
  skip
  push ⟨start, .value⟩

/-- An anchor or alias name after its `&` or `*`. -/
def scanAnchor (isAlias : Bool) : ScanM Token := do
  let start ← here
  skip
  let name ← takeWhileM isWordChar (← budget) ""
  let c ← current
  if name.isEmpty || !(isBlankOrEnd c || "?:,]\x7d%@`".contains c) then
    fail start
      "while scanning an anchor or alias, did not find expected alphabetic or numeric character"
  return ⟨start, if isAlias then .alias name else .anchor name⟩

/-- An anchor or alias token. -/
def fetchAnchor (isAlias : Bool) : ScanM Unit := do
  saveSimpleKey
  disallowSimpleKey
  push (← scanAnchor isAlias)

/-- A tag: `!<uri>`, `!handle!suffix`, or `!suffix`; a lone `!` has an empty handle and
the suffix `!`. -/
def scanTag : ScanM Token := do
  let start ← here
  let (handle, suffix) ← if (← ahead 1) == '<' then do
      skip
      skip
      let suffix ← tagUri "" start
      if (← current) != '>' then fail start "while scanning a tag, did not find the expected '>'"
      skip
      pure ("", suffix)
    else do
      let handle ← tagHandle false start
      if handle.length ≥ 2 && handle.startsWith "!" && handle.endsWith "!" then
        let suffix ← tagUri "" start
        pure (handle, suffix)
      else
        let suffix ← tagUri handle start
        if suffix.isEmpty then pure ("", "!") else pure ("!", suffix)
  if isBlankOrEnd (← current) then return ⟨start, .tag handle suffix⟩
  else fail start "while scanning a tag, did not find expected whitespace or line break"

/-- A tag token. -/
def fetchTag : ScanM Unit := do
  saveSimpleKey
  disallowSimpleKey
  push (← scanTag)

/-- The pieces of a scalar being folded: the text so far, the first line break of the
run of blanks just read, the breaks after it, the blanks of the run, and whether the run
holds a line break. -/
structure Fold where
  text : String := ""
  leadingBreak : String := ""
  trailingBreaks : String := ""
  whitespaces : String := ""
  leadingBlanks : Bool := false

/-- A fold with its run of blanks joined to the text: a run without a line break keeps its
blanks, and one with a break becomes a space, or the breaks after the first when there are
any. -/
def Fold.join (f : Fold) : Fold :=
  if f.leadingBlanks then
    if f.leadingBreak.isEmpty then
      { f with text := f.text ++ f.leadingBreak ++ f.trailingBreaks, trailingBreaks := "",
               leadingBreak := "" }
    else if f.trailingBreaks.isEmpty then { f with text := f.text.push ' ', leadingBreak := "" }
    else { f with text := f.text ++ f.trailingBreaks, trailingBreaks := "", leadingBreak := "" }
  else { f with text := f.text ++ f.whitespaces, whitespaces := "" }

/-- A run of blanks and line breaks read into a fold.  With `tabLimit` an indentation and
a place, a tab left of that indentation after a line break is a fault at the place. -/
def blankRun (tabLimit : Option (Int × Mark)) : Nat → Fold → ScanM Fold
  | 0, f => pure f
  | n + 1, f => do
    let c ← current
    if isBlank c then
      if let some (indent, start) := tabLimit then
        if f.leadingBlanks && ((← get).mark.column : Int) < indent && c == '\t' then
          fail start "while scanning a plain scalar, found a tab"
      skip
      blankRun tabLimit n (if f.leadingBlanks then f else { f with whitespaces := f.whitespaces.push c })
    else if isBreak c then
      if f.leadingBlanks then
        let trailing ← readBreak f.trailingBreaks
        blankRun tabLimit n { f with trailingBreaks := trailing }
      else
        let lead ← readBreak f.leadingBreak
        blankRun tabLimit n { f with whitespaces := "", leadingBreak := lead, leadingBlanks := true }
    else pure f

/-- The characters of a plain scalar up to a blank, a `: ` or, inside flow collections, a
flow indicator or a `:` before one. -/
def plainChars (flow : Bool) : Nat → Fold → ScanM Fold
  | 0, f => pure f
  | n + 1, f => do
    let c ← current
    let c1 ← ahead 1
    if isBlankOrEnd c || (c == ':' && (isBlankOrEnd c1 || (flow && isFlowIndicator c1))) ||
        (flow && isFlowIndicator c) then
      pure f
    else
      let f := if f.leadingBlanks || !f.whitespaces.isEmpty then { f.join with leadingBlanks := false }
        else f
      skip
      plainChars flow n { f with text := f.text.push c }

/-- Whether a document marker, `---` or `...` then a blank, starts at the current place. -/
def atDocumentMarker : ScanM Bool := do
  let c ← current
  let c1 ← ahead 1
  let c2 ← ahead 2
  let c3 ← ahead 3
  return (← get).mark.column == 0 &&
    ((c == '-' && c1 == '-' && c2 == '-') || (c == '.' && c1 == '.' && c2 == '.')) && isBlankOrEnd c3

/-- The lines of a plain scalar: it ends at a document marker, a comment, a character that
ends it, or a line left of `indent` outside flow collections. -/
def plainLines (flow : Bool) (indent : Int) (start : Mark) : Nat → Fold → ScanM Fold
  | 0, f => pure f
  | n + 1, f => do
    if (← atDocumentMarker) || (← current) == '#' then return f
    let f ← plainChars flow (← budget) f
    let c ← current
    if !(isBlank c || isBreak c) then return f
    let f ← blankRun (some (indent, start)) (← budget) f
    if !flow && ((← get).mark.column : Int) < indent then return f
    plainLines flow indent start n f

/-- A plain scalar; one that ends after a line break allows a simple key. -/
def scanPlainScalar : ScanM Token := do
  let s ← get
  let start := s.mark
  let f ← plainLines (s.flowLevel > 0) (s.indent + 1) start (← budget) {}
  if f.leadingBlanks then allowSimpleKey
  return ⟨start, .scalar .plain f.text⟩

/-- A plain scalar token. -/
def fetchPlainScalar : ScanM Unit := do
  saveSimpleKey
  disallowSimpleKey
  push (← scanPlainScalar)

/-- What a double-quoted escape letter stands for: a character, or the number of hex
digits of a code point. -/
def escapeMeaning (c : Char) : Option (Char ⊕ Nat) :=
  match c with
  | '0' => some (.inl (Char.ofNat 0))
  | 'a' => some (.inl (Char.ofNat 7))
  | 'b' => some (.inl (Char.ofNat 8))
  | 't' | '\t' => some (.inl '\t')
  | 'n' => some (.inl '\n')
  | 'v' => some (.inl (Char.ofNat 0x0b))
  | 'f' => some (.inl (Char.ofNat 0x0c))
  | 'r' => some (.inl '\r')
  | 'e' => some (.inl (Char.ofNat 0x1b))
  | ' ' => some (.inl ' ')
  | '"' => some (.inl '"')
  | '\\' => some (.inl '\\')
  | 'N' => some (.inl (Char.ofNat 0x85))
  | '_' => some (.inl (Char.ofNat 0xA0))
  | 'L' => some (.inl (Char.ofNat 0x2028))
  | 'P' => some (.inl (Char.ofNat 0x2029))
  | 'x' => some (.inr 2)
  | 'u' => some (.inr 4)
  | 'U' => some (.inr 8)
  | c => if c == Text.apostrophe then some (.inl c) else none

/-- The code point of the `len` hex digits ahead, read without moving. -/
def hexCode (start : Mark) : Nat → Nat → Nat → ScanM Nat
  | 0, _, v => pure v
  | n + 1, i, v => do
    match hexDigit? (← ahead i) with
    | some d => hexCode start n (i + 1) (v * 16 + d)
    | none => fail start "while parsing a quoted scalar, did not find expected hexdecimal number"

/-- The characters of a quoted scalar up to a blank, the closing quote or an escaped line
break, which ends the run with a line break pending. -/
def quotedChars (single : Bool) (start : Mark) : Nat → Fold → ScanM Fold
  | 0, f => pure f
  | n + 1, f => do
    let c ← current
    let c1 ← ahead 1
    if isBlankOrEnd c then return f
    if single && c == Text.apostrophe then
      if c1 == Text.apostrophe then
        skip
        skip
        quotedChars single start n { f with text := f.text.push Text.apostrophe }
      else return f
    else if !single && c == '"' then return f
    else if !single && c == '\\' then
      if isBreak c1 then
        skip
        skipLine
        return { f with leadingBlanks := true }
      match escapeMeaning c1 with
      | none => fail start "while parsing a quoted scalar, found unknown escape character"
      | some (.inl ch) =>
        skip
        skip
        quotedChars single start n { f with text := f.text.push ch }
      | some (.inr len) =>
        skip
        skip
        let code ← hexCode start len 0 0
        if !isScalarValue code then
          fail start "while parsing a quoted scalar, found invalid Unicode character escape code"
        for _ in [0:len] do skip
        quotedChars single start n { f with text := f.text.push (Char.ofNat code) }
    else
      skip
      quotedChars single start n { f with text := f.text.push c }

/-- The lines of a quoted scalar up to its closing quote. -/
def quotedLines (single : Bool) (start : Mark) : Nat → Fold → ScanM Fold
  | 0, f => pure f
  | n + 1, f => do
    if ← atDocumentMarker then
      fail start "while scanning a quoted scalar, found unexpected document indicator"
    if (← current) == '\x00' then
      fail start "while scanning a quoted scalar, found unexpected end of stream"
    let f ← quotedChars single start (← budget) { f with leadingBlanks := false }
    let c ← current
    if (single && c == Text.apostrophe) || (!single && c == '"') then return f
    let f ← blankRun none (← budget) f
    quotedLines single start n f.join

/-- A single- or double-quoted scalar. -/
def scanFlowScalar (single : Bool) : ScanM Token := do
  let start ← here
  skip
  let f ← quotedLines single start (← budget) {}
  skip
  return ⟨start, .scalar (if single then .singleQuoted else .doubleQuoted) f.text⟩

/-- A quoted scalar token. -/
def fetchFlowScalar (single : Bool) : ScanM Unit := do
  saveSimpleKey
  disallowSimpleKey
  push (← scanFlowScalar single)

/-- The place after the spaces of a block scalar's indentation, up to `indent` when it is
known. -/
def indentSpaces (indent : Nat) : Nat → ScanM Unit
  | 0 => pure ()
  | n + 1 => do
    if (indent == 0 || (← get).mark.column < indent) && (← current) == ' ' then
      skip
      indentSpaces indent n

/-- Empty lines of a block scalar read into `breaks`, with the widest indentation seen. -/
def blockBreakLines (indent : Nat) : Nat → Nat → String → ScanM (Nat × String)
  | 0, widest, breaks => pure (widest, breaks)
  | n + 1, widest, breaks => do
    indentSpaces indent (← budget)
    let s ← get
    let widest := max widest s.mark.column
    if (indent == 0 || s.mark.column < indent) && (← current) == '\t' then
      fail s.mark
        "while scanning a block scalar, found a tab character where an indentation space is expected"
    if !isBreak (← current) then return (widest, breaks)
    blockBreakLines indent n widest (← readBreak breaks)

/-- Empty lines of a block scalar, and its indentation: the given one, or when none was
given the widest seen, at least one more than the current indentation and at least one. -/
def blockScalarBreaks (indent : Nat) (breaks : String) : ScanM (Nat × String) := do
  let (widest, breaks) ← blockBreakLines indent (← budget) 0 breaks
  if indent == 0 then
    let s ← get
    return (max widest (max (s.indent + 1).toNat 1), breaks)
  return (indent, breaks)

/-- The lines of a block scalar at its indentation: the text, the pending line break and
the empty lines after it.  A folded scalar joins two lines that do not start with a blank
by a space, or by the empty lines between them. -/
def blockLines (literal : Bool) (indent : Nat) :
    Nat → String → String → String → Bool → ScanM (String × String × String)
  | 0, text, leading, trailing, _ => pure (text, leading, trailing)
  | n + 1, text, leading, trailing, leadingBlank => do
    let c ← current
    if (← get).mark.column != indent || c == '\x00' then return (text, leading, trailing)
    let trailingBlank := isBlank c
    let text :=
      if !literal && !leading.isEmpty && !leadingBlank && !trailingBlank then
        (if trailing.isEmpty then text.push ' ' else text)
      else text ++ leading
    let text := text ++ trailing
    let line ← takeWhileM (fun c => !isBreakOrEnd c) (← budget) ""
    let text := text ++ line
    if (← current) == '\x00' then return (text, "", "")
    let leading ← readBreak ""
    let (_, trailing) ← blockScalarBreaks indent ""
    blockLines literal indent n text leading trailing (isBlank c)

/-- A literal (`|`) or folded (`>`) block scalar with its header: a chomping indicator `+`
or `-` and an indentation indicator from 1 to 9, in either order. -/
def scanBlockScalar (literal : Bool) : ScanM Token := do
  let start ← here
  skip
  let mut chomping : Int := 0
  let mut increment : Nat := 0
  let c ← current
  if c == '+' || c == '-' then
    chomping := if c == '+' then 1 else -1
    skip
    let d ← current
    if d.isDigit then
      if d == '0' then
        fail start "while scanning a block scalar, found an indentation indicator equal to 0"
      increment := d.toNat - 48
      skip
  else if c.isDigit then
    if c == '0' then
      fail start "while scanning a block scalar, found an indentation indicator equal to 0"
    increment := c.toNat - 48
    skip
    let d ← current
    if d == '+' || d == '-' then
      chomping := if d == '+' then 1 else -1
      skip
  skipWhileM isBlank (← budget)
  if (← current) == '#' then skipWhileM (fun c => !isBreakOrEnd c) (← budget)
  if !isBreakOrEnd (← current) then
    fail start "while scanning a block scalar, did not find expected comment or line break"
  if isBreak (← current) then skipLine
  let s ← get
  let indent := if increment > 0 then
      (if s.indent ≥ 0 then (s.indent + increment).toNat else increment)
    else 0
  let (indent, trailing) ← blockScalarBreaks indent ""
  let first ← here
  let (text, leading, trailing) ← blockLines literal indent (← budget) "" "" trailing false
  let text := if chomping != -1 then text ++ leading else text
  let text := if chomping == 1 then text ++ trailing else text
  return ⟨first, .scalar (if literal then .literal else .folded) text⟩

/-- A block scalar token. -/
def fetchBlockScalar (literal : Bool) : ScanM Unit := do
  saveSimpleKey
  allowSimpleKey
  push (← scanBlockScalar literal)

/-- The next token or tokens, read from the text. -/
def fetchNextToken : ScanM Unit := do
  if !(← get).started then
    fetchStreamStart
    return
  skipToNextToken (← budget)
  staleSimpleKeys
  unroll (← get).mark.column
  let c ← current
  if c == '\x00' then
    fetchStreamEnd
    return
  let s ← get
  if s.mark.column == 0 && c == '%' then
    fetchDirective
    return
  let c1 ← ahead 1
  let c2 ← ahead 2
  let c3 ← ahead 3
  if s.mark.column == 0 && c == '-' && c1 == '-' && c2 == '-' && isBlankOrEnd c3 then
    fetchDocumentIndicator .documentStart
    return
  if s.mark.column == 0 && c == '.' && c1 == '.' && c2 == '.' && isBlankOrEnd c3 then
    fetchDocumentIndicator .documentEnd
    return
  let flow := s.flowLevel > 0
  match c with
  | '[' => fetchFlowCollectionStart .flowSequenceStart
  | '{' => fetchFlowCollectionStart .flowMappingStart
  | ']' => fetchFlowCollectionEnd .flowSequenceEnd
  | '}' => fetchFlowCollectionEnd .flowMappingEnd
  | ',' => fetchFlowEntry
  | '-' => if isBlankOrEnd c1 then fetchBlockEntry else fetchPlainScalar
  | '?' => if flow || isBlankOrEnd c1 then fetchKey else fetchPlainScalar
  | ':' => if flow || isBlankOrEnd c1 then fetchValue else fetchPlainScalar
  | '*' => fetchAnchor true
  | '&' => fetchAnchor false
  | '!' => fetchTag
  | '|' => if flow then fetchPlainScalar else fetchBlockScalar true
  | '>' => if flow then fetchPlainScalar else fetchBlockScalar false
  | '"' => fetchFlowScalar false
  | c =>
    if c == Text.apostrophe then fetchFlowScalar true
    else if c == '%' || c == '@' || c.toNat == 96 then
      fail s.mark ("unexpected character: `" ++ c.toString ++ Text.apostrophe.toString)
    else fetchPlainScalar

/-- Tokens read until one can be handed out: the queue holds one, and none of them waits
on a simple key that is still possible. -/
def fetchMoreTokens : Nat → ScanM Unit
  | 0 => pure ()
  | n + 1 => do
    let needMore ← if (← get).queue.isEmpty then pure true else do
      staleSimpleKeys
      let s ← get
      pure (s.simpleKeys.any fun sk => sk.possible && sk.tokenNumber == s.tokensParsed)
    if needMore then
      fetchNextToken
      fetchMoreTokens n
    else modify fun s => { s with tokenAvailable := true }

/-- The next token handed out, none after the stream's end. -/
def nextToken : ScanM (Option Token) := do
  if (← get).ended then return none
  if !(← get).tokenAvailable then fetchMoreTokens (2 * (← budget) + 16)
  let s ← get
  match s.queue with
  | t :: rest =>
    let ended := match t.kind with
      | .streamEnd => true
      | _ => false
    set { s with queue := rest, tokenAvailable := false, tokensParsed := s.tokensParsed + 1,
                 ended := ended }
    return some t
  | [] => return none

/-- Tokens handed out from a scanner, at most `n`, with the fault that stopped them. -/
def run : Nat → Scanner → List Token → List Token × Option Error × Mark
  | 0, s, acc => (acc.reverse, none, s.mark)
  | n + 1, s, acc =>
    match nextToken.run s with
    | .error e => (acc.reverse, some e, s.mark)
    | .ok (none, s) => (acc.reverse, none, s.mark)
    | .ok (some t, s) => run n s (t :: acc)

end Scanner

/-- The tokens of YAML text in the order they are handed out, the fault that stopped the
scanner if one did, and the scanner's last place. -/
def scan (text : String) : List Token × Option Error × Mark :=
  let cs := text.toList.takeWhile (· != '\x00')
  Scanner.run (8 * cs.length + 16) { rest := cs, limit := cs.length + 1 } []

end LowRankTuner.Yaml
