/-
  LowRankTuner/Template/Lexer.lean
  ================================
  Cutting template source into tokens.

  Outside tags the source is template data.  A tag opens with `{{` (an expression to
  print), `{%` (a statement) or `{#` (a comment), and a `-` right after the opener removes
  the white space before the tag, a `-` right before the closer the white space after it.
  Inside tags the lexer yields names, literals and operators; `}}` closes an expression
  only where no bracket is open.  `{% raw %}…{% endraw %}` passes its contents through as
  data.  One newline at the very end of the source is dropped, and then one return.

  Numbers are decimal, or binary, octal and hexadecimal after `0b`, `0o` and `0x`; an
  underscore may separate digits but not end a number, and an integer must fit in 128
  unsigned bits.  A `.` after decimal digits starts a fraction unless a name follows it
  that is not an exponent (`1.`, `1.e5` and `1.+2` are floats), so `5.y` is an attribute
  of `5`.  In strings, `\n`, `\t`, `\r`, `\b`, `\f`, `\"`, `\'`, `\/` and `\\`
  stand for their characters, `\xHH` and `\uHHHH` for code points (a surrogate pair
  makes one character; a lone surrogate is an error), and any other escape is kept as
  written.

  Each token carries the line it starts on, which is where a failure caused by it is
  reported.  The lexer consumes at least one character per step, so it is run with the
  length of the source as fuel.
-/
import LowRankTuner.Template.Value
import LowRankTuner.Text.Blank
import LowRankTuner.Decimal.Binary
import LowRankTuner.Decimal.Read

namespace LowRankTuner.Template

/-- The tokens of template source. -/
inductive Token where
  | data (s : String)
  | varStart | varEnd | blockStart | blockEnd
  | ident (s : String)
  | str (s : String)
  | int (n : Int)
  | float (x : Float)
  | plus | minus | mul | div | floorDiv | pow | mod | dot | comma | colon | tilde | assign
  | pipe | eq | ne | gt | ge | lt | le
  | lbracket | rbracket | lparen | rparen | lbrace | rbrace

/-- How a syntax error names a token. -/
def Token.describe : Token → String
  | .data _ => "template-data"
  | .varStart => "start of variable block"
  | .varEnd => "end of variable block"
  | .blockStart => "start of block"
  | .blockEnd => "end of block"
  | .ident _ => "identifier"
  | .str _ => "string"
  | .int _ => "integer"
  | .float _ => "float"
  | .plus => "`+`" | .minus => "`-`" | .mul => "`*`" | .div => "`/`"
  | .floorDiv => "`//`" | .pow => "`**`" | .mod => "`%`" | .dot => "`.`"
  | .comma => "`,`" | .colon => "`:`" | .tilde => "`~`" | .assign => "`=`" | .pipe => "`|`"
  | .eq => "`==`" | .ne => "`!=`" | .gt => "`>`" | .ge => "`>=`" | .lt => "`<`" | .le => "`<=`"
  | .lbracket => "`[`" | .rbracket => "`]`" | .lparen => "`(`" | .rparen => "`)`"
  | .lbrace => "`\x7b`" | .rbrace => "`\x7d`"

/-- A token and the line it starts on. -/
structure Lexeme where
  tok : Token
  line : Nat

/-- A syntax error on a line. -/
def syntaxError (msg : String) (line : Nat) : Error := ⟨.badSyntax, some msg, line⟩

/-! ## 1. Character classes and white space -/

/-- Letters, digits and the underscore continue a name. -/
def isNameChar (c : Char) : Bool := c.isAlphanum || c == '_'

/-- Letters and the underscore start a name. -/
def isNameStart (c : Char) : Bool := c.isAlpha || c == '_'

/-- Newlines in some characters. -/
def newlines (cs : List Char) : Nat := cs.count '\n'

/-- White space removed at the start. -/
def trimStart (cs : List Char) : List Char := cs.dropWhile Text.isWhiteSpace

/-- White space removed at the end. -/
def trimEnd (cs : List Char) : List Char :=
  ((cs.reverse).dropWhile Text.isWhiteSpace).reverse

/-- `p` is a prefix of `cs`. -/
def startsWith (cs p : List Char) : Bool := cs.take p.length == p

/-- The source with one final newline removed, and then one final return. -/
def dropFinalNewline (cs : List Char) : List Char :=
  let rs := match cs.reverse with
    | '\n' :: rest => rest
    | rs => rs
  match rs with
  | '\r' :: rest => rest.reverse
  | rs => rs.reverse

/-! ## 2. Finding tags -/

/-- Splits at the first tag opener: the data before it, the opener's second character, and
what follows the opener. -/
def findOpen : List Char → Option (List Char × Char × List Char)
  | [] => none
  | '{' :: c :: rest =>
    if c == '{' || c == '%' || c == '#' then some ([], c, rest)
    else (findOpen (c :: rest)).map (fun (b, k, r) => ('{' :: b, k, r))
  | c :: rest => (findOpen rest).map (fun (b, k, r) => (c :: b, k, r))

/-- Splits at the first occurrence of `pat`: what comes before it and what follows it. -/
def splitAt (pat : List Char) : List Char → Option (List Char × List Char)
  | [] => if pat.isEmpty then some ([], []) else none
  | c :: rest =>
    if startsWith (c :: rest) pat then some ([], (c :: rest).drop pat.length)
    else (splitAt pat rest).map (fun (b, r) => (c :: b, r))

/-- The rest after `word` and blanks, if `cs` starts with blanks, then `word`. -/
def afterWord (cs : List Char) (word : String) : Option (List Char) :=
  let cs := trimStart cs
  if startsWith cs word.toList then some (cs.drop word.length) else none

/-- A raw block's opening tag after `{%`: the rest after `%}`, and whether it ends with `-`. -/
def rawOpen (cs : List Char) : Option (List Char × Bool) := do
  let cs := match cs with
    | '-' :: r | '+' :: r => r
    | r => r
  let r ← afterWord cs "raw"
  let r := trimStart r
  match r with
  | '-' :: '%' :: '}' :: rest => some (rest, true)
  | '+' :: '%' :: '}' :: rest => some (rest, false)
  | '%' :: '}' :: rest => some (rest, false)
  | _ => none

/-- The end of a raw block: its contents, whether its closing tag starts with `-`, the rest
after it, and whether that tag ends with `-`. -/
def rawClose : List Char → Option (List Char × Bool × List Char × Bool)
  | [] => none
  | c :: rest =>
    let attempt : Option (Bool × List Char × Bool) := do
      match c :: rest with
      | '{' :: '%' :: r =>
        let (dash, r) := match r with
          | '-' :: r' => (true, r')
          | '+' :: r' => (false, r')
          | r' => (false, r')
        let r ← afterWord r "endraw"
        match trimStart r with
        | '-' :: '%' :: '}' :: r' => some (dash, r', true)
        | '+' :: '%' :: '}' :: r' => some (dash, r', false)
        | '%' :: '}' :: r' => some (dash, r', false)
        | _ => none
      | _ => none
    match attempt with
    | some (d, r, t) => some ([], d, r, t)
    | none => (rawClose rest).map (fun (b, d, r, t) => (c :: b, d, r, t))

/-! ## 3. Inside tags -/

/-- The value of a hex digit. -/
def hexValue? (c : Char) : Option Nat :=
  if c.isDigit then some (c.toNat - 48)
  else if 'a' ≤ c && c ≤ 'f' then some (c.toNat - 87)
  else if 'A' ≤ c && c ≤ 'F' then some (c.toNat - 55)
  else none

/-- The value of exactly `n` hex digits at the start, and the rest. -/
def hexDigits? (n : Nat) (cs : List Char) : Option (Nat × List Char) :=
  if cs.length < n then none
  else ((cs.take n).foldlM (fun acc c => (hexValue? c).map (acc * 16 + ·)) 0).map (·, cs.drop n)

/-- A high surrogate waits for the low one that completes it. -/
def isHighSurrogate (n : Nat) : Bool := 0xD800 ≤ n && n ≤ 0xDBFF

/-- A low surrogate completes a high one. -/
def isLowSurrogate (n : Nat) : Bool := 0xDC00 ≤ n && n ≤ 0xDFFF

/-- Decodes the escapes of a string literal's body.  `\u` takes four hex digits and pairs
surrogates, `\x` two; an unknown escape stays as written; `pending` is a high surrogate
waiting for its low half; the fuel bounds the characters read. -/
def unescapeWithin : Nat → Option Nat → List Char → Except Error (List Char)
  | 0, _, _ => .error (.bare .badEscape)
  | _ + 1, pending, [] => if pending.isSome then .error (.bare .badEscape) else .ok []
  | fuel + 1, pending, '\\' :: 'u' :: rest =>
    match hexDigits? 4 rest with
    | none => .error (.bare .badEscape)
    | some (n, more) =>
      match pending with
      | some hi =>
        if isLowSurrogate n then
          return Char.ofNat (0x10000 + (hi - 0xD800) * 0x400 + (n - 0xDC00)) ::
            (← unescapeWithin fuel none more)
        else .error (.bare .badEscape)
      | none =>
        if isHighSurrogate n then unescapeWithin fuel (some n) more
        else if isLowSurrogate n then .error (.bare .badEscape)
        else return Char.ofNat n :: (← unescapeWithin fuel none more)
  | fuel + 1, pending, c :: rest =>
    if pending.isSome then .error (.bare .badEscape)
    else if c == '\\' then
      match rest with
      | [] => .error (.bare .badEscape)
      | d :: more =>
        match d with
        | '"' | '\\' | '/' | '\'' => return d :: (← unescapeWithin fuel none more)
        | 'b' => return Char.ofNat 8 :: (← unescapeWithin fuel none more)
        | 'f' => return Char.ofNat 12 :: (← unescapeWithin fuel none more)
        | 'n' => return '\n' :: (← unescapeWithin fuel none more)
        | 'r' => return '\r' :: (← unescapeWithin fuel none more)
        | 't' => return '\t' :: (← unescapeWithin fuel none more)
        | 'x' =>
          match hexDigits? 2 more with
          | some (n, after) => return Char.ofNat n :: (← unescapeWithin fuel none after)
          | none => .error (.bare .badEscape)
        | d => return '\\' :: d :: (← unescapeWithin fuel none more)
    else return c :: (← unescapeWithin fuel none rest)

/-- Decodes the escapes of a string literal's body. -/
def unescape (cs : List Char) : Except Error (List Char) := unescapeWithin (cs.length + 1) none cs

/-- The body of a string literal up to its closing `delim`, and the rest. -/
def stringBody (delim : Char) : List Char → Option (List Char × List Char)
  | [] => none
  | '\\' :: c :: rest => (stringBody delim rest).map (fun (b, r) => ('\\' :: c :: b, r))
  | c :: rest =>
    if c == delim then some ([], rest) else (stringBody delim rest).map (fun (b, r) => (c :: b, r))

/-- The states of a number literal. -/
inductive NumState where
  | radixInteger | integer | fraction | exponent | exponentSign
  deriving DecidableEq

/-- What follows a `.` after the digits of an integer makes it a fraction: anything but the
start of a name (`1.`, `1.+2`), and of names only an exponent with its digits (`1.e5`).
Before a name the `.` is left to an attribute (`5.y`). -/
def startsFraction : List Char → Bool
  | c :: rest =>
    !(c.isAlpha || c == '_') || ((c == 'e' || c == 'E') &&
      match rest with
      | d :: more => d.isDigit || ((d == '+' || d == '-') && more.head?.any Char.isDigit)
      | [] => false)
  | [] => true

/-- The characters of a number literal after any radix prefix, the state it ended in, and
whether it holds an underscore. -/
def numberChars (hex : Bool) : List Char → NumState → List Char × List Char × NumState
  | [], st => ([], [], st)
  | c :: rest, st =>
    let next : Option NumState :=
      if c == '.' && st == .integer then
        (if startsFraction rest then some .fraction else none)
      else if (c == 'e' || c == 'E') && (st == .integer || st == .fraction) then some .exponent
      else if (c == '+' || c == '-') && st == .exponent then some .exponentSign
      else if c.isDigit && st == .exponent then some .exponentSign
      else if c.isDigit then some st
      else if hex && st == .radixInteger && (hexValue? c).isSome then some st
      else if c == '_' then some st
      else none
    match next with
    | some st' => let (n, r, s) := numberChars hex rest st'; (c :: n, r, s)
    | none => ([], c :: rest, st)

/-- The value of digits in a radix; none when a digit is out of range or there are
none. -/
def radixValue? (radix : Nat) (ds : List Char) : Option Nat :=
  if ds.isEmpty then none
  else ds.foldlM (fun acc c => (hexValue? c).bind fun d =>
    if d < radix then some (acc * radix + d) else none) 0

/-- A number literal at the start of some characters: the token, or the failure. -/
def numberToken (cs : List Char) (line : Nat) : Except Error (Token × List Char) :=
  let (radix, body) := match cs with
    | '0' :: 'b' :: r | '0' :: 'B' :: r => (2, r)
    | '0' :: 'o' :: r | '0' :: 'O' :: r => (8, r)
    | '0' :: 'x' :: r | '0' :: 'X' :: r => (16, r)
    | r => (10, r)
  let start := if radix == 10 then NumState.integer else .radixInteger
  let (ds, rest, st) := numberChars (radix == 16) body start
  if ds.contains '_' && ds.getLast? == some '_' then
    .error (syntaxError "'_' may not occur at end of number" line)
  else
    let clean := ds.filter (· != '_')
    if st == .integer || st == .radixInteger then
      match radixValue? radix clean with
      | some n => if n < Nat.pow 2 128 then .ok (.int n, rest)
                  else .error (syntaxError "invalid integer (too large)" line)
      | none => .error (syntaxError "invalid integer (too large)" line)
    else
      match Decimal.readFloat? (String.ofList clean) with
      | some x => .ok (.float x, rest)
      | none => .error (syntaxError "invalid float" line)

/-- The operator at the start of some characters, and its length. -/
def operatorAt : List Char → Option (Token × Nat)
  | '/' :: '/' :: _ => some (.floorDiv, 2)
  | '*' :: '*' :: _ => some (.pow, 2)
  | '=' :: '=' :: _ => some (.eq, 2)
  | '!' :: '=' :: _ => some (.ne, 2)
  | '>' :: '=' :: _ => some (.ge, 2)
  | '<' :: '=' :: _ => some (.le, 2)
  | '+' :: _ => some (.plus, 1)
  | '-' :: _ => some (.minus, 1)
  | '*' :: _ => some (.mul, 1)
  | '/' :: _ => some (.div, 1)
  | '%' :: _ => some (.mod, 1)
  | '.' :: _ => some (.dot, 1)
  | ',' :: _ => some (.comma, 1)
  | ':' :: _ => some (.colon, 1)
  | '~' :: _ => some (.tilde, 1)
  | '|' :: _ => some (.pipe, 1)
  | '=' :: _ => some (.assign, 1)
  | '>' :: _ => some (.gt, 1)
  | '<' :: _ => some (.lt, 1)
  | '(' :: _ => some (.lparen, 1)
  | ')' :: _ => some (.rparen, 1)
  | '[' :: _ => some (.lbracket, 1)
  | ']' :: _ => some (.rbracket, 1)
  | '{' :: _ => some (.lbrace, 1)
  | '}' :: _ => some (.rbrace, 1)
  | _ => none

/-- What the lexer does next. -/
inductive Step where
  /-- A token, the rest, lines consumed, and the change of bracket depth. -/
  | token (t : Token) (rest : List Char) (lines : Nat) (depth : Int)
  /-- The tag closes; the rest, and whether the following data is trimmed. -/
  | close (t : Token) (rest : List Char) (trim : Bool)

/-- The next token inside a tag, after white space. -/
def insideStep (cs : List Char) (isVar : Bool) (depth : Nat) (line : Nat) : Except Error Step :=
  let closer : Option Step :=
    if isVar then
      if depth == 0 then
        match cs with
        | '-' :: '}' :: '}' :: r => some (.close .varEnd r true)
        | '}' :: '}' :: r => some (.close .varEnd r false)
        | _ => none
      else none
    else
      match cs with
      | '-' :: '%' :: '}' :: r => some (.close .blockEnd r true)
      | '+' :: '%' :: '}' :: r => some (.close .blockEnd r false)
      | '%' :: '}' :: r => some (.close .blockEnd r false)
      | _ => none
  match closer with
  | some s => .ok s
  | none =>
    match cs with
    | [] => .error (syntaxError "unexpected end of input" line)
    | c :: rest =>
      if c == '\'' || c == '"' then
        match stringBody c rest with
        | none => .error (syntaxError "unexpected end of string" line)
        | some (body, r) =>
          match unescape body with
          | .ok s => .ok (.token (.str (String.ofList s)) r (newlines body) 0)
          | .error e => .error (e.at line)
      else if c.isDigit then
        match numberToken cs line with
        | .ok (t, r) => .ok (.token t r 0 0)
        | .error e => .error e
      else if isNameStart c then
        let (name, r) := cs.span isNameChar
        .ok (.token (.ident (String.ofList name)) r 0 0)
      else
        match operatorAt cs with
        | some (t, n) =>
          let d : Int := match t with
            | .lparen | .lbracket | .lbrace => 1
            | .rparen | .rbracket | .rbrace => -1
            | _ => 0
          .ok (.token t (cs.drop n) 0 d)
        | none => .error (syntaxError "unexpected character" line)

/-! ## 4. The lexer -/

/-- Template data as a lexeme, unless it is empty. -/
def dataLexeme (cs : List Char) (line : Nat) : List Lexeme :=
  if cs.isEmpty then [] else [⟨.data (String.ofList cs), line⟩]

mutual

/-- Lexes template data and the tags in it. -/
def lexRoot : Nat → List Char → Nat → Bool → Except Error (List Lexeme)
  | 0, _, _, _ => .ok []
  | fuel + 1, cs, line, trimLead =>
    match findOpen cs with
    | none =>
      let d := if trimLead then trimStart cs else cs
      .ok (dataLexeme d line)
    | some (before, kind, after) =>
      let (strip, after') := match after with
        | '-' :: r => (true, r)
        | '+' :: r => (false, r)
        | r => (false, r)
      let d := if trimLead then trimStart before else before
      let d := if strip then trimEnd d else d
      let lineAfter := line + newlines before
      if kind == '#' then
        match splitAt ['#', '}'] after' with
        | none => .error (syntaxError "unexpected end of comment" lineAfter)
        | some (body, rest) =>
          let trimNext := body.getLast? == some '-'
          return dataLexeme d line ++ (← lexRoot fuel rest (lineAfter + newlines body) trimNext)
      else if kind == '%' then
        match rawOpen after with
        | some (inner, trimInner) =>
          match rawClose inner with
          | none => .error (syntaxError "unexpected end of raw block" lineAfter)
          | some (body, dash, rest, trimNext) =>
            let b := if trimInner then trimStart body else body
            let b := if dash then trimEnd b else b
            let lineBody := lineAfter + newlines (after.take (after.length - inner.length))
            return dataLexeme d line ++ dataLexeme b lineBody ++
              (← lexRoot fuel rest (lineBody + newlines body) trimNext)
        | none =>
          return dataLexeme d line ++ [⟨.blockStart, lineAfter⟩] ++
            (← lexInside fuel after' lineAfter false 0)
      else
        return dataLexeme d line ++ [⟨.varStart, lineAfter⟩] ++
          (← lexInside fuel after' lineAfter true 0)

/-- Lexes the inside of a tag. -/
def lexInside : Nat → List Char → Nat → Bool → Nat → Except Error (List Lexeme)
  | 0, _, _, _, _ => .ok []
  | fuel + 1, cs, line, isVar, depth =>
    let (ws, cs') := cs.span Text.isWhiteSpace
    let line := line + newlines ws
    if cs'.isEmpty then .ok []
    else
      match insideStep cs' isVar depth line with
      | .error e => .error e
      | .ok (.close t rest trim) => return ⟨t, line⟩ :: (← lexRoot fuel rest line trim)
      | .ok (.token t rest n d) =>
        return ⟨t, line⟩ :: (← lexInside fuel rest (line + n) isVar (Int.toNat (depth + d)))

end

/-- The tokens of a template source. -/
def tokenize (src : String) : Except Error (List Lexeme) :=
  let cs := dropFinalNewline src.toList
  lexRoot (2 * cs.length + 2) cs 1 false

end LowRankTuner.Template
