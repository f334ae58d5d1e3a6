/-
  LowRankTuner/Text/Pattern.lean
  ==============================
  Whether a regular expression can be compiled to a deterministic automaton.

  The syntax is that of the usual Unicode regular expressions: alternation `|`, groups
  `(…)`, `(?:…)` and named groups `(?P<name>…)` or `(?<name>…)`, flag groups `(?imsUuRx)`
  and `(?flags:…)` with `-` negating, repetition `*`, `+`, `?` and `{m}`, `{m,}`,
  `{m,n}`, bracketed classes with ranges, nested classes, ASCII classes `[:name:]` and the
  operators `&&`, `--` and `~~`, and escapes.  A pattern is refused as malformed when

  * a repetition has nothing before it: at the start, after `|` or `(`, or after a flag
    group; a counted repetition is not exactly digits (blanks around a number allowed),
    a comma and digits, and a closing brace, or its bounds are out of order or past
    `2^32 - 1`;
  * a group is left open, closed without being opened, or is a look-around `(?=`, `(?!`,
    `(?<=`, `(?<!`; a flag is unknown, repeated or a dangling `-`, or the flags are empty
    as in `(?)`; a group name is empty, repeated, or not a letter or `_` then letters,
    digits, `_`, `.`, `[` and `]`;
  * a class is left open (a `]` right after the opening, or after `^`, is a literal), a
    range is not between two literals in order, or a class holds an assertion;
  * an escape is not a punctuation character, one of `\a \f \t \n \r \v`, a class
    `\d \s \w \D \S \W`, a property `\pL` or `\p{name}`, a code point `\x`, `\u`, `\U`
    with two, four or eight hex digits or any number in braces naming a Unicode scalar,
    or an assertion `\A \z \b \B \< \>` or `\b{start}`, `\b{end}`, `\b{start-half}`,
    `\b{end-half}`; digits such as `\1` are refused, as is a trailing backslash.

  A well-formed pattern is still refused when it asks for a word boundary, since in the
  Unicode sense a deterministic automaton over bytes cannot decide one.  Every reader
  here consumes at least one character per step and is bounded by a fuel argument that
  the length of its input supplies.
-/
import LowRankTuner.Text.Alphanumeric
import LowRankTuner.Text.Blank

namespace LowRankTuner.Pattern

/-- Why a pattern cannot be compiled to a deterministic automaton. -/
inductive Fault where
  /-- It is not a well-formed pattern. -/
  | malformed
  /-- It asks for a word boundary in the Unicode sense. -/
  | wordBoundary
  deriving DecidableEq, Repr

/-- The words the automaton builder gives for a fault. -/
def Fault.text : Fault → String
  | .malformed => "error building NFA"
  | .wordBoundary =>
    "unsupported regex feature for DFAs: cannot build DFAs for regexes with Unicode " ++
      "word boundaries; switch to ASCII word boundaries, or heuristically enable Unicode " ++
      "word boundaries or use a different regex engine"

/-- What an escape denotes. -/
inductive Escaped where
  /-- One character, by its code point. -/
  | literal (code : Nat)
  /-- A class of characters. -/
  | set
  /-- An assertion about the position; `boundary` when it concerns words. -/
  | assertion (boundary : Bool)
  deriving DecidableEq, Repr

/-- A character that a backslash makes literal: ASCII, neither a letter nor a digit, and
not `<` or `>`, which escape word boundaries. -/
def escapable (c : Char) : Bool :=
  c.toNat < 0x80 && !c.isAlphanum && c != '<' && c != '>'

/-- The value of hex digits, if they all are. -/
def hexValue? (ds : List Char) : Option Nat :=
  ds.foldl (fun acc d => acc.bind fun n =>
    if d.isDigit then some (n * 16 + (d.toNat - 48))
    else if 'a' ≤ d && d ≤ 'f' then some (n * 16 + (d.toNat - 87))
    else if 'A' ≤ d && d ≤ 'F' then some (n * 16 + (d.toNat - 55))
    else none) (some 0)

/-- A code point that is a Unicode scalar value. -/
def isScalar (n : Nat) : Bool := n < 0xD800 || (0xDFFF < n && n ≤ 0x10FFFF)

/-- The literal of hex digits: `count` of them, or any number in braces. -/
def hexEscape (count : Nat) : List Char → Except Fault (Escaped × List Char)
  | '{' :: rest =>
    match rest.dropWhile (· != '}') with
    | _ :: after =>
      match hexValue? (rest.takeWhile (· != '}')) with
      | some n =>
        if (rest.takeWhile (· != '}')).isEmpty || !isScalar n then .error .malformed
        else .ok (.literal n, after)
      | none => .error .malformed
    | [] => .error .malformed
  | cs =>
    let ds := cs.take count
    match hexValue? ds with
    | some n =>
      if ds.length < count || !isScalar n then .error .malformed
      else .ok (.literal n, cs.drop count)
    | none => .error .malformed

/-- The class of a property escape after its `p` or `P`: a general category letter, or a
non-empty name in braces. -/
def propertyEscape : List Char → Except Fault (Escaped × List Char)
  | '{' :: rest =>
    match rest.dropWhile (· != '}') with
    | _ :: after =>
      if (rest.takeWhile (· != '}')).isEmpty then .error .malformed else .ok (.set, after)
    | [] => .error .malformed
  | c :: rest =>
    if "LMNPSZC".toList.contains c.toUpper then .ok (.set, rest) else .error .malformed
  | [] => .error .malformed

/-- A character of the name of a special word boundary. -/
def boundaryNameChar (c : Char) : Bool := c.isAlpha || c == '-'

/-- A word boundary after its `\b`, with the name in braces that may follow it; braces
that do not start with a name character are a repetition, left to be read. -/
def boundaryEscape : List Char → Except Fault (Escaped × List Char)
  | '{' :: rest =>
    match rest with
    | [] => .error .malformed
    | c :: _ =>
      if boundaryNameChar c then
        match rest.dropWhile boundaryNameChar with
        | '}' :: after =>
          if ["start", "end", "start-half", "end-half"].contains
              (String.ofList (rest.takeWhile boundaryNameChar)) then .ok (.assertion true, after)
          else .error .malformed
        | _ => .error .malformed
      else .ok (.assertion true, '{' :: rest)
  | cs => .ok (.assertion true, cs)

/-- What an escape denotes, read after its backslash. -/
def escape : List Char → Except Fault (Escaped × List Char)
  | [] => .error .malformed
  | c :: rest =>
    if escapable c then .ok (.literal c.toNat, rest)
    else match c with
      | 'a' => .ok (.literal 7, rest)
      | 'f' => .ok (.literal 12, rest)
      | 't' => .ok (.literal 9, rest)
      | 'n' => .ok (.literal 10, rest)
      | 'r' => .ok (.literal 13, rest)
      | 'v' => .ok (.literal 11, rest)
      | 'x' => hexEscape 2 rest
      | 'u' => hexEscape 4 rest
      | 'U' => hexEscape 8 rest
      | 'p' | 'P' => propertyEscape rest
      | 'd' | 's' | 'w' | 'D' | 'S' | 'W' => .ok (.set, rest)
      | 'A' | 'z' => .ok (.assertion false, rest)
      | 'B' | '<' | '>' => .ok (.assertion true, rest)
      | 'b' => boundaryEscape rest
      | _ => .error .malformed

/-- The names of the ASCII classes. -/
def asciiClassNames : List String :=
  ["alnum", "alpha", "ascii", "blank", "cntrl", "digit", "graph", "lower", "print", "punct",
    "space", "upper", "word", "xdigit"]

/-- The rest after an ASCII class `[:name:]` or `[:^name:]` whose opening bracket has been
read, if one is there. -/
def asciiClass? : List Char → Option (List Char)
  | ':' :: rest =>
    let rest := match rest with
      | '^' :: more => more
      | more => more
    match rest.dropWhile (· != ':') with
    | ':' :: ']' :: after =>
      if asciiClassNames.contains (String.ofList (rest.takeWhile (· != ':'))) then some after
      else none
    | _ => none
  | _ => none

/-- Past the opening of a class: a caret, then any hyphens as literals, or else a closing
bracket as a literal. -/
def classOpen (cs : List Char) : List Char :=
  let cs := match cs with
    | '^' :: rest => rest
    | rest => rest
  match cs with
  | '-' :: _ => cs.dropWhile (· == '-')
  | ']' :: rest => rest
  | rest => rest

/-- One item of a class: an escape or a literal character. -/
def classItem : List Char → Except Fault (Escaped × List Char)
  | '\\' :: rest => escape rest
  | c :: rest => .ok (.literal c.toNat, rest)
  | [] => .error .malformed

/-- An item of a class standing alone, which may not be an assertion. -/
def alone : Escaped → Except Fault Unit
  | .assertion _ => .error .malformed
  | _ => .ok ()

/-- An item of a class, or a range of two literals in order. -/
def classRange (cs : List Char) : Except Fault (List Char) := do
  let (first, rest) ← classItem cs
  match rest with
  | [] => .error .malformed
  | '-' :: after =>
    match after with
    | ']' :: _ | '-' :: _ => do alone first; .ok rest
    | [] => .error .malformed
    | _ => do
      let (second, rest') ← classItem after
      match first, second with
      | .literal a, .literal b => if a ≤ b then .ok rest' else .error .malformed
      | _, _ => .error .malformed
  | _ => do alone first; .ok rest

/-- The rest after the classes open `depth` deep are closed. -/
def classBody : Nat → Nat → List Char → Except Fault (List Char)
  | 0, _, _ => .error .malformed
  | fuel + 1, depth, cs =>
    match cs with
    | [] => .error .malformed
    | '[' :: rest =>
      match asciiClass? rest with
      | some after => classBody fuel depth after
      | none => classBody fuel (depth + 1) (classOpen rest)
    | ']' :: rest => if depth ≤ 1 then .ok rest else classBody fuel (depth - 1) rest
    | '&' :: '&' :: rest | '-' :: '-' :: rest | '~' :: '~' :: rest => classBody fuel depth rest
    | _ => do classBody fuel depth (← classRange cs)

/-- A decimal of a counted repetition, blanks around it allowed: its value and the rest. -/
def decimal (cs : List Char) : Except Fault (Nat × List Char) :=
  let cs := cs.dropWhile Text.isWhiteSpace
  let ds := cs.takeWhile Char.isDigit
  let n := ds.foldl (fun acc d => acc * 10 + (d.toNat - 48)) 0
  if ds.isEmpty || n ≥ Nat.pow 2 32 then .error .malformed
  else .ok (n, (cs.dropWhile Char.isDigit).dropWhile Text.isWhiteSpace)

/-- The rest after a counted repetition whose opening brace has been read. -/
def counted (cs : List Char) : Except Fault (List Char) := do
  let (m, rest) ← decimal cs
  match rest with
  | '}' :: after => .ok after
  | ',' :: '}' :: after => .ok after
  | ',' :: more@(_ :: _) => do
    let (n, rest') ← decimal more
    match rest' with
    | '}' :: after => if m ≤ n then .ok after else .error .malformed
    | _ => .error .malformed
  | _ => .error .malformed

/-- The flags of a group up to the colon or parenthesis that ends them: those seen, the
character that ends them, and the rest. -/
def flags (seen : List Char) (negation : Bool) : List Char →
    Except Fault (List Char × Char × List Char)
  | [] => .error .malformed
  | c :: rest =>
    if c == ':' || c == ')' then
      if negation then .error .malformed else .ok (seen, c, rest)
    else if seen.contains c then .error .malformed
    else if c == '-' then flags (c :: seen) true rest
    else if "imsUuRx".toList.contains c then flags (c :: seen) false rest
    else .error .malformed

/-- A character of a group name, the first or a later one. -/
def nameChar (first : Bool) (c : Char) : Bool :=
  c == '_' || (if first then Text.isAlphabetic c
    else c == '.' || c == '[' || c == ']' || Text.isAlphanumeric c)

/-- The name of a group up to its closing `>`, and the rest. -/
def groupName (cs : List Char) : Except Fault (String × List Char) :=
  let name := cs.takeWhile (· != '>')
  match cs.dropWhile (· != '>'), name with
  | _ :: after, c :: more =>
    if nameChar true c && more.all (nameChar false) then .ok (String.ofList name, after)
    else .error .malformed
  | _, _ => .error .malformed

/-- What the reader of a pattern keeps between items. -/
structure Reading where
  /-- The groups opened and not yet closed. -/
  depth : Nat := 0
  /-- The last item read may be repeated. -/
  repeatable : Bool := false
  /-- The names of the named groups so far. -/
  names : List String := []
  /-- A word boundary has been asked for. -/
  boundary : Bool := false

/-- The reading after a group opening, read after its parenthesis: a group, a named
group, or flags for the rest of the enclosing group. -/
def openGroup (r : Reading) : List Char → Except Fault (Reading × List Char)
  | '?' :: '=' :: _ | '?' :: '!' :: _ | '?' :: '<' :: '=' :: _ | '?' :: '<' :: '!' :: _ =>
    .error .malformed
  | '?' :: 'P' :: '<' :: rest | '?' :: '<' :: rest => do
    let (name, after) ← groupName rest
    if r.names.contains name then .error .malformed
    else .ok ({ r with depth := r.depth + 1, repeatable := false, names := name :: r.names }, after)
  | '?' :: rest => do
    let (seen, close, after) ← flags [] false rest
    if close == ')' then
      if seen.isEmpty then .error .malformed else .ok ({ r with repeatable := false }, after)
    else .ok ({ r with depth := r.depth + 1, repeatable := false }, after)
  | cs => .ok ({ r with depth := r.depth + 1, repeatable := false }, cs)

/-- The reading at the end of a pattern, item by item. -/
def readItems : Nat → Reading → List Char → Except Fault Reading
  | 0, _, _ => .error .malformed
  | _ + 1, r, [] => if r.depth == 0 then .ok r else .error .malformed
  | fuel + 1, r, c :: rest =>
    match c with
    | '(' => do
      let (r', after) ← openGroup r rest
      readItems fuel r' after
    | ')' =>
      if r.depth == 0 then .error .malformed
      else readItems fuel { r with depth := r.depth - 1, repeatable := true } rest
    | '|' => readItems fuel { r with repeatable := false } rest
    | '[' => do
      let after ← classBody (rest.length + 1) 1 (classOpen rest)
      readItems fuel { r with repeatable := true } after
    | '?' | '*' | '+' => if r.repeatable then readItems fuel r rest else .error .malformed
    | '{' => if r.repeatable then do readItems fuel r (← counted rest) else .error .malformed
    | '\\' => do
      let (e, after) ← escape rest
      readItems fuel { r with repeatable := true, boundary := r.boundary || e == .assertion true }
        after
    | _ => readItems fuel { r with repeatable := true } rest

/-- Whether a pattern can be compiled to a deterministic automaton, and why not. -/
def check (p : String) : Except Fault Unit := do
  let r ← readItems (p.length + 1) {} p.toList
  if r.boundary then .error .wordBoundary else .ok ()

example : check "a[b-d]*(?P<x>e|f){2,3}" = .ok () := by rfl
example : check "[" = .error .malformed := by rfl
example : check "*a" = .error .malformed := by rfl

end LowRankTuner.Pattern
