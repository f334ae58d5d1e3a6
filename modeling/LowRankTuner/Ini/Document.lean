/-
  LowRankTuner/Ini/Document.lean
  ==============================
  Reading INI text: sections of keys with text values.

  A document is read character by character.  Blanks between items are skipped.  A `[`
  starts a section header, which runs to the next `]` (lines included) and names the
  section, trimmed; the keys after it belong to it until the next header, and keys before
  any header belong to the unnamed section.  A header given twice starts a second section
  of the same name.  Any other text is a key, which runs to the next `=` or `:`, lines
  included, and is trimmed; after the `=` or `:` the value runs to the end of the line and
  is trimmed.  A value may be quoted with `"` or `'`, the text after the closing quote up
  to the end of the line then following it.  In keys, headers and values a backslash
  escapes: `\0`, `\a`, `\b`, `\t`, `\r`, `\n` stand for their control characters, a
  backslash before a line break joins the lines, `\x` with four hex digits is a code
  point, and any other character stands for itself.

  `;` and `#` start a comment to the end of the line, but only in the first column: one
  anywhere else is refused, so a value holds any `;` or `#` written after it.  The other
  faults are an `=` or `:` with no key before it, a bad `\x` escape, and text that ends
  before a header, key, quote or escape is closed; each is placed at the line and column
  of the character the reader stood on, counted from one, a line break belonging to the
  line it ends.
-/
import LowRankTuner.Text.Blank

namespace LowRankTuner.Ini

/-- A fault of INI text: the line and column it was found at, counted from one. -/
structure Error where
  line : Nat
  column : Nat
  message : String

/-- The words of a fault: its place, then what is wrong. -/
def Error.text (e : Error) : String :=
  toString e.line ++ ":" ++ toString e.column ++ " " ++ e.message

/-- A section: its name, none for the keys before any header, and its keys with their
values in order. -/
structure Section where
  name : Option String
  entries : List (String × String)

/-- The reader's place: the characters from the current one on, and the current one's
line, counted from zero, and column, counted from one (zero for a line break). -/
structure Cursor where
  rest : List Char
  line : Nat
  column : Nat

namespace Cursor

/-- The current character, none at the end. -/
def current (c : Cursor) : Option Char := c.rest.head?

/-- The place after the current character. -/
def bump (c : Cursor) : Cursor :=
  match c.rest with
  | [] => c
  | _ :: rest =>
    match rest with
    | '\n' :: _ => ⟨rest, c.line + 1, 0⟩
    | _ :: _ => ⟨rest, c.line, c.column + 1⟩
    | [] => ⟨rest, c.line, c.column⟩

/-- The place at the start of some text. -/
def start (cs : List Char) : Cursor := bump ⟨' ' :: cs, 0, 0⟩

/-- A fault at the current character. -/
def fail {α : Type} (c : Cursor) (message : String) : Except Error α :=
  .error ⟨c.line + 1, c.column + 1, message⟩

end Cursor

/-- A stop of a scan: a character, or the end of the text. -/
abbrev Stop := Option Char

/-- A stop as a message shows it. -/
def stopText : Stop → String
  | none => "None"
  | some c =>
    let shown := match c with
      | '\n' => "\\n"
      | '\r' => "\\r"
      | '\t' => "\\t"
      | '\\' => "\\\\"
      | c => if c.toNat == 39 then "\\" ++ c.toString else c.toString
    "Some(" ++ (Char.ofNat 39).toString ++ shown ++ (Char.ofNat 39).toString ++ ")"

/-- The fault of text that ends before one of some stops. -/
def endedBefore (stops : List Stop) : String :=
  "expecting \"[" ++ ", ".intercalate (stops.map stopText) ++ "]\" but found EOF."

/-- The value of four hex digits, a `+` allowed in front. -/
def hexValue? (ds : List Char) : Option Nat :=
  let ds := match ds with
    | '+' :: more => more
    | more => more
  if ds.isEmpty then none
  else ds.foldl (fun acc d => acc.bind fun n =>
    if d.isDigit then some (n * 16 + (d.toNat - 48))
    else if 'a' ≤ d && d ≤ 'f' then some (n * 16 + (d.toNat - 87))
    else if 'A' ≤ d && d ≤ 'F' then some (n * 16 + (d.toNat - 55))
    else none) (some 0)

/-- The four characters of a `\x` escape, the cursor on the `x`; a backslash among them
must start a line break, and is kept. -/
def hexDigits (stops : List Stop) : Nat → Cursor → List Char → Except Error (List Char × Cursor)
  | 0, c, acc => .ok (acc.reverse, c)
  | n + 1, c, acc =>
    let c := c.bump
    match c.current with
    | none => c.fail (endedBefore stops)
    | some '\\' =>
      let c' := c.bump
      if c'.current != some '\n' then c'.fail "expecting \"\\\\\\n\" but found a character."
      else hexDigits stops n c' ('\\' :: acc)
    | some ch => hexDigits stops n c (ch :: acc)

/-- The text up to the first of some stops, escapes read; the cursor is left on the stop.
At most `fuel` characters are read. -/
def untilStop (stops : List Stop) : Nat → Cursor → List Char → Except Error (String × Cursor)
  | 0, c, acc => .ok (String.ofList acc.reverse, c)
  | fuel + 1, c, acc =>
    if stops.contains c.current then .ok (String.ofList acc.reverse, c)
    else match c.current with
      | none => c.fail (endedBefore stops)
      | some '\\' =>
        let c := c.bump
        match c.current with
        | none => c.fail (endedBefore stops)
        | some e =>
          let plain := fun (ch : Char) => untilStop stops fuel c.bump (ch :: acc)
          match e with
          | '0' => plain (Char.ofNat 0)
          | 'a' => plain (Char.ofNat 7)
          | 'b' => plain (Char.ofNat 8)
          | 't' => plain '\t'
          | 'r' => plain '\r'
          | 'n' => plain '\n'
          | '\n' => untilStop stops fuel c.bump acc
          | 'x' => do
            let (ds, c') ← hexDigits stops 4 c []
            match hexValue? ds with
            | some n =>
              if n < 0xD800 || (0xDFFF < n && n ≤ 0x10FFFF) then
                untilStop stops fuel c'.bump (Char.ofNat n :: acc)
              else c'.fail "unknown character in \\xHH form"
            | none => c'.fail "unknown character in \\xHH form"
          | e => plain e
      | some ch => untilStop stops fuel c.bump (ch :: acc)

/-- The place after the blanks at the current character, line breaks included. -/
def skipBlanks : Nat → Cursor → Cursor
  | 0, c => c
  | fuel + 1, c =>
    match c.current with
    | some ch => if Text.isWhiteSpace ch then skipBlanks fuel c.bump else c
    | none => c

/-- The place after the blanks at the current character that are not line breaks. -/
def skipLineBlanks : Nat → Cursor → Cursor
  | 0, c => c
  | fuel + 1, c =>
    match c.current with
    | some ch =>
      if ch == '\t' || (Text.isWhiteSpace ch && ch != '\n' && ch != '\r') then
        skipLineBlanks fuel c.bump
      else c
    | none => c

/-- The place after a comment: past the line break that ends it. -/
def skipComment : Nat → Cursor → Cursor
  | 0, c => c
  | fuel + 1, c =>
    match c.current with
    | some '\n' => c.bump
    | some _ => skipComment fuel c.bump
    | none => c

/-- The stops that end a line. -/
def lineEnd : List Stop := [some '\n', some '\r', none]

/-- A value after its `=` or `:`, the cursor on that character; the cursor is left at the
end of the line. -/
def value (fuel : Nat) (c : Cursor) : Except Error (String × Cursor) :=
  let c := skipLineBlanks fuel c.bump
  match c.current with
  | none => .ok ("", c)
  | some q =>
    if q == '"' || q.toNat == 39 then do
      let (inside, c) ← untilStop [some q] fuel c.bump []
      let (after, c) ← untilStop lineEnd fuel c.bump []
      pure (inside ++ after, c)
    else untilStop lineEnd fuel c []

/-- Sections with a key and value put into the last section of a name, or into a new
section of that name when there is none. -/
def addEntry (ss : List Section) (name : Option String) (k v : String) : List Section :=
  let rec go : List Section → Option (List Section)
    | [] => none
    | s :: rest =>
      if s.name == name then some ({ s with entries := s.entries ++ [(k, v)] } :: rest)
      else (go rest).map (s :: ·)
  match go ss.reverse with
  | some rev => rev.reverse
  | none => ss ++ [⟨name, [(k, v)]⟩]

/-- The sections of a document, read from the cursor on, with the sections so far, the
current section's name and the key waiting for its value. -/
def readItems : Nat → Cursor → List Section → Option String → String →
    Except Error (List Section)
  | 0, _, ss, _, _ => .ok ss
  | fuel + 1, c, ss, current, key =>
    match c.current with
    | none => .ok ss
    | some ch =>
      if ch == ';' || ch == '#' then
        if c.column > 1 then c.fail "doesn't support inline comment"
        else readItems fuel (skipBlanks fuel (skipComment fuel c)) ss current key
      else if ch == '[' then do
        let (name, c) ← untilStop [some ']'] fuel c.bump []
        let name := Text.trim name
        readItems fuel (skipBlanks fuel c.bump) (ss ++ [⟨some name, []⟩]) (some name) key
      else if ch == '=' || ch == ':' then
        if key.isEmpty then c.fail "missing key"
        else do
          let (v, c) ← value fuel c
          readItems fuel (skipBlanks fuel c) (addEntry ss current key (Text.trim v)) current ""
      else do
        let (k, c) ← untilStop [some '=', some ':'] fuel c []
        readItems fuel (skipBlanks fuel c) ss current (Text.trim k)

/-- The sections of INI text, in order. -/
def parse (text : String) : Except Error (List Section) :=
  let cs := text.toList
  let fuel := 4 * cs.length + 4
  readItems fuel (skipBlanks fuel (Cursor.start cs)) [] none ""

example : (parse "[lora]\nrank=5 ; kept\n").toOption.map (·.map (·.entries)) =
    some [[("rank", "5 ; kept")]] := by rfl
example : (parse "  ; no").toOption.isNone := by rfl

end LowRankTuner.Ini
