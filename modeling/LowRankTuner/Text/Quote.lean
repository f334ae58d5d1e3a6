/-
  LowRankTuner/Text/Quote.lean
  ============================
  Strings written in double quotes with escapes, the way diagnostics show a string value.

  Quotes and backslashes are escaped, newline, return and tab take their short escapes and
  the null character is `\0`.  A grapheme extender (a combining mark, which would join the
  quote or the character before it) and a character that is not printable are written as
  `\u` with their hexadecimal code point in braces.  Every other character stands for
  itself.
-/
import LowRankTuner.Text.Printable

namespace LowRankTuner.Text

/-- The single quote character. -/
def apostrophe : Char := Char.ofNat 39

/-- A natural in lower-case hexadecimal. -/
def hexText (n : Nat) : String :=
  String.ofList (Nat.toDigits 16 n)

/-- A character as it appears in a quoted string: quotes, backslashes, marks and characters
that are not printable escaped. -/
def escapeQuoted (c : Char) : String :=
  match c with
  | '"' => "\\\""
  | '\\' => "\\\\"
  | '\n' => "\\n"
  | '\r' => "\\r"
  | '\t' => "\\t"
  | c =>
    if c.toNat == 0 then "\\0"
    else if isGraphemeExtend c || !isPrintable c then "\\u\x7b" ++ hexText c.toNat ++ "\x7d"
    else String.singleton c

/-- A string in double quotes with escapes. -/
def quoted (s : String) : String :=
  "\"" ++ String.join (s.toList.map escapeQuoted) ++ "\""

end LowRankTuner.Text
