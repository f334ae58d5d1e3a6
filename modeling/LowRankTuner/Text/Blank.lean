/-
  LowRankTuner/Text/Blank.lean
  ============================
  The Unicode `White_Space` characters, and trimming them.

  `isWhiteSpace` is the `White_Space` property of Unicode: the ASCII blanks and controls
  U+0009–U+000D, the space, U+0085, the no-break space, the Ogham space mark, the spaces
  U+2000–U+200A, the line and paragraph separators, the narrow no-break space, the
  medium mathematical space and the ideographic space.  Trimming removes such characters
  at both ends and nothing else.
-/
namespace LowRankTuner.Text

/-- The Unicode `White_Space` property. -/
def isWhiteSpace (c : Char) : Bool :=
  let n := c.toNat
  (9 ≤ n && n ≤ 13) || n == 32 || n == 0x85 || n == 0xA0 || n == 0x1680 ||
    (0x2000 ≤ n && n ≤ 0x200A) || n == 0x2028 || n == 0x2029 || n == 0x202F ||
    n == 0x205F || n == 0x3000

/-- The characters with white space removed at both ends. -/
def trimChars (cs : List Char) : List Char :=
  ((cs.dropWhile isWhiteSpace).reverse.dropWhile isWhiteSpace).reverse

/-- A string with white space removed at both ends. -/
def trim (s : String) : String := String.ofList (trimChars s.toList)

/-- A string that is empty once trimmed. -/
def isBlank (s : String) : Bool := s.toList.all isWhiteSpace

end LowRankTuner.Text
