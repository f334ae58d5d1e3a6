/-
  LowRankTuner/Text/Lines.lean
  ============================
  Splitting a text into lines.

  A line ends at a newline; a carriage return directly before that newline belongs to the
  line ending, and a final newline ends the last line rather than starting an empty one.
  So `"a\r\nb\n"` has the lines `a` and `b`, and `"a\r"` has the one line `a\r`.
-/
namespace LowRankTuner.Text

/-- Drops one carriage return at the end of a line. -/
def dropReturn (line : List Char) : List Char :=
  match line.getLast? with
  | some '\r' => line.dropLast
  | _ => line

/-- The lines of a list of characters, accumulating the current line in reverse. -/
def linesOf : List Char → List Char → List (List Char)
  | [], [] => []
  | [], cur => [cur.reverse]
  | '\n' :: rest, cur => dropReturn cur.reverse :: linesOf rest []
  | c :: rest, cur => linesOf rest (c :: cur)

/-- The lines of a text. -/
def lines (s : String) : List String := (linesOf s.toList []).map String.ofList

end LowRankTuner.Text
