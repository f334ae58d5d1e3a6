/-
  LowRankTuner/Text/Search.lean
  =============================
  Finding, splitting at and replacing occurrences of a pattern in text.

  Occurrences are found left to right and do not overlap.  The empty pattern occurs at
  every boundary between characters and at both ends, so splitting `abc` at it gives
  `""`, `a`, `b`, `c`, `""`, and replacing it puts the replacement around every
  character.  A split into at most `n` pieces stops after `n - 1` occurrences and leaves
  the rest of the text as the last piece.
-/
namespace LowRankTuner.Text

/-- The pattern occurs in the text. -/
def occursIn (pat : List Char) : List Char → Bool
  | [] => pat.isEmpty
  | c :: rest => pat.isPrefixOf (c :: rest) || occursIn pat rest

/-- The text before the first occurrence of a non-empty pattern, and the text after it. -/
def breakOn (pat : List Char) : List Char → Option (List Char × List Char)
  | [] => none
  | c :: rest =>
    if pat.isPrefixOf (c :: rest) then some ([], (c :: rest).drop pat.length)
    else (breakOn pat rest).map fun (b, a) => (c :: b, a)

/-- At most `n` pieces of a text split at a non-empty pattern; fuel bounds the pieces. -/
def piecesUpTo (pat : List Char) : Nat → Option Nat → List Char → List (List Char)
  | 0, _, s => [s]
  | fuel + 1, limit, s =>
    if limit == some 1 then [s]
    else
      match breakOn pat s with
      | some (before, after) => before :: piecesUpTo pat fuel (limit.map (· - 1)) after
      | none => [s]

/-- The pieces of a text split at the empty pattern, at most `limit` of them. -/
def charPieces (limit : Option Nat) (s : List Char) : List (List Char) :=
  let all := [] :: s.map (fun c => [c]) ++ [[]]
  match limit with
  | none => all
  | some n =>
    if all.length ≤ n then all
    else (all.take (n - 1)) ++ [s.drop (n - 2)]

/-- The pieces of a text split at a pattern, at most `limit` of them when given
(`some 0` gives none). -/
def splitPieces (pat s : List Char) (limit : Option Nat := none) : List (List Char) :=
  if limit == some 0 then []
  else if pat.isEmpty then charPieces limit s
  else piecesUpTo pat (s.length + 1) limit s

/-- The pieces of a string split at a pattern. -/
def splitText (s pat : String) (limit : Option Nat := none) : List String :=
  (splitPieces pat.toList s.toList limit).map String.ofList

/-- A text with the first `count` occurrences of a pattern replaced, all of them when no
count is given. -/
def replaceText (s pat rep : String) (count : Option Nat := none) : String :=
  let p := pat.toList
  if p.isEmpty then
    let cs := s.toList
    let n := count.getD (cs.length + 1)
    let marked := (cs.zipIdx.map fun (c, i) => (if i < n then rep else "") ++ c.toString)
    String.join marked ++ (if cs.length < n then rep else "")
  else
    let limit := count.map (· + 1)
    rep.intercalate (splitText s pat limit)

/-- The words of a text: the runs between white space. -/
def words (isBlank : Char → Bool) (s : String) : List String :=
  ((s.toList.splitBy fun a b => isBlank a == isBlank b).filter fun w =>
    !(w.head?.map isBlank).getD true).map String.ofList

/-- At most `n` pieces of a text split at runs of blanks: blanks before the first word
are skipped, each piece but the last is a word, and the last piece is the rest of the
text from its first word on, blanks inside and at its end kept.  A text of blanks only has
no pieces. -/
def splitAtBlanks (isBlank : Char → Bool) (n : Nat) (s : String) : List String :=
  let rec go : Nat → List Char → List String
    | _, [] => []
    | 0, cs => [String.ofList cs]
    | k + 1, cs =>
      let (w, rest) := cs.span (!isBlank ·)
      String.ofList w :: go k (rest.dropWhile isBlank)
  if n == 0 then [] else go (n - 1) (s.toList.dropWhile isBlank)

example : splitText "abc" "" = ["", "a", "b", "c", ""] := by decide
example : replaceText "abc" "" "-" = "-a-b-c-" := by decide
example : splitText "a b c" " " (some 2) = ["a", "b c"] := by decide

end LowRankTuner.Text
