/-
  LowRankTuner/Text/Similarity.lean
  =================================
  The Jaro similarity of two texts, a number from 0 to 1.

  Two characters match when they are equal and no further apart than half the longer
  length less one; each character of the second text matches at most once, the first free
  one in the window.  With `m` matches and `t` half the number of places where the matched
  characters, read in order in each text, disagree, the similarity is
  `(m / |a| + m / |b| + (m - t) / m) / 3`, computed in doubles in that order.  Two empty
  texts are alike (1), and an empty text is unlike any other (0).
-/
namespace LowRankTuner.Text

/-- The matching pass: for each character of `a` in turn, the first unmatched equal
character of `b` within `range` of its place.  Returns which places of `a` and of `b`
matched. -/
def jaroMatches (a b : Array Char) (range : Nat) : Array Bool × Array Bool :=
  (List.range a.size).foldl (fun (af, bf) i =>
    let lo := i - range
    let hi := min b.size (i + range + 1)
    let c := a[i]?
    match (List.range' lo (hi - lo)).find? (fun j => b[j]? == c && !bf.getD j true) with
    | some j => (af.set! i true, bf.set! j true)
    | none => (af, bf)) (Array.replicate a.size false, Array.replicate b.size false)

/-- The characters of a text at the places marked. -/
def markedChars (cs : Array Char) (marks : Array Bool) : List Char :=
  (cs.toList.zip marks.toList).filterMap fun (c, m) => if m then some c else none

/-- The Jaro similarity of two texts, character by character. -/
def jaro (a b : String) : Float :=
  let xs := a.toList.toArray
  let ys := b.toList.toArray
  if xs.size == 0 && ys.size == 0 then 1.0
  else if xs.size == 0 || ys.size == 0 then 0.0
  else
    let range := max xs.size ys.size / 2 - 1
    let (af, bf) := jaroMatches xs ys range
    let left := markedChars xs af
    let right := markedChars ys bf
    let m := left.length
    let t := ((left.zip right).filter fun (p, q) => p != q).length / 2
    if m == 0 then 0.0
    else
      let mf := m.toFloat
      (mf / xs.size.toFloat + mf / ys.size.toFloat + (m - t).toFloat / mf) / 3.0

end LowRankTuner.Text
