/-
  LowRankTuner/Dataset/Example.lean
  =================================
  Fixed-length training sequences.

  A sequence of token ids is cut to the maximum length on the right and then padded on the
  right with the padding id, so every example has exactly the maximum length.  The
  attention mask marks the real tokens with 1 and the padding with 0; the labels are the
  ids themselves.  Padding is kept out of the loss only when examples are stacked into a
  batch, where a label under a zero mask becomes the ignored label.
-/
namespace LowRankTuner

/-- The label value the loss skips. -/
def ignoreIndex : Int := -100

/-- One model-ready sequence; the three lists have the maximum length. -/
structure TokenizedExample where
  inputIds : List Nat
  attentionMask : List Nat
  labels : List Int
  deriving DecidableEq, Repr

namespace TokenizedExample

/-- Cuts the ids to `maxLength`, then pads them with `padTokenId` up to it. -/
def ofTokenIds (ids : List Nat) (maxLength padTokenId : Nat) : TokenizedExample :=
  let kept := ids.take maxLength
  let padding := maxLength - kept.length
  let inputIds := kept ++ List.replicate padding padTokenId
  { inputIds := inputIds
    attentionMask := List.replicate kept.length 1 ++ List.replicate padding 0
    labels := inputIds.map Int.ofNat }

/-- The sequence length. -/
def len (e : TokenizedExample) : Nat := e.inputIds.length

/-- Whether the sequence is empty. -/
def isEmpty (e : TokenizedExample) : Bool := e.inputIds.isEmpty

/-- The number of positions that are not padding. -/
def realTokens (e : TokenizedExample) : Nat := (e.attentionMask.filter (· == 1)).length

/-- The labels with the padding positions ignored. -/
def maskedLabels (e : TokenizedExample) : List Int :=
  (e.labels.zip e.attentionMask).map (fun (l, m) => if m == 1 then l else ignoreIndex)

end TokenizedExample

/-- The tensors of one micro-batch, each `rows × cols`, stored row by row. -/
structure Batch where
  rows : Nat
  cols : Nat
  inputIds : List Nat
  attentionMask : List Nat
  labels : List Int
  deriving DecidableEq, Repr

/-- The rows of `cols` columns each of a list stored row by row. -/
def rowsOf {α : Type} (rows cols : Nat) (xs : List α) : List (List α) :=
  (List.range rows).map fun r => (xs.drop (r * cols)).take cols

namespace Batch

/-- The token ids, row by row. -/
def idRows (b : Batch) : List (List Nat) := rowsOf b.rows b.cols b.inputIds

/-- The attention mask, row by row. -/
def maskRows (b : Batch) : List (List Nat) := rowsOf b.rows b.cols b.attentionMask

/-- The labels, row by row. -/
def labelRows (b : Batch) : List (List Int) := rowsOf b.rows b.cols b.labels

end Batch

end LowRankTuner
