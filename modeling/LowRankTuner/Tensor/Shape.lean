/-!
# Shapes and shape faults

A shape lists a tensor's dimensions, outermost first, and its elements lie in row-major
order: the last index varies fastest.  `Shape.offset` reads the position of an element of
one shape in the data of another layout given by strides, which is all that broadcasting,
transposing and narrowing need.

`ShapeFault` is why a tensor operation refuses its operands; `ShapeFault.message` gives the
words, with shapes written as bracketed lists.
-/

namespace LowRankTuner

/-- The dimensions of a tensor, outermost first. -/
abbrev Shape := List Nat

namespace Shape

/-- The number of elements of a shape. -/
def numel (s : Shape) : Nat := s.foldl (· * ·) 1

/-- The row-major strides of a shape: each dimension's stride is the product of the
dimensions after it. -/
def strides (s : Shape) : List Nat :=
  (s.foldr (fun d (acc : List Nat × Nat) => (acc.2 :: acc.1, acc.2 * d)) ([], 1)).1

/-- The offset, in a layout with the given strides, of the element at row-major position
`i` of shape `dims`. -/
def offset (dims strides : List Nat) (i : Nat) : Nat :=
  ((dims.zip strides).foldr
    (fun (ds : Nat × Nat) (acc : Nat × Nat) => (acc.1 + (acc.2 % ds.1) * ds.2, acc.2 / ds.1))
    (0, i)).1

/-- The strides by which a tensor of shape `src` is read as shape `dst` when broadcast:
dimensions are matched from the right, and a missing or unit source dimension is read with
stride zero. -/
def broadcastStrides (src dst : Shape) : List Nat :=
  let pad := dst.length - src.length
  let own := (src.zip (strides src)).map fun (d, st) => if d == 1 then 0 else st
  List.replicate pad 0 ++ own

/-- The shape two operands broadcast to, matched from the right: equal dimensions stay,
a unit dimension takes the other's; `none` when two dimensions differ and neither is one. -/
def broadcast (lhs rhs : Shape) : Option Shape :=
  let n := max lhs.length rhs.length
  let l := List.replicate (n - lhs.length) 1 ++ lhs
  let r := List.replicate (n - rhs.length) 1 ++ rhs
  (l.zip r).mapM fun (a, b) =>
    if a == b then some a else if a == 1 then some b else if b == 1 then some a else none

/-- The shape with dimension `i` replaced. -/
def setDim (s : Shape) (i d : Nat) : Shape := s.set i d

/-- The text of a shape: its dimensions in brackets, separated by commas. -/
def text (s : Shape) : String := "[" ++ ", ".intercalate (s.map toString) ++ "]"

end Shape

/-- Why a tensor operation refuses its operands. -/
inductive ShapeFault where
  /-- Two shapes that the operation cannot combine. -/
  | mismatch (op : String) (lhs rhs : Shape)
  /-- A tensor of the wrong number of dimensions. -/
  | rank (expected got : Nat) (shape : Shape)
  /-- An index past the end of the dimension it selects from. -/
  | index (op : String) (index size : Nat)
  /-- A slice that does not fit its dimension. -/
  | narrow (reason : String) (shape : Shape) (dim start len : Nat)
  /-- A maximum over no elements. -/
  | emptyReduce
  /-- A dimension the tensor does not have. -/
  | dimension (op : String) (dim : Nat) (shape : Shape)
  deriving DecidableEq, Repr

/-- The text of a shape fault. -/
def ShapeFault.message : ShapeFault → String
  | .mismatch op l r => "shape mismatch in " ++ op ++ ", lhs: " ++ l.text ++ ", rhs: " ++ r.text
  | .rank e g s => "unexpected rank, expected: " ++ toString e ++ ", got: " ++ toString g ++
      " (" ++ s.text ++ ")"
  | .index op i n => op ++ " invalid index " ++ toString i ++ " with dim size " ++ toString n
  | .narrow why s d st l => "narrow invalid args " ++ why ++ ": " ++ s.text ++ ", dim: " ++
      toString d ++ ", start: " ++ toString st ++ ", len:" ++ toString l
  | .emptyReduce => "empty tensor for reduce"
  | .dimension op d s => op ++ ": dimension index " ++ toString d ++ " out of range for shape " ++
      s.text

/-- Why the slice `start, …, start + len - 1` along dimension `d` of a shape does not fit,
if it does not. -/
def Shape.narrowFault? (s : Shape) (d start len : Nat) : Option ShapeFault :=
  if d ≥ s.length then some (.dimension "narrow" d s)
  else if start > s.getD d 0 then some (.narrow "start > dim_len" s d start len)
  else if start + len > s.getD d 0 then some (.narrow "start + len > dim_len" s d start len)
  else none

end LowRankTuner
