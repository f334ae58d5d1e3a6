import LowRankTuner.Tensor.Element
import LowRankTuner.Tensor.Shape
/-!
# Tensors

A tensor is a shape, an element format and its elements in row-major order.  Every
operation builds its result array from a function of the position (`Tensor.generate`), so
that an element of a result is a closed formula of the operands' elements.

The arithmetic fixes the order of rounding, since that order is visible in the results:

* an element of a matrix product is the chain `acc ← a_k · b_k + acc` from `acc = 0` and
  `k = 0` upwards, one fused multiply-add per step; a product whose inner dimension is one
  or two is an outer product instead, each step a rounded product then a rounded sum;
* a sum over dimensions adds the summed elements one at a time, in row-major order,
  to a zero;
* a maximum starts from the first element and moves to a later one only when that one is
  greater, so a NaN is kept only when it comes first;
* half-precision results are single-precision results rounded once more.

The operations refuse mismatched operands with a `ShapeFault`, checked in the order the
faults are reported.
-/

namespace LowRankTuner

/-- Elements of a format laid out in row-major order over a shape. -/
structure Tensor where
  dtype : DType
  shape : Shape
  data : Array Float32

namespace Tensor

/-! ## Building and reading -/

/-- The tensor whose element at row-major position `i` is `f i`. -/
def generate (dtype : DType) (shape : Shape) (f : Nat → Float32) : Tensor :=
  ⟨dtype, shape, Array.ofFn (n := shape.numel) fun i => f i.val⟩

/-- The tensor with every element `v`. -/
def full (dtype : DType) (shape : Shape) (v : Float32) : Tensor := generate dtype shape fun _ => v

/-- The tensor of zeros. -/
def zeros (dtype : DType) (shape : Shape) : Tensor := full dtype shape 0

/-- The number of elements. -/
def numel (t : Tensor) : Nat := t.shape.numel

/-- The number of dimensions. -/
def rank (t : Tensor) : Nat := t.shape.length

/-- The element at row-major position `i`, zero past the end. -/
def get (t : Tensor) (i : Nat) : Float32 := t.data.getD i 0

/-- Dimension `i`, zero when there is none. -/
def dim (t : Tensor) (i : Nat) : Nat := t.shape.getD i 0

/-- The tensor of shape `dims` whose element at position `i` is the element of `t` at
`base + offset`, for the offset of `i` under the given strides. -/
def readAs (t : Tensor) (dims strides : List Nat) (base : Nat) : Tensor :=
  generate t.dtype dims fun i => t.get (base + Shape.offset dims strides i)

/-! ## Element-wise operations -/

/-- Applies `f` to every element. -/
def map (t : Tensor) (f : Float32 → Float32) : Tensor := { t with data := t.data.map f }

/-- Combines the elements at equal positions of two tensors of one size. -/
def zipWith (f : Float32 → Float32 → Float32) (a b : Tensor) : Tensor :=
  generate a.dtype a.shape fun i => f (a.get i) (b.get i)

/-- A binary operation of the format on two tensors of one shape; `op` names it when the
shapes differ. -/
def binary (op : String) (f : Float32 → Float32 → Float32) (a b : Tensor) : Except ShapeFault Tensor :=
  if a.shape == b.shape then .ok (zipWith (a.dtype.lift₂ f) a b)
  else .error (.mismatch op a.shape b.shape)

/-- `a + b` element-wise. -/
def add (a b : Tensor) : Except ShapeFault Tensor := binary "add" (· + ·) a b

/-- `a - b` element-wise. -/
def sub (a b : Tensor) : Except ShapeFault Tensor := binary "sub" (· - ·) a b

/-- `a · b` element-wise. -/
def mul (a b : Tensor) : Except ShapeFault Tensor := binary "mul" (· * ·) a b

/-- `a / b` element-wise. -/
def div (a b : Tensor) : Except ShapeFault Tensor := binary "div" (· / ·) a b

/-- A unary operation of the format. -/
def unary (f : Float32 → Float32) (t : Tensor) : Tensor := t.map (t.dtype.lift f)

/-- `v · mul + add` on every element, both constants rounded to the format first. -/
def affine (t : Tensor) (mul add : Float) : Tensor := t.map (t.dtype.affine mul add)

/-- The tensor in another format: every element rounded to it. -/
def convert (t : Tensor) (d : DType) : Tensor :=
  if t.dtype == d then t else { t.map d.round with dtype := d }

/-- One where the elements at a position are equal, zero elsewhere, in the format of `a`. -/
def equalMask (a b : Tensor) : Tensor := zipWith (fun x y => if x == y then 1 else 0) a b

/-! ## Shape changes -/

/-- The same elements under another shape with as many elements. -/
def reshape (t : Tensor) (s : Shape) : Except ShapeFault Tensor :=
  if s.numel == t.numel then .ok { t with shape := s }
  else .error (.mismatch "reshape" t.shape s)

/-- The tensor repeated along new leading dimensions and along its unit dimensions, to a
shape it broadcasts to. -/
def broadcastAs (t : Tensor) (s : Shape) : Tensor :=
  t.readAs s (Shape.broadcastStrides t.shape s) 0

/-- A binary operation on two tensors brought to their common broadcast shape; `op` names
it when they have none. -/
def broadcastBinary (op : String) (f : Float32 → Float32 → Float32) (a b : Tensor) :
    Except ShapeFault Tensor :=
  match Shape.broadcast a.shape b.shape with
  | some s => .ok (zipWith (a.dtype.lift₂ f) (a.broadcastAs s) (b.broadcastAs s))
  | none => .error (.mismatch op a.shape b.shape)

/-- The list with entries `i` and `j` exchanged. -/
def swapEntries (l : List Nat) (i j : Nat) : List Nat := (l.set i (l.getD j 0)).set j (l.getD i 0)

/-- The tensor with dimensions `i` and `j` exchanged. -/
def transpose (t : Tensor) (i j : Nat) : Tensor :=
  t.readAs (swapEntries t.shape i j) (swapEntries (Shape.strides t.shape) i j) 0

/-- The elements `start, …, start + len - 1` along dimension `d`. -/
def narrow (t : Tensor) (d start len : Nat) : Except ShapeFault Tensor :=
  match t.shape.narrowFault? d start len with
  | some e => .error e
  | none =>
    let st := Shape.strides t.shape
    .ok (t.readAs (t.shape.set d len) st (start * st.getD d 0))

/-- Tensors that agree outside dimension `d`, joined along it in order. -/
def cat (parts : List Tensor) (d : Nat) : Tensor :=
  match parts with
  | [] => zeros .f32 []
  | p :: _ =>
    let outer := Shape.numel (p.shape.take d)
    let block := fun (q : Tensor) => Shape.numel (q.shape.drop d)
    let data := Nat.fold outer (fun o _ acc =>
      parts.foldl (fun acc q => acc ++ q.data.extract (o * block q) ((o + 1) * block q)) acc) #[]
    ⟨p.dtype, p.shape.set d (parts.foldl (fun n q => n + q.dim d) 0), data⟩

/-- The tensor with zeros before and after it along dimension `d`. -/
def pad (t : Tensor) (d before after : Nat) : Tensor :=
  let zs := fun n => zeros t.dtype (t.shape.set d n)
  cat ((if before == 0 then [] else [zs before]) ++ [t] ++ (if after == 0 then [] else [zs after])) d

/-! ## Reductions -/

/-- The sums over the given dimensions, which are kept with size one. -/
def sumKeep (t : Tensor) (dims : List Nat) : Tensor :=
  let out := dims.foldl (fun s d => s.set d 1) t.shape
  let target := (List.range t.rank).zipWith
    (fun k st => if dims.contains k then 0 else st) (Shape.strides out)
  let init := Array.replicate (Shape.numel out) (0 : Float32)
  let data := Nat.fold t.numel (fun i _ acc =>
    acc.modify (Shape.offset t.shape target i) fun v => t.dtype.lift₂ (· + ·) v (t.get i)) init
  ⟨t.dtype, out, data⟩

/-- The maxima along dimension `d`, kept with size one.  Each starts from the first element
and moves on only to a greater one. -/
def maxKeep (t : Tensor) (d : Nat) : Except ShapeFault Tensor :=
  if t.numel == 0 then .error .emptyReduce
  else
    let out := t.shape.set d 1
    let st := Shape.strides t.shape
    let step := st.getD d 0
    let n := t.dim d
    let bases := st.set d 0
    .ok (generate t.dtype out fun o =>
      let base := Shape.offset out bases o
      Nat.fold n (fun j _ acc => let x := t.get (base + j * step); if acc < x then x else acc)
        (t.get base))

/-! ## Products and selections -/

/-- One step `acc ← x · y + acc` of an element of a matrix product: two roundings in an
outer product, else one fused multiply-add. -/
def productStep (outer : Bool) (x y acc : Float32) : Float32 :=
  if outer then x * y + acc else mulAdd32 x y acc

/-- The batched matrix product over the last two dimensions.  Operands of fewer than two
dimensions, of different ranks, with unequal inner dimensions or unequal batch counts are
refused; an empty result or an empty inner dimension gives zeros without further checks.
An inner dimension of one or two makes the product an outer product (`productStep`). -/
def matmul (a b : Tensor) : Except ShapeFault Tensor :=
  let r := a.rank
  if r < 2 || b.rank != r then .error (.mismatch "matmul" a.shape b.shape)
  else
    let m := a.dim (r - 2)
    let k := a.dim (r - 1)
    let n := b.dim (r - 1)
    let out := a.shape.take (r - 2) ++ [m, n]
    if Shape.numel out == 0 || k == 0 then .ok (zeros a.dtype out)
    else if k != b.dim (r - 2) || Shape.numel (a.shape.take (r - 2)) != Shape.numel (b.shape.take (r - 2)) then
      .error (.mismatch "matmul" a.shape b.shape)
    else .ok (generate a.dtype out fun idx =>
      let bi := idx / (m * n)
      let aRow := bi * m * k + (idx / n % m) * k
      let bCol := bi * k * n + idx % n
      a.dtype.round (Nat.fold k (fun kk _ acc =>
        productStep (k ≤ 2) (a.get (aRow + kk)) (b.get (bCol + kk * n)) acc) 0))

/-- The first index of a list at or past a bound, with the bound. -/
def firstOutside (ids : List Nat) (size : Nat) : Option Nat := ids.find? (· ≥ size)

/-- The slices along the first dimension at the given indices, in their order. -/
def selectRows (t : Tensor) (ids : List Nat) : Except ShapeFault Tensor :=
  if t.rank == 0 then .error (.dimension "index-select" 0 t.shape)
  else match firstOutside ids (t.dim 0) with
    | some i => .error (.index "index-select" i (t.dim 0))
    | none =>
      let row := Shape.numel (t.shape.drop 1)
      let ids := ids.toArray
      .ok (generate t.dtype (ids.size :: t.shape.drop 1) fun p =>
        t.get (ids.getD (p / row) 0 * row + p % row))

/-- The element of every row of a matrix at that row's index. -/
def pickInRows (t : Tensor) (ids : List Nat) : Except ShapeFault Tensor :=
  match firstOutside ids (t.dim 1) with
  | some i => .error (.index "gather" i (t.dim 1))
  | none =>
    let cols := t.dim 1
    let ids := ids.toArray
    .ok (generate t.dtype [ids.size, 1] fun r => t.get (r * cols + ids.getD r 0))

/-- The matrix `base` with the value of every row of `src` added at that row's index. -/
def addInRows (base src : Tensor) (ids : List Nat) : Tensor :=
  let cols := base.dim 1
  let data := (ids.zipIdx).foldl (fun acc (c, r) =>
    acc.modify (r * cols + c) fun v => base.dtype.lift₂ (· + ·) v (src.get r)) base.data
  { base with data }

end Tensor

end LowRankTuner
