import LowRankTuner.Tensor.Basic
/-!
# Computation graphs

A computation is recorded as it runs: every operation appends a node holding its value,
the step that produced it from earlier nodes, and whether it depends on a trainable input
through steps that carry gradients (`tracked`).  A scaling by zero carries none, so
the nodes after it are not tracked through it.

Steps that only view their operand (a transpose, a slice, a broadcast) still record the
strides their value is read with, because whether a value is stored in row-major order
decides whether making it contiguous records a copy: the graph of a computation, and so
the order in which gradients later meet, depends on it.  The layout rule ignores unit
dimensions, whose stride is never used.

The operations follow the broadcasting conventions of the tensor operations: a binary
operation on operands of different shapes first records a broadcast of each operand whose
shape is not the common one.
-/

namespace LowRankTuner

/-- A node of a computation graph, by its position. -/
abbrev NodeId := Nat

/-- How a node was obtained from earlier nodes. -/
inductive Step where
  /-- A value given to the computation; trainable values receive gradients. -/
  | input (trainable : Bool)
  | add (a b : NodeId)
  | sub (a b : NodeId)
  | mul (a b : NodeId)
  | div (a b : NodeId)
  /-- `v · scale + shift`. -/
  | affine (a : NodeId) (scale : Float)
  | exp (a : NodeId)
  | log (a : NodeId)
  | sqrt (a : NodeId)
  | recip (a : NodeId)
  | sqr (a : NodeId)
  | silu (a : NodeId)
  | matmul (a b : NodeId)
  | reshape (a : NodeId)
  | transpose (a : NodeId) (i j : Nat)
  | copy (a : NodeId)
  | broadcast (a : NodeId)
  | narrow (a : NodeId) (d start len : Nat)
  | cat (parts : List NodeId) (d : Nat)
  | sum (a : NodeId) (dims : List Nat)
  | max (a : NodeId) (d : Nat)
  /-- The element of every row at that row's index. -/
  | pick (a : NodeId) (ids : List Nat)
  /-- The slices along the first dimension at the given indices. -/
  | rows (a : NodeId) (ids : List Nat)
  | convert (a : NodeId)

/-- The operands of a step, in the order gradients are sought through them. -/
def Step.operands : Step → List NodeId
  | .input _ => []
  | .add a b | .sub a b | .mul a b | .div a b | .matmul a b => [a, b]
  | .affine a _ | .exp a | .log a | .sqrt a | .recip a | .sqr a | .silu a => [a]
  | .reshape a | .transpose a _ _ | .copy a | .broadcast a | .narrow a _ _ _ => [a]
  | .cat parts _ => parts
  | .sum a _ | .max a _ | .pick a _ | .rows a _ | .convert a => [a]

/-- A recorded value with its provenance. -/
structure Node where
  value : Tensor
  step : Step
  /-- The value depends on a trainable input through steps that carry gradients. -/
  tracked : Bool
  /-- The strides the value is read with. -/
  strides : List Nat

/-- Whether values of a shape read with these strides lie in row-major order: every
dimension longer than one has the stride of the dimensions after it. -/
def rowMajor (shape strides : List Nat) : Bool :=
  shape.length == strides.length &&
  ((shape.zip strides).foldr
    (fun (ds : Nat × Nat) (acc : Bool × Nat) => (acc.1 && (ds.1 ≤ 1 || ds.2 == acc.2), acc.2 * ds.1))
    (true, 1)).1

/-- The nodes of a computation, in the order they were computed, and the names given to
its trainable inputs. -/
structure Graph where
  nodes : Array Node := #[]
  named : List (String × NodeId) := []

/-- Computations that record into a graph and may refuse their operands. -/
abbrev GraphM := StateT Graph (Except ShapeFault)

namespace Graph

/-- The node at a position; a missing one reads as an empty untracked input. -/
def node (g : Graph) (i : NodeId) : Node :=
  g.nodes.getD i ⟨Tensor.zeros .f32 [], .input false, false, []⟩

/-- Stops the computation with a shape fault. -/
def fail {α : Type} (e : ShapeFault) : GraphM α := throw e

/-- Lifts a tensor operation that may refuse its operands. -/
def lift {α : Type} (r : Except ShapeFault α) : GraphM α :=
  match r with
  | .ok v => pure v
  | .error e => throw e

/-- Appends a node read with explicit strides. -/
def pushWith (value : Tensor) (step : Step) (tracked : Bool) (strides : List Nat) : GraphM NodeId :=
  modifyGet fun g => (g.nodes.size, { g with nodes := g.nodes.push ⟨value, step, tracked, strides⟩ })

/-- Appends a node stored in row-major order, tracked when one of its operands is. -/
def push (value : Tensor) (step : Step) : GraphM NodeId := do
  let g ← get
  pushWith value step (step.operands.any fun i => (g.node i).tracked) (Shape.strides value.shape)

/-- The value of a node. -/
def value (i : NodeId) : GraphM Tensor := do return (← get).node i |>.value

/-- The shape of a node. -/
def shapeOf (i : NodeId) : GraphM Shape := do return (← value i).shape

/-- Records a given value; trainable ones receive gradients. -/
def input (t : Tensor) (trainable : Bool := false) : GraphM NodeId :=
  pushWith t (.input trainable) trainable (Shape.strides t.shape)

/-- Records a trainable input under a name. -/
def inputNamed (name : String) (t : Tensor) : GraphM NodeId := do
  let i ← input t true
  modify fun g => { g with named := g.named ++ [(name, i)] }
  pure i

/-! ## Shape changes -/

/-- The value under another shape with as many elements. -/
def reshape (a : NodeId) (s : Shape) : GraphM NodeId := do
  push (← lift ((← value a).reshape s)) (.reshape a)

/-- The value with a unit dimension inserted at `d`, read with its operand's strides. -/
def unsqueeze (a : NodeId) (d : Nat) : GraphM NodeId := do
  let n := (← get).node a
  let v ← lift (n.value.reshape (n.value.shape.take d ++ [1] ++ n.value.shape.drop d))
  let st := if d < n.strides.length then n.strides.getD d 0 * n.value.dim d else 1
  pushWith v (.reshape a) n.tracked (n.strides.take d ++ [st] ++ n.strides.drop d)

/-- The value without dimension `d` when that dimension has length one, read with its
operand's strides; else the value itself. -/
def squeeze (a : NodeId) (d : Nat) : GraphM NodeId := do
  let n := (← get).node a
  if n.value.dim d == 1 then
    pushWith (← lift (n.value.reshape (n.value.shape.eraseIdx d))) (.reshape a) n.tracked
      (n.strides.eraseIdx d)
  else pure a

/-- The value with dimensions `i` and `j` exchanged; the same node when they coincide. -/
def transpose (a : NodeId) (i j : Nat) : GraphM NodeId := do
  if i == j then return a
  let g ← get
  let n := g.node a
  pushWith (n.value.transpose i j) (.transpose a i j) n.tracked (Tensor.swapEntries n.strides i j)

/-- The value with its last two dimensions exchanged; a value of fewer than two dimensions
is refused. -/
def t (a : NodeId) : GraphM NodeId := do
  let v ← value a
  if v.rank < 2 then fail (.rank 2 v.rank v.shape)
  else transpose a (v.rank - 2) (v.rank - 1)

/-- The value stored in row-major order: a copy when it is read otherwise. -/
def contiguous (a : NodeId) : GraphM NodeId := do
  let n := (← get).node a
  if rowMajor n.value.shape n.strides then pure a else push n.value (.copy a)

/-- The value repeated to a shape it broadcasts to. -/
def broadcastAs (a : NodeId) (s : Shape) : GraphM NodeId := do
  let n := (← get).node a
  let pad := s.length - n.value.rank
  let own := ((s.drop pad).zip (n.value.shape.zip n.strides)).map fun (d, e, st) =>
    if d == e then st else 0
  pushWith (n.value.broadcastAs s) (.broadcast a) n.tracked (List.replicate pad 0 ++ own)

/-- The elements `start, …, start + len - 1` along dimension `d`; the same node when that
is all of them. -/
def narrow (a : NodeId) (d start len : Nat) : GraphM NodeId := do
  let n := (← get).node a
  let v ← lift (n.value.narrow d start len)
  if start == 0 && len == n.value.dim d then pure a
  else pushWith v (.narrow a d start len) n.tracked n.strides

/-- Values joined along dimension `d`; a single value is its own join. -/
def cat (parts : List NodeId) (d : Nat) : GraphM NodeId := do
  match parts with
  | [p] => pure p
  | _ =>
    let vs ← parts.mapM value
    push (Tensor.cat vs d) (.cat parts d)

/-! ## Arithmetic -/

/-- A binary step on operands of one shape. -/
def binary (op : String) (f : Float32 → Float32 → Float32) (mk : NodeId → NodeId → Step)
    (a b : NodeId) : GraphM NodeId := do
  push (← lift (Tensor.binary op f (← value a) (← value b))) (mk a b)

/-- `a + b` on operands of one shape. -/
def add (a b : NodeId) : GraphM NodeId := binary "add" (· + ·) .add a b

/-- `a - b` on operands of one shape. -/
def sub (a b : NodeId) : GraphM NodeId := binary "sub" (· - ·) .sub a b

/-- `a · b` on operands of one shape. -/
def mul (a b : NodeId) : GraphM NodeId := binary "mul" (· * ·) .mul a b

/-- `a / b` on operands of one shape. -/
def div (a b : NodeId) : GraphM NodeId := binary "div" (· / ·) .div a b

/-- A binary step after broadcasting each operand whose shape is not the common one. -/
def broadcastBinary (op : String) (inner : NodeId → NodeId → GraphM NodeId) (a b : NodeId) :
    GraphM NodeId := do
  let sa ← shapeOf a
  let sb ← shapeOf b
  match Shape.broadcast sa sb with
  | none => fail (.mismatch op sa sb)
  | some s =>
    let a' ← if s == sa then pure a else broadcastAs a s
    let b' ← if s == sb then pure b else broadcastAs b s
    inner a' b'

/-- `a + b` broadcast. -/
def broadcastAdd (a b : NodeId) : GraphM NodeId := broadcastBinary "broadcast_add" add a b

/-- `a - b` broadcast. -/
def broadcastSub (a b : NodeId) : GraphM NodeId := broadcastBinary "broadcast_sub" sub a b

/-- `a · b` broadcast. -/
def broadcastMul (a b : NodeId) : GraphM NodeId := broadcastBinary "broadcast_mul" mul a b

/-- `a / b` broadcast. -/
def broadcastDiv (a b : NodeId) : GraphM NodeId := broadcastBinary "broadcast_div" div a b

/-- `v · scale + shift` on every element; a zero scale carries no gradient. -/
def affine (a : NodeId) (scale shift : Float) : GraphM NodeId := do
  let n := (← get).node a
  let v := n.value.affine scale shift
  pushWith v (.affine a scale) (n.tracked && scale != 0) (Shape.strides v.shape)

/-- Inverted dropout at rate `p` with the uniform draws `u` in `[0, 1)`, one for each flat
position: `a` times a mask of its format and shape, recorded as an input, that is `1` scaled
by `1 / (1 - p)` where the draw is at least `p`, and `0` where it is below. -/
def dropout (a : NodeId) (p : Float32) (u : Nat → Float32) : GraphM NodeId := do
  let v ← value a
  let kept := Tensor.generate v.dtype v.shape fun i => if p ≤ u i then 1 else 0
  mul a (← input (kept.affine (1 / (1 - p.toFloat)) 0))

/-- A unary step of the element format. -/
def unary (f : Float32 → Float32) (mk : NodeId → Step) (a : NodeId) : GraphM NodeId := do
  push ((← value a).unary f) (mk a)

/-- `e^v`. -/
def exp (a : NodeId) : GraphM NodeId := unary Float32.exp .exp a

/-- `ln v`. -/
def log (a : NodeId) : GraphM NodeId := unary Float32.log .log a

/-- `√v`. -/
def sqrt (a : NodeId) : GraphM NodeId := unary Float32.sqrt .sqrt a

/-- `1 / v`. -/
def recip (a : NodeId) : GraphM NodeId := unary (fun x => 1 / x) .recip a

/-- `v · v`. -/
def sqr (a : NodeId) : GraphM NodeId := unary (fun x => x * x) .sqr a

/-- `v / (1 + e^(-v))`. -/
def silu (a : NodeId) : GraphM NodeId := do
  let v ← value a
  push (v.map v.dtype.silu) (.silu a)

/-- The batched matrix product; an empty product is a fresh zero input. -/
def matmul (a b : NodeId) : GraphM NodeId := do
  let va ← value a
  let vb ← value b
  let v ← lift (va.matmul vb)
  let r := va.rank
  if Shape.numel v.shape == 0 || va.dim (r - 1) == 0 then input v else push v (.matmul a b)

/-- The value in another element format; the same node when it already has it. -/
def convert (a : NodeId) (d : DType) : GraphM NodeId := do
  let v ← value a
  if v.dtype == d then pure a else push (v.convert d) (.convert a)

/-! ## Reductions and selections -/

/-- Sums over the given dimensions, kept with length one. -/
def sumKeep (a : NodeId) (dims : List Nat) : GraphM NodeId := do
  push ((← value a).sumKeep dims) (.sum a dims)

/-- The sum of all elements, as a value of no dimensions. -/
def sumAll (a : NodeId) : GraphM NodeId := do
  let v ← value a
  let s ← sumKeep a (List.range v.rank)
  match v.rank with
  | 0 => pure s
  | 1 => squeeze s 0
  | _ => reshape s []

/-- The mean over the last dimension, kept with length one. -/
def meanLast (a : NodeId) : GraphM NodeId := do
  let v ← value a
  let s ← sumKeep a [v.rank - 1]
  affine s (1 / (v.dim (v.rank - 1)).toFloat) 0

/-- Maxima along dimension `d`, kept with length one. -/
def maxKeep (a : NodeId) (d : Nat) : GraphM NodeId := do
  push (← lift ((← value a).maxKeep d)) (.max a d)

/-- The element of every row of a matrix at that row's index, as a column. -/
def pick (a : NodeId) (ids : List Nat) : GraphM NodeId := do
  push (← lift ((← value a).pickInRows ids)) (.pick a ids)

/-- The slices along the first dimension at the given indices. -/
def rows (a : NodeId) (ids : List Nat) : GraphM NodeId := do
  push (← lift ((← value a).selectRows ids)) (.rows a ids)

/-- The softmax along the last dimension: the maximum subtracted, exponentiated, divided
by the sum. -/
def softmaxLast (a : NodeId) : GraphM NodeId := do
  let d := (← value a).rank - 1
  let m ← maxKeep a d
  let diff ← broadcastSub a m
  let num ← exp diff
  let den ← sumKeep num [d]
  broadcastDiv num den

/-- The log-softmax along the last dimension: the maximum subtracted, less the logarithm
of the sum of exponentials. -/
def logSoftmaxLast (a : NodeId) : GraphM NodeId := do
  let d := (← value a).rank - 1
  let m ← maxKeep a d
  let diff ← broadcastSub a m
  let e ← exp diff
  let s ← sumKeep e [d]
  let l ← log s
  broadcastSub diff l

end Graph

end LowRankTuner
