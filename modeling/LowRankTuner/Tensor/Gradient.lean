import LowRankTuner.Tensor.Graph
/-!
# Gradients of a recorded computation

`Graph.gradients g root` runs the chain rule backwards from `root`, whose gradient is all
ones.  Nodes are visited in the reverse of a depth-first post-order from the root, which
explores the operands of each step in order (`Graph.sweepOrder`): every node comes after
all the tracked nodes computed from it, so its gradient is complete when it is reached.

The gradient of a node is a sum of contributions, one per use, added in the order the
uses are visited, starting from zeros: `0 + c₁ + c₂ + …`.  The order matters, because
each addition rounds.  A contribution that is subtracted in the rule is added negated,
which rounds the same way.  Each rule below computes its contribution with the same
operations, in the same order, as the derivative it stands for:

| step | contribution to each operand |
|---|---|
| `a + b`, `a - b` | `g`, and `g` or `-g` |
| `a · b` | `g · b`, `g · a` |
| `a / b` | `g / b`, `-((g · a) / (b · b))` |
| `v · s + t` | `g · s + 0` |
| `e^a`, `ln a` | `g · e^a`, `g / a` |
| `√a`, `1 / a`, `a · a` | `(g / √a) · 0.5 + 0`, `-(g / (a · a))`, `(a · g) · 2 + 0` |
| `silu a` | `g · (σ · (1 - s) + s)`, `σ = 1 / (e^(-a) + 1)`, `s` the node's value |
| `a @ b` | `g @ bᵀ`, `aᵀ @ g` |
| broadcast | `g` summed over the repeated dimensions |
| sum, maximum | `g` repeated; `g` repeated where the element is the maximum |
| slice, join | `g` padded with zeros; the slice of `g` for each part |
| pick, rows | `g` added into zeros at the picked places |

Only tracked operands receive contributions; the others have no gradient to receive.
-/

namespace LowRankTuner

namespace Graph

/-- The depth-first post-order from `i`, consed onto `acc`, through tracked operands. -/
def visit (g : Graph) : Nat → NodeId → Array Bool × List NodeId → Array Bool × List NodeId
  | 0, _, acc => acc
  | fuel + 1, i, (seen, out) =>
    if seen.getD i true then (seen, out)
    else
      let n := g.node i
      let kids := if n.tracked then n.step.operands.filter fun j => (g.node j).tracked else []
      let (seen, out) := kids.foldl (fun acc j => g.visit fuel j acc) (seen.set! i true, out)
      (seen, i :: out)

/-- The order in which gradients flow from `root`: its tracked nodes, each before the nodes
it was computed from. -/
def sweepOrder (g : Graph) (root : NodeId) : List NodeId :=
  if (g.node root).tracked then
    (g.visit (g.nodes.size + 1) root (Array.replicate g.nodes.size false, [])).2
  else []

/-- What one use of a node adds to its gradient. -/
inductive Contribution where
  /-- A tensor added to the gradient. -/
  | plus (target : NodeId) (t : Tensor)
  /-- Rows of a tensor added into the gradient, column `ids[r]` or row `ids[r]` of the
  target receiving row `r`. -/
  | atPicks (target : NodeId) (src : Tensor) (ids : List Nat)
  | atRows (target : NodeId) (src : Tensor) (ids : List Nat)

/-- The element-wise negation. -/
def neg (t : Tensor) : Tensor := t.map fun x => -x

/-- A tensor with dimension `d` of length `n` summed away: the sums over the repeated
dimensions of a broadcast from shape `src`. -/
def unbroadcast (grad : Tensor) (src : Shape) : Except ShapeFault Tensor :=
  let left := grad.rank - src.length
  let dims := List.range left ++
    ((List.range src.length).filter fun k => grad.dim (k + left) != src.getD k 0).map (· + left)
  (grad.sumKeep dims).reshape src

/-- Adds row `r` of `src` into row `ids[r]` of `base`. -/
def addRows (base src : Tensor) (ids : List Nat) : Tensor :=
  let row := Shape.numel (base.shape.drop 1)
  let data := ids.zipIdx.foldl (fun acc (dst, r) =>
    Nat.fold row (fun c _ acc =>
      acc.modify (dst * row + c) fun v => base.dtype.lift₂ (· + ·) v (src.get (r * row + c))) acc)
    base.data
  { base with data }

/-- The contributions of one node with gradient `grad` to its operands. -/
def contributions (g : Graph) (n : Node) (grad : Tensor) : Except ShapeFault (List Contribution) := do
  let val := fun (i : NodeId) => (g.node i).value
  match n.step with
  | .input _ => pure []
  | .add a b => pure [.plus a grad, .plus b grad]
  | .sub a b => pure [.plus a grad, .plus b (neg grad)]
  | .mul a b => pure [.plus a (← grad.mul (val b)), .plus b (← grad.mul (val a))]
  | .div a b =>
    let lhs ← grad.div (val b)
    let num ← grad.mul (val a)
    let den ← (val b).mul (val b)
    pure [.plus a lhs, .plus b (neg (← num.div den))]
  | .affine a s => pure [.plus a (grad.affine s 0)]
  | .exp a => pure [.plus a (← grad.mul n.value)]
  | .log a => pure [.plus a (← grad.div (val a))]
  | .sqrt a => pure [.plus a ((← grad.div n.value).affine 0.5 0)]
  | .recip a => pure [.plus a (neg (← grad.div (← (val a).mul (val a))))]
  | .sqr a => pure [.plus a ((← (val a).mul grad).affine 2 0)]
  | .silu a =>
    let x := val a
    let sig := ((neg x).unary Float32.exp |>.affine 1 1).unary fun v => 1 / v
    let slope ← (← sig.mul (n.value.affine (-1) 1)).add n.value
    pure [.plus a (← grad.mul slope)]
  | .matmul a b =>
    let x := val a
    let y := val b
    let lhs ← grad.matmul (y.transpose (y.rank - 2) (y.rank - 1))
    let rhs ← (x.transpose (x.rank - 2) (x.rank - 1)).matmul grad
    pure [.plus a lhs, .plus b rhs]
  | .reshape a => pure [.plus a (← grad.reshape (val a).shape)]
  | .transpose a i j => pure [.plus a (grad.transpose i j)]
  | .copy a => pure [.plus a grad]
  | .broadcast a => pure [.plus a (← unbroadcast grad (val a).shape)]
  | .narrow a d start len =>
    pure [.plus a (grad.pad d start ((val a).dim d - start - len))]
  | .cat parts d =>
    let (_, out) ← parts.foldlM (fun (acc : Nat × List Contribution) p => do
      let len := (val p).dim d
      let piece ← grad.narrow d acc.1 len
      pure (acc.1 + len, acc.2 ++ [.plus p piece])) (0, [])
    pure out
  | .sum a _ => pure [.plus a (grad.broadcastAs (val a).shape)]
  | .max a _ =>
    let x := val a
    let mask := (n.value.broadcastAs x.shape).equalMask x
    pure [.plus a (← mask.mul (grad.broadcastAs x.shape))]
  | .pick a ids => pure [.atPicks a grad ids]
  | .rows a ids => pure [.atRows a grad ids]
  | .convert a => pure [.plus a (grad.convert (val a).dtype)]

/-- The gradient so far of a node, zeros before its first contribution. -/
def current (g : Graph) (grads : Array (Option Tensor)) (i : NodeId) : Tensor :=
  let v := (g.node i).value
  (grads.getD i none).getD (Tensor.zeros v.dtype v.shape)

/-- Adds one contribution to the gradients of tracked nodes. -/
def receive (g : Graph) (grads : Array (Option Tensor)) (c : Contribution) :
    Except ShapeFault (Array (Option Tensor)) :=
  let target := match c with
    | .plus i _ | .atPicks i _ _ | .atRows i _ _ => i
  if !(g.node target).tracked then .ok grads
  else
    let base := g.current grads target
    match c with
    | .plus _ t => do pure (grads.set! target (some (← base.add t)))
    | .atPicks _ src ids => pure (grads.set! target (some (base.addInRows src ids)))
    | .atRows _ src ids => pure (grads.set! target (some (addRows base src ids)))

/-- The gradients of `root` with respect to every tracked node that it was computed from;
only trainable inputs keep theirs to the end. -/
def gradients (g : Graph) (root : NodeId) : Except ShapeFault (Array (Option Tensor)) :=
  let r := (g.node root).value
  let init := (Array.replicate g.nodes.size none).set! root (some (Tensor.full r.dtype r.shape 1))
  (g.sweepOrder root).foldlM (fun grads i => do
    let n := g.node i
    match n.step, grads.getD i none with
    | .input _, _ => pure grads
    | _, none => pure grads
    | _, some grad =>
      let cs ← g.contributions n grad
      cs.foldlM (g.receive) (grads.set! i none)) init

end Graph

end LowRankTuner
