import LowRankTuner.Model.Forward
import LowRankTuner.Dataset.Example
/-!
# The training loss and gradient clipping

`causalLmLoss` is the next-token cross entropy: the logits at position `t` are scored
against the label at `t + 1`, positions labelled `ignoreIndex` are left out, and the sum of
the remaining log-probabilities, negated, is divided by their number.  Labels are 64-bit
integers; one that is negative other than the ignore index is read as an unsigned word, so
it is past every vocabulary.

`clipGradNorm` measures the gradients of a list of parameters by their joint Euclidean norm,
each tensor's sum of squares taken in single precision and the sums added in double precision,
and scales those gradients by `max / (norm + 10⁻⁶)` when the norm passes `max`; a parameter
without a gradient counts for nothing, and gradients of other tensors are left alone.  It
returns the norm before clipping.  The steps are written once, over any arithmetic
(`ClipArith`), and run in floating point (`floatClip`).
-/

namespace LowRankTuner

/-- A 64-bit signed label as the unsigned word of the same bits. -/
def labelWord (v : Int) : Nat := if v < 0 then (v + Int.pow 2 64).toNat else v.toNat

/-- The scores of the next-token loss: the logits at every position but the last, in single
precision, as the rows of a matrix. -/
def nextTokenScores (logits : NodeId) (batch seq vocab : Nat) : GraphM NodeId := do
  let l ← Graph.convert logits .f32
  Graph.reshape (← Graph.narrow l 1 0 (seq - 1)) [batch * (seq - 1), vocab]

/-- The mean negative log-probability of the kept rows: each row's log-probability at its index
times its flag, summed and scaled by `-1 / count`. -/
def maskedMeanLoss (scores : NodeId) (rows : Nat) (safe : List Nat) (keep : List Bool)
    (count : Float32) : GraphM NodeId := do
  let logProbs ← Graph.logSoftmaxLast scores
  let picked ← Graph.squeeze (← Graph.pick logProbs safe) 1
  let mask ← Graph.input ⟨.f32, [rows], (keep.map fun k => if k then (1 : Float32) else 0).toArray⟩
  let total ← Graph.sumAll (← Graph.mul picked mask)
  Graph.affine total (-1 / count.toFloat) 0

/-- Records the mean next-token cross entropy of logits `[batch, seq, vocab]` against labels
`[batch', seq']`. -/
def causalLmLoss (logits : NodeId) (labels : List (List Int)) : ModelM NodeId := do
  let lv ← graphStep (Graph.value logits)
  match lv.shape with
  | [batch, seq, vocab] =>
    if seq < 2 then throw (.training "sequences need at least two tokens for next-token loss")
    let rows := batch * (seq - 1)
    let scores ← graphStep (nextTokenScores logits batch seq vocab)
    let labelShape : Shape := [labels.length, (labels.head?.map List.length).getD 0]
    if let some e := labelShape.narrowFault? 1 1 (seq - 1) then throw (.tensor e.message)
    if labels.length * (seq - 1) != rows then
      throw (.tensor (ShapeFault.mismatch "reshape" [labels.length, seq - 1] [rows]).message)
    let targets := labels.flatMap fun row => (row.drop 1).take (seq - 1)
    let keep := targets.map (· != ignoreIndex)
    let count := keep.foldl (fun (acc : Float32) k => acc + (if k then 1 else 0)) 0
    if count == 0 then throw (.training "batch has no target tokens")
    let safe := (targets.zip keep).map fun (t, k) => if k then labelWord t else 0
    graphStep (maskedMeanLoss scores rows safe keep count)
  | s => throw (.tensor (ShapeFault.rank 3 s.length s).message)

/-- The margin added to the norm before dividing by it. -/
def clipMargin : Float := floatOfRatio false 1 1000000

/-- The sum of squares of a tensor's elements, in its own format. -/
def squaredSum (t : Tensor) : Float32 :=
  t.data.foldl (fun acc x => t.dtype.lift₂ (· + ·) acc (t.dtype.round (x * x))) 0

/-- The arithmetic clipping runs in: a square root, the margin added to the norm before dividing
by it, the sum of the squared entries of a gradient, and a gradient scaled by a factor. -/
structure ClipArith (R G : Type) where
  sqrt : R → R
  margin : R
  squares : G → R
  scale : R → G → G

namespace ClipArith

variable {R G K : Type} [Add R] [Div R] [LT R] [DecidableLT R] [OfNat R 0] [DecidableEq K]

/-- The running sum of squares past one more parameter: its gradient's squared entries added,
when it has a gradient. -/
def addSquares (c : ClipArith R G) (grads : K → Option G) (acc : R) (v : K) : R :=
  match grads v with
  | some g => acc + c.squares g
  | none => acc

/-- The squared entries of the parameters' gradients, summed parameter by parameter in order;
a parameter without a gradient adds nothing. -/
def squaredTotal (c : ClipArith R G) (grads : K → Option G) (vars : List K) : R :=
  vars.foldl (c.addSquares grads) 0

/-- The gradients with one more parameter's scaled by `s`, when it has a gradient. -/
def scaleOne (c : ClipArith R G) (s : R) (st : K → Option G) (v : K) : K → Option G :=
  match st v with
  | some g => fun k => if k = v then some (c.scale s g) else st k
  | none => st

/-- The gradients with each parameter's scaled by `s`, read from the store as it stands when
the parameter comes up, so a parameter listed twice is scaled twice. -/
def scaleAll (c : ClipArith R G) (s : R) (grads : K → Option G) (vars : List K) : K → Option G :=
  vars.foldl (c.scaleOne s) grads

/-- The joint norm of the parameters' gradients, and the gradients with the parameters' scaled
by `maxNorm / (norm + margin)` when the norm passes `maxNorm`. -/
def clip (c : ClipArith R G) (grads : K → Option G) (vars : List K) (maxNorm : R) :
    R × (K → Option G) :=
  let norm := c.sqrt (c.squaredTotal grads vars)
  if maxNorm < norm then (norm, c.scaleAll (maxNorm / (norm + c.margin)) grads vars)
  else (norm, grads)

end ClipArith

/-- Clipping as the trainer runs it: a tensor's sum of squares in its own format, the sums and
the norm in double precision, and a gradient scaled element by element. -/
def floatClip : ClipArith Float Tensor where
  sqrt := Float.sqrt
  margin := clipMargin
  squares g := (squaredSum g).toFloat
  scale s g := g.affine s 0

/-- The joint norm of the parameters' gradients before clipping, in single precision, and the
gradients scaled to at most `maxNorm` when it is exceeded. -/
def clipGradNorm {K : Type} [DecidableEq K] (grads : K → Option Tensor) (vars : List K)
    (maxNorm : Float) : Float32 × (K → Option Tensor) :=
  let (norm, grads) := floatClip.clip grads vars maxNorm
  (norm.toFloat32, grads)

end LowRankTuner
