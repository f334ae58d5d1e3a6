import LowRankTuner.Model.CausalLM
import LowRankTuner.Tensor.Gradient
/-!
# The forward pass

`CausalLM.forward` records the logits of a batch of token sequences into a computation
graph, so that the gradients of a loss computed from them reach the adapters, whose
matrices are the graph's only trainable inputs (named by their parameter names).

Positions are encoded by rotating each half-pair of a head's dimensions by the angle
`position · θ^(-2i/d)`.  The attention bias is `-10⁹` above the diagonal and `-10⁹` more at
every padded key, added to the scaled scores before the softmax; the softmax runs in the
compute format.  Half-precision models normalise in single precision and run their
adapters in the adapter format, converting back before the results are added.

A pass in training mode is given the dropout draws of its adapters: an adapter with a
positive rate multiplies its input, once converted to the adapter format, by the mask its
draws make before `A`.  The draws come from outside, as an unseeded source makes them; a pass
given none is an evaluation pass and runs no dropout.
-/

namespace LowRankTuner

/-- Model computations: recorded into a graph, stopped by a failure. -/
abbrev ModelM := StateT Graph (Except Failure)

/-- A graph step of a model computation; shape faults become tensor failures. -/
def graphStep {α : Type} (m : GraphM α) : ModelM α := fun g =>
  match m g with
  | .ok r => .ok r
  | .error e => .error (.tensor e.message)

/-- The additive bias for masked attention scores. -/
def maskValue : Float := -1e9

/-- The uniform draws in `[0, 1)` of one training pass's adapter dropout: for the adapter at a
module path, the draw at each flat position of its input. -/
abbrev DropoutDraws := String → Nat → Float32

namespace Adapter

/-- The adapter's input with its dropout applied: in a training pass, through the mask of the
adapter's draws when its rate is positive; in an evaluation pass, unchanged. -/
def dropInput (ad : Adapter) (drop : Option DropoutDraws) (x : NodeId) : GraphM NodeId :=
  match drop with
  | some draws => if 0 < ad.dropout then Graph.dropout x ad.dropout (draws ad.prefixName) else pure x
  | none => pure x

@[simp] theorem dropInput_none (ad : Adapter) (x : NodeId) : ad.dropInput none x = pure x := rfl

/-- Records `((x Aᵀ) Bᵀ) · scaling` for rows `x`, after dropout in a training pass, with `A`
and `B` as named trainable inputs. -/
def forward (ad : Adapter) (x : NodeId) (drop : Option DropoutDraws := none) :
    ModelM NodeId := graphStep do
  let x ← ad.dropInput drop (← Graph.convert x ad.a.dtype)
  let a ← Graph.inputNamed ad.nameA ad.a
  let b ← Graph.inputNamed ad.nameB ad.b
  let hidden ← Graph.matmul x (← Graph.t a)
  let out ← Graph.matmul hidden (← Graph.t b)
  Graph.affine out ad.scaling 0

end Adapter

namespace Projection

/-- Records the projection of `x` along its last dimension: `x Wᵀ + b`, plus the adapter's
term when there is one. -/
def forward (pr : Projection) (x : NodeId) (drop : Option DropoutDraws := none) :
    ModelM NodeId := do
  let xv ← graphStep (Graph.value x)
  let inF := pr.weight.dim 1
  if inF == 0 then throw (.aborted divisionByZero)
  let x2 ← graphStep (Graph.reshape x [xv.numel / inF, inF])
  let w ← graphStep (Graph.input pr.weight)
  let out ← graphStep (do Graph.matmul x2 (← Graph.t w))
  let out ← match pr.bias with
    | some b => graphStep (do Graph.broadcastAdd out (← Graph.input b))
    | none => pure out
  let out ← match pr.adapter with
    | some ad => do
      let delta ← ad.forward x2 drop
      let dt := (← graphStep (Graph.value out)).dtype
      graphStep (do Graph.add out (← Graph.convert delta dt))
    | none => pure out
  let shape := match xv.shape with
    | [] => []
    | s => s.dropLast ++ [pr.weight.dim 0]
  graphStep (Graph.reshape out shape)

end Projection

/-- Records the normalisation of `x` along its last dimension, in single precision:
`x / √(mean x² + eps)`, converted back and scaled by the weight. -/
def RmsNorm.forward (n : RmsNorm) (x : NodeId) : ModelM NodeId := graphStep do
  let dt := (← Graph.value x).dtype
  let x32 ← Graph.convert x .f32
  let ms ← Graph.meanLast (← Graph.sqr x32)
  let rrms ← Graph.recip (← Graph.sqrt (← Graph.affine ms 1 n.eps))
  let normed ← Graph.convert (← Graph.broadcastMul x32 rrms) dt
  Graph.broadcastMul normed (← Graph.input n.weight)

/-- The cosine and sine tables `[seq, d/2]` of the rotary angles, in a format. -/
def rotaryTables (invFreq : List Float32) (seq : Nat) (dt : DType) : Except ShapeFault (Tensor × Tensor) := do
  let freq : Tensor := ⟨.f32, [1, invFreq.length], invFreq.toArray⟩
  let positions := Tensor.generate .f32 [seq, 1] fun i => float32OfRatio false i 1
  let angles ← positions.matmul freq
  pure ((angles.unary Float32.cos).convert dt, (angles.unary Float32.sin).convert dt)

/-- The bias `[batch, 1, seq, seq]` of a mask `[batch, seq]`: the causal part, `-10⁹` where
the key comes after the query, plus `-10⁹` at every key whose mask is not one. -/
def attentionBias (mask : List (List Nat)) : Except ShapeFault Tensor := do
  let batch := mask.length
  let seq := (mask.head?.map List.length).getD 0
  let masked := Float.toFloat32 maskValue
  let causal := Tensor.generate .f32 [1, 1, seq, seq] fun p =>
    if p % seq > p / seq then masked else 0
  let values := (mask.flatMap id).map fun m => float32OfRatio false m 1
  let padding ← (Tensor.affine ⟨.f32, [batch, seq], values.toArray⟩ (-maskValue) maskValue).reshape
    [batch, 1, 1, seq]
  causal.broadcastBinary "broadcast_add" (· + ·) padding

/-- Records `(x₁ cos - x₂ sin, x₁ sin + x₂ cos)` for the two halves `x₁, x₂` of the last
dimension of `x : [batch, heads, seq, d]`. -/
def applyRotary (x cos sin : NodeId) : GraphM NodeId := do
  let v ← Graph.value x
  let last := v.rank - 1
  let half := v.dim last / 2
  let x1 ← Graph.narrow x last 0 half
  let x2 ← Graph.narrow x last half half
  let c ← Graph.unsqueeze (← Graph.unsqueeze cos 0) 0
  let s ← Graph.unsqueeze (← Graph.unsqueeze sin 0) 0
  let r1 ← Graph.sub (← Graph.broadcastMul x1 c) (← Graph.broadcastMul x2 s)
  let r2 ← Graph.add (← Graph.broadcastMul x1 s) (← Graph.broadcastMul x2 c)
  Graph.cat [r1, r2] last

/-- Records each key/value head repeated `groups` times in a row. -/
def repeatKv (x : NodeId) (groups : Nat) : GraphM NodeId := do
  if groups == 1 then return x
  let v ← Graph.value x
  match v.shape with
  | [b, kv, s, d] =>
    let u ← Graph.unsqueeze x 2
    let e ← Graph.broadcastAs u [b, kv, groups, s, d]
    Graph.reshape e [b, kv * groups, s, d]
  | sh => Graph.fail (.rank 4 sh.length sh)

namespace Attention

/-- Records the heads of a projection: `[batch, seq, n·d]` as `[batch, n, seq, d]`. -/
def headsOf (pr : Projection) (x : NodeId) (batch seq n d : Nat)
    (drop : Option DropoutDraws := none) : ModelM NodeId := do
  let p ← pr.forward x drop
  graphStep do Graph.contiguous (← Graph.transpose (← Graph.reshape p [batch, seq, n, d]) 1 2)

/-- Records self-attention over `x : [batch, seq, hidden]`. -/
def forward (attn : Attention) (x cos sin bias : NodeId) (drop : Option DropoutDraws := none) :
    ModelM NodeId := do
  let xv ← graphStep (Graph.value x)
  if xv.rank != 3 then throw (.tensor (ShapeFault.rank 3 xv.rank xv.shape).message)
  let batch := xv.dim 0
  let seq := xv.dim 1
  let q ← headsOf attn.q x batch seq attn.heads attn.headDim drop
  let k ← headsOf attn.k x batch seq attn.kvHeads attn.headDim drop
  let v ← headsOf attn.v x batch seq attn.kvHeads attn.headDim drop
  let out ← graphStep do
    let q ← applyRotary q cos sin
    let k ← applyRotary k cos sin
    let groups := attn.heads / attn.kvHeads
    let k ← repeatKv k groups
    let v ← repeatKv v groups
    let scale := 1 / Float.sqrt attn.headDim.toFloat
    let scores ← Graph.matmul q (← Graph.t k)
    let scores ← Graph.convert (← Graph.affine scores scale 0) .f32
    let scores ← Graph.broadcastAdd scores bias
    let vt := (← Graph.value v).dtype
    let probs ← Graph.convert (← Graph.softmaxLast scores) vt
    let out ← Graph.transpose (← Graph.matmul probs v) 1 2
    Graph.reshape out [batch, seq, attn.heads * attn.headDim]
  attn.o.forward out drop

end Attention

/-- Records the gated MLP. -/
def Mlp.forward (m : Mlp) (x : NodeId) (drop : Option DropoutDraws := none) : ModelM NodeId := do
  let gate ← graphStep (Graph.silu (← m.gate.forward x drop))
  let up ← m.up.forward x drop
  m.down.forward (← graphStep (Graph.mul gate up)) drop

/-- Records a decoder layer: attention and MLP, each on a normalised input and added back. -/
def DecoderLayer.forward (l : DecoderLayer) (x cos sin bias : NodeId)
    (drop : Option DropoutDraws := none) : ModelM NodeId := do
  let attn ← l.attention.forward (← l.inputNorm.forward x) cos sin bias drop
  let hidden ← graphStep (Graph.add x attn)
  let mlp ← l.mlp.forward (← l.postNorm.forward hidden) drop
  graphStep (Graph.add hidden mlp)

namespace CausalLM

/-- Records the logits `[batch, seq, vocab]` of token ids `[batch, seq]` under an attention
mask, in the compute format; a training pass is given its dropout draws. -/
def forward (m : CausalLM) (ids : List (List Nat)) (mask : List (List Nat))
    (drop : Option DropoutDraws := none) : ModelM NodeId := do
  let batch := ids.length
  let seq := (ids.head?.map List.length).getD 0
  let hiddenSize := m.config.hiddenSize
  let embed ← graphStep (Graph.input m.embedTokens)
  let hidden ← graphStep do Graph.reshape (← Graph.rows embed (ids.flatMap id)) [batch, seq, hiddenSize]
  let dt := (← graphStep (Graph.value hidden)).dtype
  let (cosT, sinT) ← graphStep (Graph.lift (rotaryTables m.invFreq seq dt))
  let cos ← graphStep (Graph.input cosT)
  let sin ← graphStep (Graph.input sinT)
  let bias ← graphStep do Graph.input (← Graph.lift (attentionBias mask))
  let hidden ← m.layers.foldlM (fun h l => l.forward h cos sin bias drop) hidden
  let hidden ← m.norm.forward hidden
  graphStep do
    let head ← match m.lmHead with
      | some t => Graph.input t
      | none => pure embed
    let hv ← Graph.value head
    if hv.rank == 0 then Graph.fail (.dimension "dim" 0 hv.shape)
    let flat ← Graph.reshape hidden [batch * seq, hiddenSize]
    let logits ← Graph.matmul flat (← Graph.t head)
    let logits ← Graph.reshape logits [batch, seq, hv.dim 0]
    Graph.convert logits m.precision.compute

end CausalLM

end LowRankTuner
