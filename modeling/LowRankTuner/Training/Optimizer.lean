import LowRankTuner.Tensor.Basic
/-!
# The AdamW optimiser

AdamW keeps, for every parameter `θ`, running first and second moments `m` and `v` of its
gradient `g`, both starting at zero.  Step `t` (counted from one) sets

* `m ← β₁ m + (1 - β₁) g` and `v ← β₂ v + (1 - β₂) g²`,
* `m̂ = m / (1 - β₁ᵗ)` and `v̂ = v / (1 - β₂ᵗ)`,
* `θ ← (1 - lr · λ) θ - lr · m̂ / (√v̂ + ε)`,

where `λ` is the weight decay, applied to the parameter directly rather than through the
gradient.  Every product of a tensor with a constant rounds the constant to the tensor's
format first, and the powers `βᵗ` are taken by repeated squaring in double precision.  A
parameter without a gradient is left as it is, moments included.
-/

namespace LowRankTuner

/-- The settings of AdamW. -/
structure AdamWParams where
  lr : Float
  beta1 : Float
  beta2 : Float
  eps : Float
  weightDecay : Float

/-- The running moments of one parameter. -/
structure Moments where
  first : Tensor
  second : Tensor

/-- AdamW's state: its settings, the moments of each parameter by name and the number of
steps taken. -/
structure AdamW where
  params : AdamWParams
  moments : List (String × Moments)
  stepCount : Nat := 0

/-- `r · aⁿ` by repeated squaring from the lowest bit of `n`: the result takes `a` at every
set bit, and `a` is squared between bits. -/
def powSquaring (a : Float) (n : Nat) (r : Float := 1) : Float :=
  let r := if n % 2 == 1 then r * a else r
  if h : n / 2 = 0 then r else powSquaring (a * a) (n / 2) r
termination_by n
decreasing_by omega

/-- `a · b` element-wise for tensors of one shape, in the format of `a`. -/
def Tensor.times (a b : Tensor) : Tensor := Tensor.zipWith (a.dtype.lift₂ (· * ·)) a b

/-- `a + b` element-wise for tensors of one shape, in the format of `a`. -/
def Tensor.plus (a b : Tensor) : Tensor := Tensor.zipWith (a.dtype.lift₂ (· + ·)) a b

/-- `a - b` element-wise for tensors of one shape, in the format of `a`. -/
def Tensor.minus (a b : Tensor) : Tensor := Tensor.zipWith (a.dtype.lift₂ (· - ·)) a b

/-- `a / b` element-wise for tensors of one shape, in the format of `a`. -/
def Tensor.over (a b : Tensor) : Tensor := Tensor.zipWith (a.dtype.lift₂ (· / ·)) a b

namespace AdamW

/-- AdamW over named parameters, with zero moments. -/
def new (vars : List (String × Tensor)) (p : AdamWParams) : AdamW :=
  { params := p, moments := vars.map fun (n, t) =>
      (n, ⟨Tensor.zeros t.dtype t.shape, Tensor.zeros t.dtype t.shape⟩) }

/-- The optimiser with another learning rate. -/
def setLearningRate (o : AdamW) (lr : Float) : AdamW := { o with params := { o.params with lr } }

/-- One parameter after a step with its gradient, and its new moments. -/
def update (p : AdamWParams) (scaleM scaleV : Float) (theta g : Tensor) (mo : Moments) :
    Tensor × Moments :=
  let nextM := (mo.first.affine p.beta1 0).plus (g.affine (1 - p.beta1) 0)
  let nextV := (mo.second.affine p.beta2 0).plus ((g.times g).affine (1 - p.beta2) 0)
  let mHat := nextM.affine scaleM 0
  let vHat := nextV.affine scaleV 0
  let decayed := theta.affine (1 - p.lr * p.weightDecay) 0
  let adjusted := mHat.over ((vHat.unary Float32.sqrt).affine 1 p.eps)
  (decayed.minus (adjusted.affine p.lr 0), ⟨nextM, nextV⟩)

/-- One step: every parameter that has a gradient moves, the others stay. -/
def step (o : AdamW) (vars : List (String × Tensor)) (grads : List (String × Tensor)) :
    AdamW × List (String × Tensor) :=
  let t := o.stepCount + 1
  let scaleM := 1 / (1 - powSquaring o.params.beta1 t)
  let scaleV := 1 / (1 - powSquaring o.params.beta2 t)
  let moved := o.moments.map fun (name, mo) =>
    match vars.lookup name, grads.lookup name with
    | some theta, some g =>
      let (theta', mo') := update o.params scaleM scaleV theta g mo
      ((name, mo'), some (name, theta'))
    | _, _ => ((name, mo), none)
  let updated := moved.filterMap (·.2)
  ({ o with moments := moved.map (·.1), stepCount := t },
   vars.map fun (name, theta) => (name, (updated.lookup name).getD theta))

end AdamW

end LowRankTuner
