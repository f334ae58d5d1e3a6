/-
  LowRankTuner/Template/Lines.lean
  ================================
  The lines on which failures of a template are reported.

  Evaluation keeps a current line.  A statement sets it to the line where it starts; a
  name or a literal sets it to its own line when evaluated, except that a list or map
  literal made of constants only is one constant and sets nothing; a conditional
  expression and a `not` set it to their start.  An operation that fails (an operator, a
  filter, a test, a lookup, a call) reports the current line at that moment: the line of
  the last name or literal evaluated before it, in the order operands are evaluated.
  A minus sign reports its own line.

  The order is the written order, with these exceptions: a conditional evaluates its
  test before its two branches, a call by name does not evaluate the name, a call
  evaluates its positional arguments before its keyword arguments (which, when they are
  all constants and nothing is spread, are one constant), a macro evaluates the defaults
  of its parameters last to first, and the body of a `call` block, or of a block whose
  output is filtered, comes before the call or the filter.

  Loading another template (`include`, `import`, `extends`) reports the line of its
  keyword; an `import` does not set the current line.

  The pass replaces the line of every operation by the line it reports, and the line of
  a statement by the line its own failures report.  It walks the tree with fuel, at
  least its depth.
-/
import LowRankTuner.Template.Syntax

namespace LowRankTuner.Template

/-- Walking a template with the current line as state. -/
abbrev LineM := StateM Nat

/-- The current line is set. -/
def setLine (l : Nat) : LineM Unit := set l

/-- Keyword arguments that are all constants, with nothing spread, are one constant. -/
def staticKeywords (args : List (ArgKind × Expr)) : Bool :=
  args.all fun (k, e) => match k with
    | .kw _ => (Expr.literal? e).isSome
    | .kwSplat => false
    | _ => true

/-- The argument is positional. -/
def ArgKind.isPositional : ArgKind → Bool
  | .pos | .posSplat => true
  | _ => false

mutual

/-- An expression with its report lines. -/
def annotate : Nat → Expr → LineM Expr
  | 0, e => pure e
  | fuel + 1, e =>
    match e with
    | .var n l => do setLine l; return .var n l
    | .const v l => do setLine l; return .const v l
    | .list items l =>
      if Expr.isConstList items then return e
      else do
        setLine l
        return .list (← annotateList fuel items) l
    | .dict pairs l =>
      if Expr.isConstDict pairs then return e
      else do
        setLine l
        return .dict (← annotatePairs fuel pairs) l
    | .neg x l => do
      setLine l
      return .neg (← annotate fuel x) l
    | .not x l => do
      setLine l
      return .not (← annotate fuel x) l
    | .binary op a b _ => do
      let a ← annotate fuel a
      let b ← annotate fuel b
      return .binary op a b (← get)
    | .and a b => do
      let a ← annotate fuel a
      return .and a (← annotate fuel b)
    | .or a b => do
      let a ← annotate fuel a
      return .or a (← annotate fuel b)
    | .cond t y n l => do
      setLine l
      let t ← annotate fuel t
      let y ← annotate fuel y
      let n ← annotateOpt fuel n
      return .cond t y n l
    | .getAttr x name _ => do
      let x ← annotate fuel x
      return .getAttr x name (← get)
    | .getItem x i _ => do
      let x ← annotate fuel x
      let i ← annotate fuel i
      return .getItem x i (← get)
    | .slice x a b c _ => do
      let x ← annotate fuel x
      let a ← annotateOpt fuel a
      let b ← annotateOpt fuel b
      let c ← annotateOpt fuel c
      return .slice x a b c (← get)
    | .call f args _ => do
      let f ← match f with
        | .var .. => pure f
        | .getAttr obj name l => do
          let obj ← annotate fuel obj
          pure (.getAttr obj name l)
        | f => annotate fuel f
      let args ← annotateArgs fuel args
      return .call f args (← get)
    | .filter name x args _ => do
      let x ← annotateOpt fuel x
      let args ← annotateArgs fuel args
      return .filter name x args (← get)
    | .test name x args _ => do
      let x ← annotate fuel x
      let args ← annotateArgs fuel args
      return .test name x args (← get)

/-- Expressions in order. -/
def annotateList : Nat → List Expr → LineM (List Expr)
  | 0, es => pure es
  | _, [] => pure []
  | fuel + 1, e :: rest => do
    let e ← annotate fuel e
    return e :: (← annotateList fuel rest)

/-- Keys and values in order. -/
def annotatePairs : Nat → List (Expr × Expr) → LineM (List (Expr × Expr))
  | 0, ps => pure ps
  | _, [] => pure []
  | fuel + 1, (k, v) :: rest => do
    let k ← annotate fuel k
    let v ← annotate fuel v
    return (k, v) :: (← annotatePairs fuel rest)

/-- An optional expression. -/
def annotateOpt : Nat → Option Expr → LineM (Option Expr)
  | 0, e => pure e
  | _, none => pure none
  | fuel + 1, some e => some <$> annotate fuel e

/-- Call arguments: positional ones first, then keyword ones unless they are one
constant; the written order is kept. -/
def annotateArgs : Nat → List (ArgKind × Expr) → LineM (List (ArgKind × Expr))
  | 0, args => pure args
  | fuel + 1, args => do
    let positional ← annotateKinds fuel true args
    if staticKeywords args then return positional
    annotateKinds fuel false positional

/-- The arguments of one group (positional or keyword) annotated in order, the others
kept. -/
def annotateKinds : Nat → Bool → List (ArgKind × Expr) → LineM (List (ArgKind × Expr))
  | 0, _, args => pure args
  | _, _, [] => pure []
  | fuel + 1, positional, (k, e) :: rest => do
    let e ← if k.isPositional == positional then annotate fuel e else pure e
    return (k, e) :: (← annotateKinds fuel positional rest)

end

/-- The line after evaluating an expression from a current line. -/
def Expr.exitLine (e : Expr) (current : Nat) (fuel : Nat) : Nat :=
  ((annotate fuel e).run current).2

mutual

/-- A statement with its report lines. -/
def annotateStmt : Nat → Stmt → LineM Stmt
  | 0, s => pure s
  | fuel + 1, s =>
    match s with
    | .raw t => pure (.raw t)
    | .emit e l => do
      setLine l
      return .emit (← annotate fuel e) l
    | .forLoop t iter f r b eb l => do
      setLine l
      let iter ← annotate fuel iter
      let iterLine ← get
      let t ← annotateTarget fuel t
      let f ← annotateOpt fuel f
      let b ← annotateStmts fuel b
      let eb ← annotateStmts fuel eb
      return .forLoop t iter f r b eb iterLine
    | .ifThen c y n l => do
      setLine l
      let c ← annotate fuel c
      let y ← annotateStmts fuel y
      let n ← annotateStmts fuel n
      return .ifThen c y n l
    | .set t e l => do
      setLine l
      let e ← annotate fuel e
      let here ← get
      let t ← annotateTarget fuel t
      return .set t e here
    | .setBlock t f b l => do
      setLine l
      let b ← annotateStmts fuel b
      let f ← annotateOpt fuel f
      let t ← annotateTarget fuel t
      return .setBlock t f b l
    | .macroDef name ps ds b free cr l => do
      setLine l
      let ds ← annotateDefaults fuel ds
      let b ← annotateStmts fuel b
      return .macroDef name ps ds b free cr l
    | .callBlock c ps ds b free cr l => do
      -- the caller is a keyword argument that is no constant, so every keyword counts
      let c ← match c with
        | .call f args l0 => do
          let f ← match f with
            | .var .. => pure f
            | .getAttr obj name la => do pure (Expr.getAttr (← annotate fuel obj) name la)
            | f => annotate fuel f
          let args ← annotateKinds fuel true args
          let args ← annotateKinds fuel false args
          pure (Expr.call f args l0)
        | c => annotate fuel c
      setLine l
      let ds ← annotateDefaults fuel ds
      let b ← annotateStmts fuel b
      let here ← get
      let c := match c with
        | .call f args _ => Expr.call f args here
        | c => c
      return .callBlock c ps ds b free cr l
    | .filterBlock f b l => do
      setLine l
      let b ← annotateStmts fuel b
      let f ← annotate fuel f
      return .filterBlock f b l
    | .withBlock binds b l => do
      setLine l
      let binds ← annotateBinds fuel binds
      let b ← annotateStmts fuel b
      return .withBlock binds b l
    | .includeTemplate e ign l => do
      setLine l
      return .includeTemplate (← annotate fuel e) ign l
    | .importTemplate e l => do
      return .importTemplate (← annotate fuel e) l
    | .extendTemplate e l => do
      setLine l
      return .extendTemplate (← annotate fuel e) l
    | .block name b l => do
      setLine l
      return .block name (← annotateStmts fuel b) l
    | .doExpr e l => do
      setLine l
      return .doExpr (← annotate fuel e) l
    | .autoescape e b l => do
      setLine l
      let e ← annotate fuel e
      let here ← get
      let b ← annotateStmts fuel b
      return .autoescape e b here

/-- Statements in order. -/
def annotateStmts : Nat → List Stmt → LineM (List Stmt)
  | 0, ss => pure ss
  | _, [] => pure []
  | fuel + 1, s :: rest => do
    let s ← annotateStmt fuel s
    return s :: (← annotateStmts fuel rest)

/-- Defaults of macro parameters, evaluated last to first. -/
def annotateDefaults : Nat → List Expr → LineM (List Expr)
  | 0, ds => pure ds
  | fuel + 1, ds => do
    let rev ← annotateList fuel ds.reverse
    return rev.reverse

/-- An assignment target: the objects of attribute targets are evaluated. -/
def annotateTarget : Nat → Target → LineM Target
  | 0, t => pure t
  | fuel + 1, t =>
    match t with
    | .name n => pure (.name n)
    | .attr obj f => do return .attr (← annotate fuel obj) f
    | .tuple ts => do return .tuple (← annotateTargets fuel ts)

/-- Targets in order. -/
def annotateTargets : Nat → List Target → LineM (List Target)
  | 0, ts => pure ts
  | _, [] => pure []
  | fuel + 1, t :: rest => do
    let t ← annotateTarget fuel t
    return t :: (← annotateTargets fuel rest)

/-- The bindings of a `with` block: each value, then its target. -/
def annotateBinds : Nat → List (Target × Expr) → LineM (List (Target × Expr))
  | 0, bs => pure bs
  | _, [] => pure []
  | fuel + 1, (t, e) :: rest => do
    let e ← annotate fuel e
    let t ← annotateTarget fuel t
    return (t, e) :: (← annotateBinds fuel rest)

end

/-- The statements of a template with their report lines. -/
def annotateLines (fuel : Nat) (stmts : List Stmt) : List Stmt :=
  ((annotateStmts fuel stmts).run 1).1

end LowRankTuner.Template
