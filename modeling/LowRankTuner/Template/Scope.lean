/-
  LowRankTuner/Template/Scope.lean
  ================================
  The names a macro closes over.

  A macro sees its parameters, what it assigns itself, the global functions, and the
  names it closes over: the names its body looks up before assigning them, read where
  the macro is defined.  The walk keeps a stack of assigned names, one level per block
  (a loop's body, an `if` branch, a `with` block …); a loop assigns `loop` and its
  target, and a name counts as assigned from its first lookup on, so each free name is
  found once.  A `set` assigns its target before its value is looked at.  Nested macros
  and the bodies of `call` blocks are not entered, and the defaults of parameters are
  not looked at.  A macro that looks up `caller` takes a caller rather than closing
  over one.
-/
import LowRankTuner.Template.Syntax

namespace LowRankTuner.Template

/-- The names found free so far, and the stack of assigned names. -/
abbrev TrackM := StateM (List String × List (List String))

/-- The name is assigned on some level of the stack. -/
def isAssigned (n : String) : TrackM Bool := do
  return (← get).2.any (·.contains n)

/-- Assigns a name on the innermost level. -/
def markAssigned (n : String) : TrackM Unit :=
  modify fun (out, stack) => match stack with
    | top :: rest => (out, (n :: top) :: rest)
    | [] => (out, [[n]])

/-- Opens a level. -/
def pushLevel : TrackM Unit := modify fun (out, stack) => (out, [] :: stack)

/-- Closes a level. -/
def popLevel : TrackM Unit := modify fun (out, stack) => (out, stack.drop 1)

/-- Looks up a name: free when not assigned, and assigned from now on. -/
def lookupName (n : String) : TrackM Unit := do
  if !(← isAssigned n) then
    modify fun (out, stack) => (if out.contains n then out else out ++ [n], stack)
    markAssigned n

mutual

/-- The lookups of an expression. -/
def visitExpr : Nat → Expr → TrackM Unit
  | 0, _ => pure ()
  | fuel + 1, e =>
    match e with
    | .var n _ => lookupName n
    | .const .. => pure ()
    | .list items _ => visitList fuel items
    | .dict pairs _ => visitList fuel (pairs.flatMap fun (k, v) => [k, v])
    | .neg x _ | .not x _ | .getAttr x _ _ => visitExpr fuel x
    | .binary _ a b _ | .and a b | .or a b | .getItem a b _ => visitList fuel [a, b]
    | .cond t y n _ => visitList fuel ([t, y] ++ n.toList)
    | .slice x a b c _ => visitList fuel ([x] ++ a.toList ++ b.toList ++ c.toList)
    | .call f args _ => visitList fuel (f :: args.map (·.2))
    | .filter _ x args _ => visitList fuel (x.toList ++ args.map (·.2))
    | .test _ x args _ => visitList fuel (x :: args.map (·.2))

/-- The lookups of expressions in order. -/
def visitList : Nat → List Expr → TrackM Unit
  | 0, _ => pure ()
  | _, [] => pure ()
  | fuel + 1, e :: rest => do
    visitExpr fuel e
    visitList fuel rest

end

/-- The names a target assigns; the object of an attribute target is looked up. -/
def assignTarget : Nat → Target → TrackM Unit
  | 0, _ => pure ()
  | fuel + 1, t =>
    match t with
    | .name n => markAssigned n
    | .attr obj _ => visitExpr fuel obj
    | .tuple ts => ts.forM (assignTarget fuel)

mutual

/-- The lookups and assignments of a statement. -/
def walkStmt : Nat → Stmt → TrackM Unit
  | 0, _ => pure ()
  | fuel + 1, s =>
    match s with
    | .raw _ => pure ()
    | .emit e _ => visitExpr fuel e
    | .forLoop t iter f _ b eb _ => do
      pushLevel
      markAssigned "loop"
      visitExpr fuel iter
      assignTarget fuel t
      visitList fuel f.toList
      walkStmts fuel b
      popLevel
      pushLevel
      walkStmts fuel eb
      popLevel
    | .ifThen c y n _ => do
      visitExpr fuel c
      pushLevel
      walkStmts fuel y
      popLevel
      pushLevel
      walkStmts fuel n
      popLevel
    | .withBlock binds b _ => do
      pushLevel
      walkBinds fuel binds
      walkStmts fuel b
      popLevel
    | .set t e _ => do
      assignTarget fuel t
      visitExpr fuel e
    | .autoescape e b _ | .filterBlock e b _ => do
      visitExpr fuel e
      pushLevel
      walkStmts fuel b
      popLevel
    | .setBlock t _ b _ => do
      assignTarget fuel t
      pushLevel
      walkStmts fuel b
      popLevel
    | .block _ b _ => do
      pushLevel
      walkStmts fuel b
      popLevel
    | .extendTemplate .. | .includeTemplate .. | .importTemplate .. => pure ()
    | .macroDef name .. => markAssigned name
    | .callBlock c .. | .doExpr c _ => visitExpr fuel c

/-- Statements in order. -/
def walkStmts : Nat → List Stmt → TrackM Unit
  | 0, _ => pure ()
  | _, [] => pure ()
  | fuel + 1, s :: rest => do
    walkStmt fuel s
    walkStmts fuel rest

/-- The bindings of a `with` block. -/
def walkBinds : Nat → List (Target × Expr) → TrackM Unit
  | 0, _ => pure ()
  | _, [] => pure ()
  | fuel + 1, (t, e) :: rest => do
    assignTarget fuel t
    visitExpr fuel e
    walkBinds fuel rest

end

/-- The free names of a macro body with its parameters, `caller` apart, and whether it
looks up `caller`. -/
def macroClosure (fuel : Nat) (params : List String) (body : List Stmt) :
    List String × Bool :=
  let out := ((walkStmts fuel body).run ([], [params])).2.1
  (out.filter (· != "caller"), out.contains "caller")

mutual

/-- A statement with the closures of its macros filled in. -/
def resolveStmt : Nat → Stmt → Stmt
  | 0, s => s
  | fuel + 1, s =>
    match s with
    | .forLoop t iter f r b eb l => .forLoop t iter f r (resolveStmts fuel b) (resolveStmts fuel eb) l
    | .ifThen c y n l => .ifThen c (resolveStmts fuel y) (resolveStmts fuel n) l
    | .setBlock t f b l => .setBlock t f (resolveStmts fuel b) l
    | .macroDef name ps ds b _ _ l =>
      let (free, cr) := macroClosure fuel ps b
      .macroDef name ps ds (resolveStmts fuel b) free cr l
    | .callBlock c ps ds b _ _ l =>
      let (free, cr) := macroClosure fuel ps b
      .callBlock c ps ds (resolveStmts fuel b) free cr l
    | .filterBlock f b l => .filterBlock f (resolveStmts fuel b) l
    | .withBlock binds b l => .withBlock binds (resolveStmts fuel b) l
    | .block name b l => .block name (resolveStmts fuel b) l
    | .autoescape e b l => .autoescape e (resolveStmts fuel b) l
    | s => s

/-- Statements with the closures of their macros filled in. -/
def resolveStmts : Nat → List Stmt → List Stmt
  | 0, ss => ss
  | _, [] => []
  | fuel + 1, s :: rest => resolveStmt fuel s :: resolveStmts fuel rest

end

end LowRankTuner.Template
