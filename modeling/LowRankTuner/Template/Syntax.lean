/-
  LowRankTuner/Template/Syntax.lean
  =================================
  The syntax of templates: expressions and statements.

  Every node that can fail carries the line a failure of its own is reported on.  The
  parser first writes there the line where the node starts; `Template.Lines` then
  replaces the lines of operations by the line of the last name or literal evaluated
  before them, which is where failures are reported.

  Call arguments are positional values, positional values spread from a sequence
  (`*xs`), keyword arguments, and keyword arguments spread from a map (`**kw`).  An
  assignment target is a name, an attribute of an expression (`ns.count`), or a tuple of
  targets that unpacks a sequence.  A macro is declared with its parameters, the
  defaults of its last parameters, its body, the free names it closes over, and whether
  it refers to `caller`.
-/
import LowRankTuner.Template.Value

namespace LowRankTuner.Template

/-- Binary operators other than `and` and `or`. -/
inductive BinOp where
  | eq | ne | lt | le | gt | ge | isIn
  | add | sub | mul | div | floorDiv | rem | pow | concat
  deriving DecidableEq, Repr

/-- How a call argument is passed. -/
inductive ArgKind where
  | pos
  | posSplat
  | kw (name : String)
  | kwSplat
  deriving DecidableEq, Repr

/-- Template expressions. -/
inductive Expr where
  | var (name : String) (line : Nat)
  | const (v : Value) (line : Nat)
  | list (items : List Expr) (line : Nat)
  | dict (pairs : List (Expr × Expr)) (line : Nat)
  | neg (e : Expr) (line : Nat)
  | not (e : Expr) (line : Nat)
  | binary (op : BinOp) (l r : Expr) (line : Nat)
  | and (l r : Expr)
  | or (l r : Expr)
  | cond (test yes : Expr) (no : Option Expr) (line : Nat)
  | getAttr (e : Expr) (name : String) (line : Nat)
  | getItem (e i : Expr) (line : Nat)
  | slice (e : Expr) (start stop step : Option Expr) (line : Nat)
  | call (f : Expr) (args : List (ArgKind × Expr)) (line : Nat)
  | filter (name : String) (e : Option Expr) (args : List (ArgKind × Expr)) (line : Nat)
  | test (name : String) (e : Expr) (args : List (ArgKind × Expr)) (line : Nat)

instance : Inhabited Expr := ⟨.const .undefined 0⟩

namespace Expr

/-- A literal value: a constant, or a list or map literal of constants only. -/
def literal? : Expr → Option Value
  | .const v _ => some v
  | _ => none

/-- A list literal whose items are all constants is a constant itself. -/
def isConstList (items : List Expr) : Bool := items.all fun e => (literal? e).isSome

/-- A map literal whose keys and values are all constants is a constant itself. -/
def isConstDict (pairs : List (Expr × Expr)) : Bool :=
  pairs.all fun (k, v) => (literal? k).isSome && (literal? v).isSome

/-- How a syntax error names an expression that should have been a call. -/
def description : Expr → String
  | .var .. => "variable"
  | .const .. => "constant"
  | .neg .. | .not .. | .binary .. | .and .. | .or .. | .cond .. | .getAttr .. | .getItem ..
  | .slice .. => "expression"
  | .call .. => "call"
  | .list .. => "list literal"
  | .dict .. => "map literal"
  | .test .. => "test expression"
  | .filter .. => "filter expression"

end Expr

/-- Assignment targets. -/
inductive Target where
  | name (n : String)
  | attr (obj : Expr) (field : String)
  | tuple (items : List Target)

/-- Template statements. -/
inductive Stmt where
  | raw (s : String)
  | emit (e : Expr) (line : Nat)
  | forLoop (target : Target) (iter : Expr) (filter : Option Expr) (recursive : Bool)
      (body elseBody : List Stmt) (line : Nat)
  | ifThen (cond : Expr) (yes no : List Stmt) (line : Nat)
  | set (target : Target) (e : Expr) (line : Nat)
  | setBlock (target : Target) (filter : Option Expr) (body : List Stmt) (line : Nat)
  | macroDef (name : String) (params : List String) (defaults : List Expr)
      (body : List Stmt) (free : List String) (callerRef : Bool) (line : Nat)
  | callBlock (call : Expr) (params : List String) (defaults : List Expr)
      (body : List Stmt) (free : List String) (callerRef : Bool) (line : Nat)
  | filterBlock (filter : Expr) (body : List Stmt) (line : Nat)
  | withBlock (binds : List (Target × Expr)) (body : List Stmt) (line : Nat)
  | includeTemplate (e : Expr) (ignoreMissing : Bool) (line : Nat)
  | importTemplate (e : Expr) (line : Nat)
  | extendTemplate (e : Expr) (line : Nat)
  | block (name : String) (body : List Stmt) (line : Nat)
  | doExpr (e : Expr) (line : Nat)
  | autoescape (e : Expr) (body : List Stmt) (line : Nat)

instance : Inhabited Stmt := ⟨.raw ""⟩

end LowRankTuner.Template
