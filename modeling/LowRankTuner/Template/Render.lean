/-
  LowRankTuner/Template/Render.lean
  =================================
  Rendering a compiled template against a context.

  The renderer keeps a stack of frames.  The bottom frame sees the context; a `for`
  loop, a `with` block and a block push one more.  A name is looked up innermost frame
  first (its own variables, then the loop it runs, then what it sees below), then among
  the global functions `range`, `dict`, `namespace`, `debug` and `raise_exception`.  An
  assignment writes to the innermost frame.

  A macro closes over the frame it is defined in: the names it looks up are copied into
  a closure when it is defined, and later assignments in that frame go into the closure
  as well, so that the macro sees them when called.  A call runs the macro's body in a
  frame of its own that sees only the closure and the global functions; its parameters
  are bound last to first, a default filling a parameter left undefined.  The caller of
  a `call` block is a macro passed as the keyword argument `caller`.

  Namespaces live in the renderer and are read through their handles; before a value
  reaches a filter, a test, an operator or the output, its handles are replaced by the
  maps they stand for.  Output is escaped as the current `autoescape` mode says.

  A failure is reported on the line `Template.Lines` assigned to the operation or
  statement that failed, unless it already carries one.  Frames nest at most 500 deep: a
  frame is refused when 500 are open below it, a macro call counts six (its own frame and
  five more) and is refused when it would pass 500, and an included template counts ten.
  The only template is the chat template, so a template that extends one refers to itself,
  a cycle.  Rendering is structurally recursive on fuel, which bounds how deeply
  statements and expressions nest; the items of a loop all run at the loop's own depth.
-/
import LowRankTuner.Template.Parse
import LowRankTuner.Template.Lines
import LowRankTuner.Template.Scope
import LowRankTuner.Template.Filters

namespace LowRankTuner.Template

/-! ## 1. The renderer's state -/

/-- What a frame sees below its own variables. -/
inductive FrameBase where
  | empty
  | context (fields : List (Value × Value))
  | closure (id : Nat)

/-- A loop that can be entered again by calling `loop(items)`: its target and body. -/
structure LoopBody where
  target : Target
  body : List Stmt
  line : Nat

/-- The loop a frame runs: the value of `loop` in the current iteration, its depth, and
its body when it is recursive. -/
structure LoopFrame where
  value : Value
  depth : Nat
  again : Option LoopBody

/-- A frame of variables. -/
structure Frame where
  vars : List (String × Value) := []
  base : FrameBase := .empty
  loop : Option LoopFrame := none
  /-- The closure that assignments in this frame also write to. -/
  closure : Option Nat := none

/-- A macro: its name, parameters and the defaults of the last ones, body, closure, and
whether it takes a caller. -/
structure MacroDef where
  name : String
  params : List String
  defaults : List Expr
  body : List Stmt
  closure : Nat
  callerRef : Bool

/-- Everything the renderer keeps. -/
structure RenderState where
  frames : List Frame
  /-- Frames of the callers below the current frames, as a count. -/
  outer : Nat := 0
  closures : Array (List (String × Value)) := #[]
  namespaces : Array (List (Value × Value)) := #[]
  macros : Array MacroDef := #[]
  /-- The arguments `loop.changed` saw last, per loop. -/
  changed : Array (Option (List Value)) := #[]
  escaping : Escaping := .none
  block : Option String := none
  program : List Stmt := []

/-- Rendering: the renderer's state, failures as errors. -/
abbrev RenderM := StateT RenderState (Except Error)

/-- The deepest frames may nest. -/
def recursionLimit : Nat := 500

/-- The levels a macro call adds below the frame of its closure: four for the call, and
one for the frame of the template's context, which the macro also sees. -/
def macroCost : Nat := 5

/-- The levels an included template adds. -/
def includeCost : Nat := 10

/-- A pure result inside rendering, its failure placed on a line. -/
def liftAt {α : Type} (line : Nat) (x : Except Error α) : RenderM α :=
  match x with
  | .ok a => pure a
  | .error e => throw (e.at line)

/-- A failure placed on a line. -/
def failAt {α : Type} (line : Nat) (e : Error) : RenderM α := throw (e.at line)

/-- The names of the global functions. -/
def globalFunctions : List String := ["debug", "dict", "namespace", "raise_exception", "range"]

/-- A value with a later one under a name replacing the earlier. -/
def setField (fs : List (String × Value)) (n : String) (v : Value) : List (String × Value) :=
  (n, v) :: fs.filter (·.1 != n)

/-! ## 2. Variables -/

/-- What a frame holds under a name. -/
def frameLookup (s : RenderState) (f : Frame) (name : String) : Option Value :=
  match f.vars.lookup name with
  | some v => some v
  | none =>
    match f.loop, name with
    | some l, "loop" => some l.value
    | _, _ =>
      match f.base with
      | .empty => none
      | .context fs => Value.findKey fs (.str name)
      | .closure id => ((s.closures[id]?).getD []).lookup name

/-- The value of a name, if it has one. -/
def lookup? (name : String) : RenderM (Option Value) := do
  let s ← get
  match s.frames.findSome? (frameLookup s · name) with
  | some v => return some v
  | none => return if globalFunctions.contains name then some (.func name) else none

/-- The value of a name, undefined when it has none. -/
def lookupVar (name : String) : RenderM Value := do
  return (← lookup? name).getD .undefined

/-- Assigns a name in the innermost frame, and in its closure when it has one. -/
def store (name : String) (v : Value) : RenderM Unit :=
  modify fun s => match s.frames with
    | f :: rest =>
      let closures := match f.closure with
        | some c => s.closures.modify c (setField · name v)
        | none => s.closures
      { s with frames := { f with vars := setField f.vars name v } :: rest, closures }
    | [] => s

/-- Pushes a frame, refusing to nest too deeply. -/
def pushFrame (f : Frame) : RenderM Unit := do
  let s ← get
  if s.outer + s.frames.length > recursionLimit then
    throw (.invalid "recursion limit exceeded")
  set { s with frames := f :: s.frames }

/-- Pops the innermost frame. -/
def popFrame : RenderM Unit := modify fun s => { s with frames := s.frames.drop 1 }

/-- The closure of the innermost frame, made when it has none. -/
def currentClosure : RenderM Nat := do
  let s ← get
  match s.frames with
  | f :: rest =>
    match f.closure with
    | some c => return c
    | none =>
      let c := s.closures.size
      set { s with closures := s.closures.push [],
                   frames := { f with closure := some c } :: rest }
      return c
  | [] =>
    set { s with closures := s.closures.push [] }
    return s.closures.size

/-- The innermost loop. -/
def currentLoop : RenderM (Option LoopFrame) := do
  return (← get).frames.findSome? (·.loop)

/-- All visible names with their values, innermost first, each name once. -/
def visibleVariables : RenderM (List (String × Value)) := do
  let s ← get
  let names := s.frames.flatMap fun f =>
    f.vars.map (·.1) ++ (if f.loop.isSome then ["loop"] else []) ++
      (match f.base with
        | .empty => []
        | .context fs => fs.filterMap (·.1.asStr?)
        | .closure id => ((s.closures[id]?).getD []).map (·.1))
  let names := names.foldl (fun acc n => if acc.contains n then acc else acc ++ [n]) []
  return names.filterMap fun n => (s.frames.findSome? (frameLookup s · n)).map (n, ·)

/-! ## 3. Namespaces -/

/-- A new namespace with the given fields. -/
def newNamespace (fs : List (Value × Value)) : RenderM Value := do
  let s ← get
  set { s with namespaces := s.namespaces.push (Value.sortedFields fs) }
  return .ns s.namespaces.size

/-- Sets a field of a namespace. -/
def setNamespaceField (id : Nat) (name : String) (v : Value) : RenderM Unit :=
  modify fun s =>
    { s with namespaces := s.namespaces.modify id (Value.insertSorted · (.str name) v) }

/-- The fields of a namespace. -/
def namespaceFields (id : Nat) : RenderM (List (Value × Value)) := do
  return ((← get).namespaces[id]?).getD []

mutual

/-- A value with its namespace handles replaced by the maps they stand for. -/
def resolve : Nat → Value → RenderM Value
  | 0, v => pure v
  | fuel + 1, v =>
    match v with
    | .ns id => do return .map (← resolveFields fuel (← namespaceFields id))
    | .seq xs => .seq <$> resolveList fuel xs
    | .iter xs sized => (.iter · sized) <$> resolveList fuel xs
    | .group k xs => do return .group (← resolve fuel k) (← resolveList fuel xs)
    | .map fs => .map <$> resolveFields fuel fs
    | .kwargs fs => .kwargs <$> resolveFields fuel fs
    | v => pure v

/-- Items resolved. -/
def resolveList : Nat → List Value → RenderM (List Value)
  | 0, xs => pure xs
  | _, [] => pure []
  | fuel + 1, x :: rest => do
    let x ← resolve fuel x
    return x :: (← resolveList fuel rest)

/-- Values of fields resolved. -/
def resolveFields : Nat → List (Value × Value) → RenderM (List (Value × Value))
  | 0, fs => pure fs
  | _, [] => pure []
  | fuel + 1, (k, v) :: rest => do
    let v ← resolve fuel v
    return (k, v) :: (← resolveFields fuel rest)

end

/-- A value resolved for use. -/
def use (v : Value) : RenderM Value := resolve 32 v

/-! ## 4. Global functions -/

/-- `range(stop)` or `range(start, stop[, step])`, at most 100000 items. -/
def rangeOf (args : List Value) : Except Error Value :=
  Binder.bindAll (do
    let a ← Binder.conv Value.argIsize
    let b ← Binder.convOpt Value.argIsize
    let step ← Binder.convOpt Value.argIsize
    let (lo, hi) := match b with
      | some hi => (a, hi)
      | none => (0, a)
    let step := step.getD 1
    if step == 0 then throw (.invalid "cannot create range with step of 0")
    let count : Nat :=
      if step > 0 then (if hi > lo then ((hi - lo + step - 1) / step).toNat else 0)
      else (if lo > hi then ((lo - hi + (-step) - 1) / (-step)).toNat else 0)
    if count > 100000 then throw (.invalid "range has too many elements")
    return .iter ((List.range count).map fun (i : Nat) => .int (lo + step * (i : Int))) true)
    args

/-- The fields `dict` builds: a map's fields, then the keyword arguments. -/
def dictOf (args : List Value) : Except Error Value :=
  Binder.runWithKwargs (fun kw => do
    let v ← Binder.opt
    let base ← match v with
      | none => pure []
      | some v => match v.fields? with
        | some fs => pure fs
        | none => throw (.bare .invalidOperation)
    return Value.sortedMap (base ++ kw.fields)) args

/-! ## 5. The state as text -/

/-- The text `debug()` returns: the renderer's state spread over lines. -/
def debugText : RenderM String := do
  let s ← get
  let vars ← visibleVariables
  let vars ← vars.mapM fun (n, v) => do return (Value.str n, ← use v)
  let ctx := Value.sortedFields vars
  let globals := globalFunctions.map fun n => (Value.str n, Value.func n)
  let names := fun (ns : List String) => Value.prettyList 2 (ns.map Value.str)
  let block := match s.block with
    | some b => "Some(" ++ Value.quoted b ++ ")"
    | none => "None"
  let escaping := match s.escaping with
    | .none => "None"
    | .html => "Html"
  return "State \x7b\n    name: \"chat\",\n    current_block: " ++ block ++ ",\n" ++
    "    auto_escape: " ++ escaping ++ ",\n    ctx: " ++ Value.prettyMap 1 ctx ++ ",\n" ++
    "    env: Environment \x7b\n        globals: " ++ Value.prettyMap 2 globals ++ ",\n" ++
    "        tests: " ++ names testNames ++ ",\n        filters: " ++ names filterNames ++
    ",\n        templates: " ++ names ["chat"] ++ ",\n    \x7d,\n\x7d"

/-! ## 6. Evaluation -/

/-- The mode an `autoescape` tag asks for. -/
def escapingOf (v : Value) : Except Error Escaping :=
  match v.asStr? with
  | some "html" => .ok .html
  | some "none" => .ok .none
  | some _ => .error (.invalid "invalid value to autoescape tag")
  | none => .ok (if Value.equals v (.bool true) then .html else .none)

/-- The output of a block as a value: safe when output is escaped. -/
def captured (text : String) : RenderM Value := do
  return if (← get).escaping == .none then .str text else .safe text

/-- Positional values and keyword arguments as a callee receives them. -/
def withKeywords (pos : List Value) (kws : Option (List (Value × Value))) : List Value :=
  match kws with
  | some fs => pos ++ [.kwargs (Value.sortedFields fs)]
  | none => pos

/-- The keyword arguments a call spreads from a value, which must be a map. -/
def spreadKeywords (v : Value) : Except Error (List (Value × Value)) :=
  match v.fields? with
  | some fs => .ok fs
  | none =>
    .error (.invalid ("attempted to apply keyword arguments from non map (got " ++ v.kind ++ ")"))

/-- The positions a slice of `n` items picks.  With a positive step, negative bounds
count from the end and bounds are clamped to the items, the stop left out.  With a
negative step the slice walks down from the start to the stop, both included: the start
is clamped to the positions `0` to `n - 1` (the last when absent, and 0 when there are
no items, so that a slice of no items walks over the position 0), and the stop, 0 when
absent, is only kept from falling below 0. -/
def sliceIndices (n : Nat) (start stop : Option Int) (step : Int) : List Nat :=
  let len : Int := n
  let fromEnd (v : Int) : Int := if v < 0 then v + len else v
  let clamp (lo hi v : Int) : Int := if v < lo then lo else if v > hi then hi else v
  if step > 0 then
    let s := (start.map fun v => clamp 0 len (fromEnd v)).getD 0
    let e := (stop.map fun v => clamp 0 len (fromEnd v)).getD len
    let count := if e > s then ((e - s + step - 1) / step).toNat else 0
    (List.range count).map fun (i : Nat) => (s + step * (i : Int)).toNat
  else
    let last : Int := if n == 0 then 0 else len - 1
    let s := (start.map fun v => clamp 0 last (fromEnd v)).getD last
    let e := (stop.map fun v => max 0 (fromEnd v)).getD 0
    let k := -step
    let count := if s ≥ e then ((s - e) / k).toNat + 1 else 0
    (List.range count).map fun (i : Nat) => (s - k * (i : Int)).toNat

/-- The fault of a position past the items. -/
def outOfBounds (n i : Nat) : Error :=
  .mk' .aborted ("index out of bounds: the len is " ++ toString n ++ " but the index is " ++
    toString i)

/-- The items at the positions a slice picks; a position past the items is a fault. -/
def slicePick {α : Type} (xs : List α) (start stop : Option Int) (step : Int) :
    Except Error (List α) :=
  (sliceIndices xs.length start stop step).mapM fun i =>
    match xs[i]? with
    | some x => .ok x
    | none => .error (outOfBounds xs.length i)

/-- The slice of a value: characters of a string, items of a sequence or iterator, and
nothing of none and undefined; the step may not be zero. -/
def sliceValue (v a b c : Value) : Except Error Value := do
  let bound := fun (x : Value) => if x.isNoneish then pure none else some <$> x.argI64
  let start ← bound a
  let stop ← bound b
  let step ← if c.isNoneish then pure 1 else c.argI64
  if step == 0 then throw (.invalid "cannot slice by step size of 0")
  match v with
  | .str s | .safe s => return .str (String.ofList (← slicePick s.toList start stop step))
  | .undefined | .none => return .seq []
  | .seq xs | .iter xs _ => return .seq (← slicePick xs start stop step)
  | .group k xs => return .seq (← slicePick [k, .iter xs true] start stop step)
  | v => throw (.invalid ("value of type " ++ v.kind ++ " cannot be sliced"))

/-- The iterations of a loop over items, the first at position `i`: `iteration` renders an
item given its position and the items before and after it. -/
def eachItem (iteration : Value → Nat → Option Value → Option Value → RenderM String) :
    Option Value → List Value → Nat → RenderM String
  | _, [], _ => pure ""
  | prev, x :: rest, i => do
    let a ← iteration x i prev rest.head?
    return a ++ (← eachItem iteration (some x) rest (i + 1))

/-- The items that pass a test, tested in order. -/
def keepItems (test : Value → RenderM Bool) : List Value → RenderM (List Value)
  | [] => pure []
  | x :: rest => do
    let keep ← test x
    let others ← keepItems test rest
    return if keep then x :: others else others

/-- Applies a binary operator. -/
def binaryOp : BinOp → Value → Value → Except Error Value
  | .eq, a, b => .ok (.bool (Value.equals a b))
  | .ne, a, b => .ok (.bool !(Value.equals a b))
  | .lt, a, b => .ok (.bool (Value.compare a b == .lt))
  | .le, a, b => .ok (.bool (Value.compare a b != .gt))
  | .gt, a, b => .ok (.bool (Value.compare a b == .gt))
  | .ge, a, b => .ok (.bool (Value.compare a b != .lt))
  | .isIn, a, b => (Value.contains b a).map .bool
  | .add, a, b => Value.add a b
  | .sub, a, b => Value.sub a b
  | .mul, a, b => Value.mul a b
  | .div, a, b => Value.div a b
  | .floorDiv, a, b => Value.floorDiv a b
  | .rem, a, b => Value.rem a b
  | .pow, a, b => Value.pow a b
  | .concat, a, b => .ok (Value.concat a b)

mutual

/-- Evaluates an expression. -/
def eval : Nat → Expr → RenderM Value
  | 0, _ => throw (.invalid "recursion limit exceeded")
  | fuel + 1, e =>
    match e with
    | .var name _ => lookupVar name
    | .const v _ => pure v
    | .list items _ => return .seq (← evalList fuel items)
    | .dict pairs _ => return Value.sortedMap (← evalPairs fuel pairs)
    | .neg x line => do
      let v ← use (← eval fuel x)
      liftAt line (Value.neg v)
    | .not x _ => return .bool !(← use (← eval fuel x)).isTrue
    | .and l r => do
      let a ← eval fuel l
      if (← use a).isTrue then eval fuel r else pure a
    | .or l r => do
      let a ← eval fuel l
      if (← use a).isTrue then pure a else eval fuel r
    | .cond t y n _ => do
      if (← use (← eval fuel t)).isTrue then eval fuel y
      else match n with
        | some n => eval fuel n
        | none => pure .undefined
    | .binary op l r line => do
      let a ← use (← eval fuel l)
      let b ← use (← eval fuel r)
      liftAt line (binaryOp op a b)
    | .getAttr x name line => do
      let v ← eval fuel x
      attrOf v name line
    | .getItem x i line => do
      let v ← eval fuel x
      let k ← eval fuel i
      match v, k with
      | .ns _, .str name => attrOf v name line
      | .undefined, _ => failAt line (.bare .undefinedValue)
      | v, k => do
        let v ← use v
        return (v.item? (← use k)).getD .undefined
    | .slice x a b c line => do
      let v ← use (← eval fuel x)
      let a ← evalOpt fuel a
      let b ← evalOpt fuel b
      let c ← evalOpt fuel c
      liftAt line (sliceValue v a b c)
    | .call f args line => evalCall fuel f args none line
    | .filter name x args line => do
      let v ← match x with
        | some x => eval fuel x
        | none => pure .undefined
      let vs ← evalArgs fuel args none line
      runFilter name v vs line
    | .test name x args line => do
      let v ← eval fuel x
      let vs ← evalArgs fuel args none line
      if !testNames.contains name then
        failAt line (.mk' .unknownTest ("test " ++ name ++ " is unknown"))
      let vs ← (v :: vs).mapM use
      match applyTest? name vs with
      | some r => return .bool (← liftAt line r)
      | none => failAt line (.mk' .unknownTest ("test " ++ name ++ " is unknown"))

/-- Evaluates expressions in order. -/
def evalList : Nat → List Expr → RenderM (List Value)
  | 0, _ => pure []
  | _, [] => pure []
  | fuel + 1, x :: rest => do
    let v ← eval fuel x
    return v :: (← evalList fuel rest)

/-- Evaluates the pairs of a map literal in order. -/
def evalPairs : Nat → List (Expr × Expr) → RenderM (List (Value × Value))
  | 0, _ => pure []
  | _, [] => pure []
  | fuel + 1, (k, v) :: rest => do
    let a ← use (← eval fuel k)
    let b ← eval fuel v
    return (a, b) :: (← evalPairs fuel rest)

/-- Evaluates an optional expression; absent is none. -/
def evalOpt : Nat → Option Expr → RenderM Value
  | 0, _ => pure .none
  | _, none => pure .none
  | fuel + 1, some e => eval fuel e

/-- The values a call passes: positional ones first, spread sequences expanded, then the
keyword arguments as one sorted map, with `caller` among them when given. -/
def evalArgs : Nat → List (ArgKind × Expr) → Option Value → Nat → RenderM (List Value)
  | 0, _, _, _ => pure []
  | fuel + 1, args, caller, line => do
    let pos ← evalPositional fuel args line
    let hasKeywords := caller.isSome || args.any fun (k, _) => !k.isPositional
    if !hasKeywords then return pos
    let kws ← evalKeywords fuel args
    let kws ← kws.mapM fun (k, v) => match k with
      | some name => pure [(Value.str name, v)]
      | none => do liftAt line (spreadKeywords (← use v))
    let extra := match caller with
      | some c => [(Value.str "caller", c)]
      | none => []
    return withKeywords pos (some (kws.flatten ++ extra))

/-- The positional values of a call. -/
def evalPositional : Nat → List (ArgKind × Expr) → Nat → RenderM (List Value)
  | 0, _, _ => pure []
  | _, [], _ => pure []
  | fuel + 1, (k, e) :: rest, line => do
    let here ← match k with
      | .pos => do pure [← eval fuel e]
      | .posSplat => do
        let v ← use (← eval fuel e)
        liftAt line v.iterate
      | _ => pure []
    return here ++ (← evalPositional fuel rest line)

/-- The keyword arguments of a call in order: named ones, and spread values. -/
def evalKeywords : Nat → List (ArgKind × Expr) → RenderM (List (Option String × Value))
  | 0, _ => pure []
  | _, [] => pure []
  | fuel + 1, (k, e) :: rest => do
    let here ← match k with
      | .kw name => do pure [(some name, ← eval fuel e)]
      | .kwSplat => do pure [(none, ← eval fuel e)]
      | _ => pure []
    return here ++ (← evalKeywords fuel rest)

/-- Evaluates a call: of a function by name, of a method, or of a value.  Two names are
special: `loop(items)` enters the innermost recursive loop again, and `super()` would
render the parent's version of the current block, which a template that extends
nothing never has. -/
def evalCall : Nat → Expr → List (ArgKind × Expr) → Option Value → Nat → RenderM Value
  | 0, _, _, _, _ => throw (.invalid "recursion limit exceeded")
  | fuel + 1, f, args, caller, line =>
    match f with
    | .var "super" _ => do
      let vs ← evalArgs fuel args caller line
      if !vs.isEmpty then failAt line (.invalid "super() takes no arguments")
      match (← get).block with
      | none => failAt line (.invalid "cannot super outside of block")
      | some _ => failAt line (.invalid "no parent block exists")
    | .var "loop" _ => do
      let vs ← evalArgs fuel args caller line
      match vs with
      | [v] => recurseLoop fuel v line
      | _ => failAt line (.invalid "loop() takes one argument")
    | .var name _ => do
      let vs ← evalArgs fuel args caller line
      match ← lookup? name with
      | some callee => callValue fuel callee vs line
      | none => failAt line (.mk' .unknownFunction (name ++ " is unknown"))
    | .getAttr obj name _ => do
      let o ← eval fuel obj
      let vs ← evalArgs fuel args caller line
      callMethod fuel o name vs line
    | other => do
      let c ← eval fuel other
      let vs ← evalArgs fuel args caller line
      callValue fuel c vs line

/-- An attribute of a value; looking into undefined fails. -/
def attrOf : Value → String → Nat → RenderM Value
  | .ns id, name, _ => do
    return (Value.findKey (← namespaceFields id) (.str name)).getD .undefined
  | .undefined, _, line => failAt line (.bare .undefinedValue)
  | v, name, _ => return (v.attr? name).getD .undefined

/-- Applies a filter by name. -/
def runFilter : String → Value → List Value → Nat → RenderM Value
  | name, v, vs, line => do
    if !filterNames.contains name then
      failAt line (.mk' .unknownFilter ("filter " ++ name ++ " is unknown"))
    let args ← (v :: vs).mapM use
    match applyFilter (← get).escaping name args with
    | some r => liftAt line r
    | none => failAt line (.mk' .unknownFilter ("filter " ++ name ++ " is unknown"))

/-- Calls a value: a global function, a macro, or nothing callable. -/
def callValue : Nat → Value → List Value → Nat → RenderM Value
  | 0, _, _, _ => throw (.invalid "recursion limit exceeded")
  | fuel + 1, c, vs, line =>
    match c with
    | .func "range" => do liftAt line (rangeOf (← vs.mapM use))
    | .func "dict" => do liftAt line (dictOf (← vs.mapM use))
    | .func "namespace" => do
      let vs ← vs.mapM use
      let fs ← liftAt line (Binder.bindAll (do
        match ← Binder.opt with
        | some d => match d.fields? with
          | some fs => return fs.filter (·.1.asStr?.isSome)
          | none => throw (.invalid ("expected object, got " ++ d.kind))
        | none => return []) vs)
      newNamespace fs
    | .func "raise_exception" => do
      let msg ← liftAt line (Binder.bindAll (Binder.conv Value.argText) (← vs.mapM use))
      failAt line (.invalid msg)
    | .func "debug" => do
      liftAt line (Binder.bindAll (pure ()) vs)
      return .str (← debugText)
    | .macroRef id .. => callMacro fuel id vs line
    | .loop .. =>
      failAt line (.mk' .unknownFunction "loop cannot be called if reassigned to different variable")
    | .undefined | .none | .bool _ | .int _ | .float _ | .str _ | .safe _ =>
      failAt line (.invalid ("value of type " ++ c.kind ++ " is not callable"))
    | _ => failAt line (.invalid "object is not callable")

/-- Calls a method: `changed` and `cycle` of a loop (a loop has no other methods), or a
callable field of an object. -/
def callMethod : Nat → Value → String → List Value → Nat → RenderM Value
  | 0, _, _, _, _ => throw (.invalid "recursion limit exceeded")
  | fuel + 1, o, name, vs, line => do
    let unknown : RenderM Value :=
      failAt line (.mk' .unknownMethod (o.kind ++ " has no method named " ++ name))
    match o, name with
    | .loop id .., "changed" => do
      let vs ← vs.mapM use
      let s ← get
      let last := (s.changed[id]?).join
      let same := match last with
        | some prev => prev.length == vs.length && (prev.zip vs).all fun (a, b) => Value.equals a b
        | none => false
      if same then return .bool false
      set { s with changed := s.changed.modify id fun _ => some vs }
      return .bool true
    | .loop _ i .., "cycle" =>
      if vs.isEmpty then return .undefined else return (vs[i % vs.length]?).getD .undefined
    | .loop .., _ => unknown
    | .ns id, _ => do
      match Value.findKey (← namespaceFields id) (.str name) with
      | some f => callValue fuel f vs line
      | none => unknown
    | o, _ =>
      if o.isObject then
        match o.getValue? (.str name) with
        | some f => callValue fuel f vs line
        | none => unknown
      else unknown

/-- Calls a macro with the values of a call. -/
def callMacro : Nat → Nat → List Value → Nat → RenderM Value
  | 0, _, _, _ => throw (.invalid "recursion limit exceeded")
  | fuel + 1, id, vs, line => do
    let some m := (← get).macros[id]? | failAt line (.invalid "unknown macro")
    let (pos, kw) := splitKwargs vs
    if pos.length > m.params.length then failAt line (.bare .tooManyArguments)
    let bound ← m.params.zipIdx.mapM fun (p, i) =>
      match pos[i]?, kw.get? p with
      | some _, some _ =>
        failAt line ⟨.tooManyArguments, some ("duplicate argument `" ++ p ++ "`"), 0⟩
      | some a, none => pure (a, false)
      | none, some k => pure (k, true)
      | none, none => pure (.undefined, false)
    let used := (m.params.zip bound).filterMap fun (p, (_, byName)) =>
      if byName then some p else none
    let caller := if m.callerRef then
        some ((Value.findKey kw.fields (.str "caller")).getD .undefined)
      else none
    let used := if m.callerRef then "caller" :: used else used
    match kw.fields.find? fun (k, _) => match k.asStr? with
        | some n => !used.contains n
        | none => false with
    | some (k, _) =>
      failAt line ⟨.tooManyArguments,
        some ("unknown keyword argument `" ++ k.display ++ "`"), 0⟩
    | none => pure ()
    let s ← get
    let saved := (s.frames, s.outer, s.block)
    let outer := s.outer + s.frames.length + macroCost
    if outer + 1 > recursionLimit then failAt line (.invalid "recursion limit exceeded")
    set { s with frames := [{ base := .closure m.closure }], outer, block := none }
    match caller with
    | some c => store "caller" c
    | none => pure ()
    bindParams fuel m ((m.params.zip (bound.map (·.1))).zipIdx.reverse)
    let text ← execList fuel m.body
    modify fun s => { s with frames := saved.1, outer := saved.2.1, block := saved.2.2 }
    captured text

/-- Binds macro parameters last to first, a default filling an undefined value. -/
def bindParams : Nat → MacroDef → List ((String × Value) × Nat) → RenderM Unit
  | 0, _, _ => pure ()
  | _, _, [] => pure ()
  | fuel + 1, m, ((p, v), i) :: rest => do
    let firstDefault := m.params.length - m.defaults.length
    let v ← if v.isUndefined && i ≥ firstDefault then
        match m.defaults[i - firstDefault]? with
        | some d => eval fuel d
        | none => pure v
      else pure v
    store p v
    bindParams fuel m rest

/-- Defines a macro: the names it looks up are copied into the closure of the current
frame. -/
def defineMacro : Nat → String → List String → List Expr → List Stmt → List String → Bool →
    RenderM Value
  | _, name, params, defaults, body, free, callerRef => do
    let c ← currentClosure
    for n in free do
      let v ← lookupVar n
      modify fun s => { s with closures := s.closures.modify c (setField · n v) }
    let s ← get
    set { s with macros := s.macros.push ⟨name, params, defaults, body, c, callerRef⟩ }
    return .macroRef s.macros.size name params callerRef

/-- Enters the innermost recursive loop again with new items. -/
def recurseLoop : Nat → Value → Nat → RenderM Value
  | 0, _, _ => throw (.invalid "recursion limit exceeded")
  | fuel + 1, v, line => do
    match ← currentLoop with
    | some ⟨_, depth, some again⟩ => do
      let v ← use v
      let (items, sized) ← liftAt again.line (match v.iterate? with
        | some r => .ok r
        | none => .error (.invalid (v.kind ++ " is not iterable")))
      let text ← runLoop fuel again.target items sized (some again) again.body (depth + 1)
        again.line
      captured text
    | _ => failAt line (.invalid "cannot recurse outside of recursive loop")

/-- Runs a loop body once per item in a frame of its own. -/
def runLoop : Nat → Target → List Value → Bool → Option LoopBody → List Stmt → Nat → Nat →
    RenderM String
  | 0, _, _, _, _, _, _, _ => throw (.invalid "recursion limit exceeded")
  | fuel + 1, t, items, sized, again, body, depth, line => do
    let s ← get
    let id := s.changed.size
    set { s with changed := s.changed.push none }
    let n := if sized then some items.length else none
    pushFrame {}
    let text ← loopItems fuel t body id n depth again line items
    popFrame
    return text

/-- The iterations of a loop in the loop's frame: each item is assigned to the target and
the body rendered, at the same depth for every item. -/
def loopItems : Nat → Target → List Stmt → Nat → Option Nat → Nat → Option LoopBody → Nat →
    List Value → RenderM String
  | 0, _, _, _, _, _, _, _, _ => pure ""
  | fuel + 1, t, body, id, n, depth, again, line, items =>
    eachItem (fun x i prev next => do
      let loopValue := Value.loop id i n depth prev next
      modify fun s => match s.frames with
        | f :: fs => { s with frames := { f with loop := some ⟨loopValue, depth, again⟩ } :: fs }
        | [] => s
      assign fuel t x line
      execList fuel body) none items 0

/-- Assigns a value to a target; unpacking failures are reported on `line`. -/
def assign : Nat → Target → Value → Nat → RenderM Unit
  | 0, _, _, _ => pure ()
  | fuel + 1, t, v, line =>
    match t with
    | .name n => store n v
    | .attr obj field => do
      let o ← eval fuel obj
      match o with
      | .ns id => setNamespaceField id field v
      | o =>
        failAt (obj.exitLine line 64)
          (.invalid ("can only assign to namespaces, not " ++ o.kind))
    | .tuple ts => do
      let v ← use v
      let xs ← match v.isObject, v.iterate? with
        | true, some (xs, _) => pure xs
        | _, _ => failAt line (.mk' .cannotUnpack "value is not iterable")
      if xs.length != ts.length then
        failAt line (.mk' .cannotUnpack ("sequence of wrong length (expected " ++
          toString ts.length ++ ", got " ++ toString xs.length ++ ")"))
      assignAll fuel (ts.zip xs) line

/-- Assigns values to targets pairwise. -/
def assignAll : Nat → List (Target × Value) → Nat → RenderM Unit
  | 0, _, _ => pure ()
  | _, [], _ => pure ()
  | fuel + 1, (t, v) :: rest, line => do
    assign fuel t v line
    assignAll fuel rest line

/-- Applies a chain of filters whose innermost operand is missing to a value. -/
def applyChain : Nat → Expr → Value → RenderM Value
  | 0, _, _ => throw (.invalid "recursion limit exceeded")
  | fuel + 1, e, v =>
    match e with
    | .filter name inner args line => do
      let w ← match inner with
        | some i => applyChain fuel i v
        | none => pure v
      let vs ← evalArgs fuel args none line
      runFilter name w vs line
    | _ => pure v

/-- Renders statements in order. -/
def execList : Nat → List Stmt → RenderM String
  | 0, _ => throw (.invalid "recursion limit exceeded")
  | _, [] => pure ""
  | fuel + 1, s :: rest => do
    let a ← exec fuel s
    let b ← execList fuel rest
    return a ++ b

/-- Renders one statement. -/
def exec : Nat → Stmt → RenderM String
  | 0, _ => throw (.invalid "recursion limit exceeded")
  | fuel + 1, s =>
    match s with
    | .raw t => pure t
    | .emit e _ => do
      let v ← use (← eval fuel e)
      return v.escapedText (← get).escaping
    | .ifThen c yes no _ => do
      if (← use (← eval fuel c)).isTrue then execList fuel yes else execList fuel no
    | .set t e line => do
      let v ← eval fuel e
      assign fuel t v line
      return ""
    | .setBlock t f b line => do
      let v ← captured (← execList fuel b)
      let v ← match f with
        | some fe => applyChain fuel fe v
        | none => pure v
      assign fuel t v line
      return ""
    | .macroDef name params defaults b free callerRef _ => do
      let v ← defineMacro fuel name params defaults b free callerRef
      store name v
      return ""
    | .callBlock c params defaults b free callerRef _ => do
      let callerV ← defineMacro fuel "caller" params defaults b free callerRef
      match c with
      | .call f args line => do
        let v ← use (← evalCall fuel f args (some callerV) line)
        return v.escapedText (← get).escaping
      | _ => return ""
    | .filterBlock f b _ => do
      let v ← captured (← execList fuel b)
      let v ← use (← applyChain fuel f v)
      return v.escapedText (← get).escaping
    | .withBlock binds b _ => do
      pushFrame {}
      bindAll fuel binds
      let text ← execList fuel b
      popFrame
      return text
    | .includeTemplate e ignore line => do
      let v ← use (← eval fuel e)
      includeNamed fuel v ignore line
    | .importTemplate e line => do
      let v ← use (← eval fuel e)
      pushFrame {}
      discard (includeNamed fuel v false line)
      popFrame
      return ""
    | .extendTemplate e line => do
      let v ← use (← eval fuel e)
      match v.asStr? with
      | some "chat" =>
        failAt line (.invalid
          "cycle in template inheritance. \"chat\" was referenced more than once")
      | some name =>
        failAt line (.mk' .templateNotFound ("template " ++ Value.quoted name ++ " does not exist"))
      | none => failAt line (.invalid "template name was not a string")
    | .block name b _ => do
      let saved := (← get).block
      modify fun s => { s with block := some name }
      pushFrame {}
      let text ← execList fuel b
      popFrame
      modify fun s => { s with block := saved }
      return text
    | .doExpr e _ => do
      discard (eval fuel e)
      return ""
    | .autoescape e b line => do
      let v ← use (← eval fuel e)
      let mode ← liftAt line (escapingOf v)
      let saved := (← get).escaping
      modify fun s => { s with escaping := mode }
      let text ← execList fuel b
      modify fun s => { s with escaping := saved }
      return text
    | .forLoop t iter cond recursive b elseB line => do
      let v ← use (← eval fuel iter)
      let (items, sized) ← liftAt line (match v.iterate? with
        | some r => .ok r
        | none => .error (.invalid (v.kind ++ " is not iterable")))
      let (items, sized) ← match cond with
        | some c => do
          pushFrame {}
          let kept ← filterItems fuel t c line items
          popFrame
          pure (kept, true)
        | none => pure (items, sized)
      if items.isEmpty then execList fuel elseB
      else
        let outerDepth := match ← currentLoop with
          | some ⟨_, d, some _⟩ => d + 1
          | _ => 0
        let again := if recursive then some ⟨t, b, line⟩ else none
        runLoop fuel t items sized again b outerDepth line

/-- The items of a loop that pass its condition, each assigned to the target first. -/
def filterItems : Nat → Target → Expr → Nat → List Value → RenderM (List Value)
  | 0, _, _, _, _ => pure []
  | fuel + 1, t, c, line, items =>
    keepItems (fun x => do
      assign fuel t x line
      return (← use (← eval fuel c)).isTrue) items

/-- Binds the targets of a `with` block in order. -/
def bindAll : Nat → List (Target × Expr) → RenderM Unit
  | 0, _ => pure ()
  | _, [] => pure ()
  | fuel + 1, (t, e) :: rest => do
    let v ← eval fuel e
    assign fuel t v 0
    bindAll fuel rest

/-- Includes the template a name (or the first existing of a list of names) names; only
the chat template itself exists.  The names are tried in order, and one that is not a
string fails when it is reached.  An included template runs in the current frames, but
with escaping off and without the closure of the innermost frame, and counts ten frames
towards the nesting limit; a failure inside it is reported as a failure to include it,
unless it ends the program. -/
def includeNamed : Nat → Value → Bool → Nat → RenderM String
  | 0, _, _, _ => throw (.invalid "recursion limit exceeded")
  | fuel + 1, v, ignore, line => do
    let choices := match v with
      | .seq xs => xs
      | v => [v]
    for c in choices do
      match c.asStr? with
      | none => failAt line (.invalid "template name was not a string")
      | some "chat" =>
        let s ← get
        if s.outer + includeCost + s.frames.length > recursionLimit then
          failAt line (.invalid "recursion limit exceeded")
        let closure := (s.frames.head?.map (·.closure)).join
        let withClosure := fun (c : Option Nat) (fs : List Frame) => match fs with
          | f :: rest => { f with closure := c } :: rest
          | [] => []
        set { s with outer := s.outer + includeCost, escaping := .none,
                     frames := withClosure none s.frames }
        let text ← tryCatch (execList fuel s.program) fun e =>
          if e.kind == .aborted then throw e
          else failAt line ⟨.badInclude, some "error in \"chat\"", 0⟩
        modify fun t => { t with outer := s.outer, escaping := s.escaping,
                                 frames := withClosure closure t.frames }
        return text
      | some _ => pure ()
    if ignore || choices.isEmpty then return ""
    match choices with
    | [c] =>
      failAt line (.mk' .templateNotFound ("tried to include non-existing template " ++ c.repr))
    | cs =>
      failAt line (.mk' .templateNotFound
        ("tried to include one of multiple templates, none of which existed " ++ (Value.seq cs).repr))

end

/-! ## 7. Whole templates -/

/-- A template: its statements with report lines and closures. -/
structure Program where
  stmts : List Stmt

/-- Compiles template source. -/
def parseTemplate (src : String) : Except Error Program := do
  let stmts ← parseStatements src
  let fuel := 4 * src.length + 64
  return ⟨resolveStmts fuel (annotateLines fuel stmts)⟩

/-- Renders a template against a context. -/
def Program.render (p : Program) (context : List (Value × Value)) : Except Error String :=
  let run : RenderM String := execList 1000000 p.stmts
  (run.run { frames := [{ base := .context context }], program := p.stmts }).map (·.1)

end LowRankTuner.Template
