/-
  LowRankTuner/Template/Parse.lean
  ================================
  Parsing template tokens into statements.

  The grammar, loosest binding first: conditional expressions `a if c else b`, `or`,
  `and`, `not`, comparisons and `in`, `+ -`, `~`, `* / // %`, `**`, unary minus, then
  postfix attribute access, subscripts, slices and calls, and last filters `|f(…)` and
  tests `is t(…)`, which therefore bind tighter than every binary operator.

  A minus sign before a number literal is folded into the literal; a literal that cannot
  be negated stays as it is.  String literals written one after another are one string
  (`'a' 'b'` is `'ab'`).  A call passes positional arguments first and keyword
  arguments after them; `*` and `**` spread a sequence or a map into the arguments.

  A statement body runs until a tag whose keyword ends it (`endfor`, `else`, …); the
  keyword itself is consumed by the statement, and the tag's closing `%}` by the body
  that contains the statement.  A syntax error is reported on the line of the last token
  consumed, with the words `unexpected X, expected Y`.

  At most 150 expressions and statements may be open at once; a block may not be defined
  twice, nor inside the body of a macro or of a `call` block.
-/
import LowRankTuner.Template.Lexer
import LowRankTuner.Template.Syntax
import LowRankTuner.Template.Ops

namespace LowRankTuner.Template

/-! ## 1. The token stream -/

/-- An index of the constructors of tokens, for comparing tokens without payload. -/
def Token.code : Token → Nat
  | .data _ => 0 | .varStart => 1 | .varEnd => 2 | .blockStart => 3 | .blockEnd => 4
  | .ident _ => 5 | .str _ => 6 | .int _ => 7 | .float _ => 8 | .plus => 9 | .minus => 10
  | .mul => 11 | .div => 12 | .floorDiv => 13 | .pow => 14 | .mod => 15 | .dot => 16
  | .comma => 17 | .colon => 18 | .tilde => 19 | .assign => 20 | .pipe => 21 | .eq => 22
  | .ne => 23 | .gt => 24 | .ge => 25 | .lt => 26 | .le => 27 | .lbracket => 28
  | .rbracket => 29 | .lparen => 30 | .rparen => 31 | .lbrace => 32 | .rbrace => 33

/-- The token is `u`: the same constructor, and the same name for names. -/
def Token.is (t u : Token) : Bool :=
  match t, u with
  | .ident a, .ident b => a == b
  | _, _ => t.code == u.code && t.code != 5

/-- The token is a name. -/
def Token.name? : Token → Option String
  | .ident s => some s
  | _ => none

/-- The position in the token stream, the line of the last token consumed, how many
expressions and statements are open around the current token, whether it is inside the
body of a macro, and the names of the blocks seen so far. -/
structure ParseState where
  pos : Nat
  lastLine : Nat
  depth : Nat := 0
  inMacro : Bool := false
  blocks : List String := []

/-- Parsing over a token array. -/
abbrev ParseM := ReaderT (Array Lexeme) (StateT ParseState (Except Error))

/-- The next token, not consumed. -/
def peekTok : ParseM (Option Token) := do
  return ((← read)[(← get).pos]?).map (·.tok)

/-- The line of the next token, or of the last one consumed at the end. -/
def peekLine : ParseM Nat := do
  match (← read)[(← get).pos]? with
  | some l => return l.line
  | none => return (← get).lastLine

/-- Consumes the next token. -/
def advance : ParseM (Option Lexeme) := do
  let s ← get
  match (← read)[s.pos]? with
  | some l => set { s with pos := s.pos + 1, lastLine := l.line }; return some l
  | none => return none

/-- A syntax error on the line of the last token consumed. -/
def failSyntax {α : Type} (msg : String) : ParseM α := do
  throw (syntaxError msg (← get).lastLine)

/-- Consumes a token that must satisfy `ok`; `what` names what was expected. -/
def expectTok (ok : Token → Bool) (what : String) : ParseM Lexeme := do
  match ← advance with
  | none => failSyntax ("unexpected end of input, expected " ++ what)
  | some l => if ok l.tok then return l
              else failSyntax ("unexpected " ++ l.tok.describe ++ ", expected " ++ what)

/-- Consumes the next token if it is `t`. -/
def skipTok (t : Token) : ParseM Bool := do
  match ← peekTok with
  | some u => if u.is t then discard advance; return true else return false
  | none => return false

/-- The next token is `t`. -/
def atTok (t : Token) : ParseM Bool := do
  match ← peekTok with
  | some u => return u.is t
  | none => return false

/-- Consumes a name. -/
def expectName : ParseM String := do
  let l ← expectTok (fun t => t.name?.isSome) "identifier"
  return l.tok.name?.getD ""

/-- A string literal joined with the string literals that directly follow it; `fuel`
bounds how many are read. -/
def adjacentStrings : Nat → String → ParseM String
  | 0, s => return s
  | fuel + 1, s => do
    match ← peekTok with
    | some (.str t) => discard advance; adjacentStrings fuel (s ++ t)
    | _ => return s

/-- Names that cannot be assigned. -/
def reservedNames : List String := ["true", "True", "false", "False", "none", "None", "loop", "self"]

/-- The failure of running out of nesting. -/
def tooDeep : Error := syntaxError "template exceeds maximum recursion limits" 0

/-- Runs a parser on the body of a macro. -/
def inMacroBody {α : Type} (x : ParseM α) : ParseM α := do
  let outer := (← get).inMacro
  modify fun s => { s with inMacro := true }
  let r ← x
  modify fun s => { s with inMacro := outer }
  return r

/-- How many expressions, primary expressions and statements may be open at once; the
conditions of `if` and `for` do not count as expressions of their own. -/
def maxNesting : Nat := 150

/-- Runs a parser one nesting level deeper; past `maxNesting` levels the template is
refused. -/
def nested {α : Type} (x : ParseM α) : ParseM α := do
  let s ← get
  if s.depth + 1 > maxNesting then
    throw (syntaxError "template exceeds maximum recursion limits" s.lastLine)
  set { s with depth := s.depth + 1 }
  let r ← x
  modify fun t => { t with depth := t.depth - 1 }
  return r

/-! ## 2. Expressions -/

/-- A binary operator token of the additive level. -/
def additiveOp : Token → Option BinOp
  | .plus => some .add | .minus => some .sub | _ => none

/-- A binary operator token of the multiplicative level. -/
def multiplicativeOp : Token → Option BinOp
  | .mul => some .mul | .div => some .div | .floorDiv => some .floorDiv | .mod => some .rem
  | _ => none

/-- A comparison operator token. -/
def comparisonOp : Token → Option BinOp
  | .eq => some .eq | .ne => some .ne | .lt => some .lt | .le => some .le
  | .gt => some .gt | .ge => some .ge | .ident "in" => some .isIn | _ => none

/-- The token may start the single argument of a test written without parentheses. -/
def startsTestArg : Token → Bool
  | .ident n => !(n == "and" || n == "or" || n == "else" || n == "is")
  | .str _ | .int _ | .float _ | .plus | .minus | .lbracket | .lbrace => true
  | _ => false

mutual

/-- An expression, conditional expressions included, one nesting level deeper. -/
def expr : Nat → ParseM Expr
  | 0 => throw tooDeep
  | fuel + 1 => nested (condExpr fuel)

/-- An expression, conditional expressions included; a conditional starts on the line of
the token before it. -/
def condExpr : Nat → ParseM Expr
  | 0 => throw tooDeep
  | fuel + 1 => do
    let start := (← get).lastLine
    let e ← orExpr fuel
    condTail fuel start e

/-- Conditional expressions after their first operand. -/
def condTail : Nat → Nat → Expr → ParseM Expr
  | 0, _, _ => throw tooDeep
  | fuel + 1, start, e => do
    if ← skipTok (.ident "if") then
      let c ← orExpr fuel
      let no ← if ← skipTok (.ident "else") then some <$> condExpr fuel else pure none
      condTail fuel (← get).lastLine (.cond c e no start)
    else return e

/-- `or` chains. -/
def orExpr : Nat → ParseM Expr
  | 0 => throw tooDeep
  | fuel + 1 => do
    let e ← andExpr fuel
    orTail fuel e

/-- The rest of an `or` chain. -/
def orTail : Nat → Expr → ParseM Expr
  | 0, _ => throw tooDeep
  | fuel + 1, e => do
    if ← skipTok (.ident "or") then orTail fuel (.or e (← andExpr fuel)) else return e

/-- `and` chains. -/
def andExpr : Nat → ParseM Expr
  | 0 => throw tooDeep
  | fuel + 1 => do
    let e ← notExpr fuel
    andTail fuel e

/-- The rest of an `and` chain. -/
def andTail : Nat → Expr → ParseM Expr
  | 0, _ => throw tooDeep
  | fuel + 1, e => do
    if ← skipTok (.ident "and") then andTail fuel (.and e (← notExpr fuel)) else return e

/-- `not` and what it applies to. -/
def notExpr : Nat → ParseM Expr
  | 0 => throw tooDeep
  | fuel + 1 => do
    let line ← peekLine
    if ← skipTok (.ident "not") then return .not (← notExpr fuel) line
    else
      let e ← additive fuel
      compareTail fuel e

/-- Comparisons after their first operand. -/
def compareTail : Nat → Expr → ParseM Expr
  | 0, _ => throw tooDeep
  | fuel + 1, e => do
    let line ← peekLine
    match ← peekTok with
    | some (.ident "not") =>
      discard advance
      discard (expectTok (·.is (.ident "in")) "in")
      let r ← additive fuel
      compareTail fuel (.not (.binary .isIn e r line) line)
    | some t =>
      match comparisonOp t with
      | some op =>
        discard advance
        let r ← additive fuel
        compareTail fuel (.binary op e r line)
      | none => return e
    | none => return e

/-- `+` and `-` chains. -/
def additive : Nat → ParseM Expr
  | 0 => throw tooDeep
  | fuel + 1 => do
    let e ← concatExpr fuel
    additiveTail fuel e

/-- The rest of an additive chain. -/
def additiveTail : Nat → Expr → ParseM Expr
  | 0, _ => throw tooDeep
  | fuel + 1, e => do
    let line ← peekLine
    match (← peekTok).bind additiveOp with
    | some op => discard advance; additiveTail fuel (.binary op e (← concatExpr fuel) line)
    | none => return e

/-- `~` chains. -/
def concatExpr : Nat → ParseM Expr
  | 0 => throw tooDeep
  | fuel + 1 => do
    let e ← multiplicative fuel
    concatTail fuel e

/-- The rest of a `~` chain. -/
def concatTail : Nat → Expr → ParseM Expr
  | 0, _ => throw tooDeep
  | fuel + 1, e => do
    let line ← peekLine
    if ← skipTok .tilde then concatTail fuel (.binary .concat e (← multiplicative fuel) line)
    else return e

/-- `*`, `/`, `//` and `%` chains. -/
def multiplicative : Nat → ParseM Expr
  | 0 => throw tooDeep
  | fuel + 1 => do
    let e ← power fuel
    multiplicativeTail fuel e

/-- The rest of a multiplicative chain. -/
def multiplicativeTail : Nat → Expr → ParseM Expr
  | 0, _ => throw tooDeep
  | fuel + 1, e => do
    let line ← peekLine
    match (← peekTok).bind multiplicativeOp with
    | some op => discard advance; multiplicativeTail fuel (.binary op e (← power fuel) line)
    | none => return e

/-- `**` chains. -/
def power : Nat → ParseM Expr
  | 0 => throw tooDeep
  | fuel + 1 => do
    let e ← unary fuel
    powerTail fuel e

/-- The rest of a `**` chain. -/
def powerTail : Nat → Expr → ParseM Expr
  | 0, _ => throw tooDeep
  | fuel + 1, e => do
    let line ← peekLine
    if ← skipTok .pow then powerTail fuel (.binary .pow e (← unary fuel) line) else return e

/-- Unary minus, trailing accesses and calls, then filters and tests. -/
def unary : Nat → ParseM Expr
  | 0 => throw tooDeep
  | fuel + 1 => do
    let e ← unaryOnly fuel
    let e ← trailers fuel e
    filterTail fuel e

/-- Unary minus over a primary expression; a number literal takes the sign itself. -/
def unaryOnly : Nat → ParseM Expr
  | 0 => throw tooDeep
  | fuel + 1 => do
    let line ← peekLine
    if ← skipTok .minus then
      match ← unaryOnly fuel with
      | .const v l =>
        if v.isNumber then return .const ((Value.neg v).toOption.getD v) line
        else return .neg (.const v l) line
      | e => return .neg e line
    else primary fuel

/-- Attribute access, subscripts, slices and calls. -/
def trailers : Nat → Expr → ParseM Expr
  | 0, _ => throw tooDeep
  | fuel + 1, e => do
    let line ← peekLine
    match ← peekTok with
    | some .dot =>
      discard advance
      let l ← expectTok (fun t => t.name?.isSome || t.code == 7) "identifier or integer"
      match l.tok with
      | .int n => trailers fuel (.getItem e (.const (.int n) l.line) line)
      | t => trailers fuel (.getAttr e (t.name?.getD "") line)
    | some .lbracket =>
      discard advance
      let start ← if ← atTok .colon then pure none else some <$> expr fuel
      if ← skipTok .colon then
        let stop ← if (← atTok .rbracket) || (← atTok .colon) then pure none
                   else some <$> expr fuel
        let step ← if ← skipTok .colon then
                     if ← atTok .rbracket then pure none else some <$> expr fuel
                   else pure none
        discard (expectTok (·.is .rbracket) "`]`")
        trailers fuel (.slice e start stop step line)
      else
        discard (expectTok (·.is .rbracket) "`]`")
        match start with
        | some i => trailers fuel (.getItem e i line)
        | none => failSyntax "empty subscript"
    | some .lparen =>
      let args ← callArgs fuel
      trailers fuel (.call e args line)
    | _ => return e

/-- Filters `|name(args)` and tests `is [not] name(args)` after an operand. -/
def filterTail : Nat → Expr → ParseM Expr
  | 0, _ => throw tooDeep
  | fuel + 1, e => do
    match ← peekTok with
    | some .pipe =>
      discard advance
      let l ← expectTok (fun t => t.name?.isSome) "identifier"
      let args ← if ← atTok .lparen then callArgs fuel else pure []
      filterTail fuel (.filter (l.tok.name?.getD "") (some e) args l.line)
    | some (.ident "is") =>
      let isLine := (← peekLine)
      discard advance
      let negated ← skipTok (.ident "not")
      let l ← expectTok (fun t => t.name?.isSome) "identifier"
      let args ← match ← peekTok with
        | some .lparen => callArgs fuel
        | some t =>
          if startsTestArg t then do
            let a ← unaryOnly fuel
            let a ← trailers fuel a
            pure [(ArgKind.pos, a)]
          else pure []
        | none => pure []
      let t := Expr.test (l.tok.name?.getD "") e args l.line
      filterTail fuel (if negated then .not t isLine else t)
    | _ => return e

/-- Literals, names, parenthesised expressions and tuples, lists and maps. -/
def primary : Nat → ParseM Expr
  | 0 => throw tooDeep
  | fuel + 1 => nested do
    match ← advance with
    | none => failSyntax "unexpected end of input, expected expression"
    | some l =>
      match l.tok with
      | .ident "true" | .ident "True" => return .const (.bool true) l.line
      | .ident "false" | .ident "False" => return .const (.bool false) l.line
      | .ident "none" | .ident "None" => return .const .none l.line
      | .ident n => return .var n l.line
      | .str s => return .const (.str (← adjacentStrings (← read).size s)) l.line
      | .int n => return .const (.int n) l.line
      | .float x => return .const (.float x) l.line
      | .lparen =>
        if ← skipTok .rparen then return .list [] l.line
        else
          let e ← expr fuel
          if ← atTok .comma then
            let items ← literalItems fuel .rparen [e]
            return .list items l.line
          else
            discard (expectTok (·.is .rparen) "`)`")
            return e
      | .lbracket => return .list (← literalItems fuel .rbracket []) l.line
      | .lbrace => return .dict (← dictItems fuel []) l.line
      | t => failSyntax ("unexpected " ++ t.describe)

/-- Items of a list or tuple up to its closing token. -/
def literalItems : Nat → Token → List Expr → ParseM (List Expr)
  | 0, _, _ => throw tooDeep
  | fuel + 1, close, acc => do
    if ← skipTok close then return acc.reverse
    if !acc.isEmpty then
      discard (expectTok (·.is .comma) "`,`")
      if ← skipTok close then return acc.reverse
    let e ← expr fuel
    literalItems fuel close (e :: acc)

/-- Pairs of a map literal up to `}`. -/
def dictItems : Nat → List (Expr × Expr) → ParseM (List (Expr × Expr))
  | 0, _ => throw tooDeep
  | fuel + 1, acc => do
    if ← skipTok .rbrace then return acc.reverse
    if !acc.isEmpty then
      discard (expectTok (·.is .comma) "`,`")
      if ← skipTok .rbrace then return acc.reverse
    let k ← expr fuel
    discard (expectTok (·.is .colon) "`:`")
    let v ← expr fuel
    dictItems fuel ((k, v) :: acc)

/-- Call arguments in parentheses. -/
def callArgs : Nat → ParseM (List (ArgKind × Expr))
  | 0 => throw tooDeep
  | fuel + 1 => do
    discard (expectTok (·.is .lparen) "`(`")
    argItems fuel [] false

/-- Arguments up to `)`; `kw` tells whether a keyword argument came already.  Keyword
values are expressions without a conditional. -/
def argItems : Nat → List (ArgKind × Expr) → Bool → ParseM (List (ArgKind × Expr))
  | 0, _, _ => throw tooDeep
  | fuel + 1, acc, kw => do
    if ← skipTok .rparen then return acc.reverse
    if !acc.isEmpty || kw then
      discard (expectTok (·.is .comma) "`,`")
      if ← skipTok .rparen then return acc.reverse
    if ← skipTok .pow then
      let e ← expr fuel
      argItems fuel ((.kwSplat, e) :: acc) true
    else if ← skipTok .mul then
      let e ← expr fuel
      argItems fuel ((.posSplat, e) :: acc) kw
    else
      let e ← expr fuel
      match e with
      | .var n _ =>
        if ← skipTok .assign then
          let v ← orExpr fuel
          argItems fuel ((.kw n, v) :: acc) true
        else if kw then failSyntax "non-keyword arg after keyword arg"
        else argItems fuel ((.pos, e) :: acc) kw
      | _ =>
        if kw then failSyntax "non-keyword arg after keyword arg"
        else argItems fuel ((.pos, e) :: acc) kw

end

/-- The expression of an emitting tag or a `set`: a single expression, or a tuple of
expressions separated by commas, written as a list. -/
def tupleExpr (fuel : Nat) : ParseM Expr := do
  let line ← peekLine
  let first ← expr fuel
  if !(← atTok .comma) then return first
  let rec more : Nat → List Expr → ParseM (List Expr)
    | 0, acc => return acc.reverse
    | n + 1, acc => do
      if !(← skipTok .comma) then return acc.reverse
      match ← peekTok with
      | some .rparen | some .varEnd | some .blockEnd | none => return acc.reverse
      | _ => more n ((← expr fuel) :: acc)
  return .list (← more (fuel + 1) [first]) line

/-! ## 3. Statements -/

/-- A name that may be assigned, with attributes after it when `dotted` (`ns.count`). -/
def assignName (dotted : Bool) : ParseM Target := do
  let l ← expectTok (fun t => t.name?.isSome) "identifier"
  let n := l.tok.name?.getD ""
  if reservedNames.contains n then failSyntax ("cannot assign to reserved variable name " ++ n)
  if !dotted then return .name n
  let rec attrs : Nat → Expr → Option String → ParseM Target
    | 0, obj, field => return match field with
      | some f => .attr obj f
      | none => .name n
    | k + 1, obj, field => do
      if ← skipTok .dot then
        let f ← expectTok (fun t => t.name?.isSome) "identifier"
        let obj := match field with
          | some g => Expr.getAttr obj g f.line
          | none => obj
        attrs k obj (some (f.tok.name?.getD ""))
      else return match field with
        | some f => .attr obj f
        | none => .name n
  attrs 64 (.var n l.line) none

/-- The end of an assignment target list. -/
def endsTargets : Option Token → Bool
  | some .rparen | some .varEnd | some .blockEnd | some (.ident "in") => true
  | _ => false

/-- The targets of a target list, with whether it is a tuple; `inner` parses a target in
parentheses, and `n` bounds how many are read. -/
def assignmentItems (inner : ParseM Target) : Nat → List Target → ParseM (List Target × Bool)
  | 0, acc => return (acc.reverse, false)
  | n + 1, acc => do
    if !acc.isEmpty then discard (expectTok (·.is .comma) "`,`")
    if endsTargets (← peekTok) then return (acc.reverse, true)
    let t ← if ← skipTok .lparen then do
        let t ← inner
        discard (expectTok (·.is .rparen) "`)`")
        pure t
      else assignName true
    if ← atTok .comma then assignmentItems inner n (t :: acc)
    else return ((t :: acc).reverse, acc.length > 0)

/-- An assignment target: a name, or targets separated by commas. -/
def assignment : Nat → ParseM Target
  | 0 => throw tooDeep
  | fuel + 1 => do
    let (ts, tuple) ← assignmentItems (assignment fuel) (fuel + 1) []
    match ts, tuple with
    | [t], false => return t
    | ts, _ => return .tuple ts

/-- The parameters of a macro after its `(`: names, and the defaults of the last ones. -/
def macroParams (fuel : Nat) : ParseM (List String × List Expr) := do
  let rec go : Nat → List String → List Expr → ParseM (List String × List Expr)
    | 0, ps, ds => return (ps.reverse, ds.reverse)
    | n + 1, ps, ds => do
      if ← skipTok .rparen then return (ps.reverse, ds.reverse)
      if !ps.isEmpty then
        discard (expectTok (·.is .comma) "`,`")
        if ← skipTok .rparen then return (ps.reverse, ds.reverse)
      let name ← match ← assignName false with
        | .name s => pure s
        | _ => pure ""
      if ← skipTok .assign then
        let d ← expr fuel
        go n (name :: ps) (d :: ds)
      else
        if !ds.isEmpty then discard (expectTok (·.is .assign) "`=`")
        go n (name :: ps) ds
  go (fuel + 1) [] []

/-- A chain of filters applied to a block's output, as a filter expression whose innermost
operand is missing. -/
def filterChain (fuel : Nat) : ParseM Expr := do
  let rec go : Nat → Option Expr → ParseM (Option Expr)
    | 0, f => return f
    | n + 1, f => do
      if ← atTok .blockEnd then return f
      if f.isSome then discard (expectTok (·.is .pipe) "`|`")
      let l ← expectTok (fun t => t.name?.isSome) "identifier"
      let args ← if ← atTok .lparen then callArgs fuel else pure []
      go n (some (.filter (l.tok.name?.getD "") f args l.line))
  match ← go (fuel + 1) none with
  | some f => return f
  | none => failSyntax "expected a filter"

/-- Keyword tests for the ends of bodies. -/
def isKeyword (names : List String) : Token → Bool
  | .ident n => names.contains n
  | _ => false

/-- An optional `with context` or `without context`; whether one was there. -/
def contextMarker : ParseM Bool := do
  if (← skipTok (.ident "with")) || (← skipTok (.ident "without")) then
    discard (expectTok (·.is (.ident "context")) "missing keyword")
    return true
  return false

mutual

/-- Statements until a tag whose keyword satisfies `stop`; that tag's `{%` is consumed, its
keyword is not. -/
def body : Nat → (Token → Bool) → ParseM (List Stmt)
  | 0, _ => throw tooDeep
  | fuel + 1, stop => do
    match ← advance with
    | none => return []
    | some l =>
      match l.tok with
      | .data s => return .raw s :: (← body fuel stop)
      | .varStart =>
        let e ← tupleExpr fuel
        discard (expectTok (·.is .varEnd) "end of variable block")
        return .emit e l.line :: (← body fuel stop)
      | .blockStart =>
        match ← peekTok with
        | none => failSyntax "unexpected end of input, expected keyword"
        | some t =>
          if stop t then return []
          let s ← statement fuel
          discard (expectTok (·.is .blockEnd) "end of block")
          return s :: (← body fuel stop)
      | t => failSyntax ("unexpected " ++ t.describe)

/-- One statement after its `{%`, one nesting level deeper. -/
def statement : Nat → ParseM Stmt
  | 0 => throw tooDeep
  | fuel + 1 => nested (statementBody fuel)

/-- One statement after its `{%`. -/
def statementBody : Nat → ParseM Stmt
  | 0 => throw tooDeep
  | fuel + 1 => do
    let l ← expectTok (fun _ => true) "block keyword"
    match l.tok with
    | .ident "for" =>
      let target ← assignment fuel
      discard (expectTok (·.is (.ident "in")) "in")
      let iter ← orExpr fuel
      let filter ← if ← skipTok (.ident "if") then some <$> expr fuel else pure none
      let recursive ← skipTok (.ident "recursive")
      discard (expectTok (·.is .blockEnd) "end of block")
      let b ← body fuel (isKeyword ["endfor", "else"])
      let e ← if ← skipTok (.ident "else") then do
          discard (expectTok (·.is .blockEnd) "end of block")
          body fuel (isKeyword ["endfor"])
        else pure []
      discard advance
      return .forLoop target iter filter recursive b e l.line
    | .ident "if" => ifRest fuel l.line
    | .ident "set" =>
      let (target, paren) ← if ← skipTok .lparen then do
          let t ← assignment fuel
          discard (expectTok (·.is .rparen) "`)`")
          pure (t, true)
        else pure (← assignment fuel, false)
      if !paren && ((← atTok .blockEnd) || (← atTok .pipe)) then
        let f ← if ← skipTok .pipe then some <$> filterChain fuel else pure none
        discard (expectTok (·.is .blockEnd) "end of block")
        let b ← body fuel (isKeyword ["endset"])
        discard advance
        return .setBlock target f b l.line
      else
        discard (expectTok (·.is .assign) "assignment operator")
        return .set target (← tupleExpr fuel) l.line
    | .ident "macro" =>
      let name ← expectName
      discard (expectTok (·.is .lparen) "`(`")
      let (params, defaults) ← macroParams fuel
      discard (expectTok (·.is .blockEnd) "end of block")
      let b ← inMacroBody (body fuel (isKeyword ["endmacro"]))
      discard advance
      return .macroDef name params defaults b [] false l.line
    | .ident "call" =>
      let (params, defaults) ← if ← skipTok .lparen then macroParams fuel else pure ([], [])
      let c ← expr fuel
      match c with
      | .call .. =>
        discard (expectTok (·.is .blockEnd) "end of block")
        let b ← inMacroBody (body fuel (isKeyword ["endcall"]))
        discard advance
        return .callBlock c params defaults b [] false l.line
      | e => failSyntax ("expected call expression in call block, got " ++ e.description)
    | .ident "filter" =>
      let f ← filterChain fuel
      discard (expectTok (·.is .blockEnd) "end of block")
      let b ← body fuel (isKeyword ["endfilter"])
      discard advance
      return .filterBlock f b l.line
    | .ident "with" =>
      let rec binds : Nat → List (Target × Expr) → ParseM (List (Target × Expr))
        | 0, acc => return acc.reverse
        | n + 1, acc => do
          if ← atTok .blockEnd then return acc.reverse
          if !acc.isEmpty then discard (expectTok (·.is .comma) "comma")
          let t ← if ← skipTok .lparen then do
              let t ← assignment fuel
              discard (expectTok (·.is .rparen) "`)`")
              pure t
            else assignName false
          discard (expectTok (·.is .assign) "assignment operator")
          let e ← expr fuel
          binds n ((t, e) :: acc)
      let bs ← binds (fuel + 1) []
      discard (expectTok (·.is .blockEnd) "end of block")
      let b ← body fuel (isKeyword ["endwith"])
      discard advance
      return .withBlock bs b l.line
    | .ident "include" =>
      let e ← expr fuel
      let ignore ← if ← skipTok (.ident "ignore") then do
          discard (expectTok (·.is (.ident "missing")) "missing keyword")
          pure true
        else pure false
      discard contextMarker
      return .includeTemplate e ignore l.line
    | .ident "import" =>
      let e ← expr fuel
      discard (expectTok (·.is (.ident "as")) "as")
      discard (assignName false)
      discard contextMarker
      return .importTemplate e l.line
    | .ident "from" =>
      let e ← expr fuel
      if !(← skipTok (.ident "import")) then failSyntax "expected import"
      let rec names : Nat → Bool → ParseM Unit
        | 0, _ => return ()
        | n + 1, first => do
          if (← contextMarker) || (← atTok .blockEnd) then return ()
          if !first then discard (expectTok (·.is .comma) "`,`")
          if (← contextMarker) || (← atTok .blockEnd) then return ()
          discard (assignName false)
          if ← skipTok (.ident "as") then discard (assignName false)
          names n false
      names (fuel + 1) true
      return .importTemplate e l.line
    | .ident "extends" => return .extendTemplate (← expr fuel) l.line
    | .ident "block" =>
      if (← get).inMacro then failSyntax "block tags in macros are not allowed"
      let name ← expectName
      if (← get).blocks.contains name then
        failSyntax ("block '" ++ name ++ "' defined twice")
      modify fun s => { s with blocks := name :: s.blocks }
      discard (expectTok (·.is .blockEnd) "end of block")
      let b ← body fuel (isKeyword ["endblock"])
      discard advance
      match ← peekTok with
      | some (.ident n) =>
        if n != name then
          failSyntax ("mismatching name on block. Got `" ++ n ++ "`, expected `" ++ name ++ "`")
        discard advance
      | _ => pure ()
      return .block name b l.line
    | .ident "do" =>
      match ← expr fuel with
      | .call f args line => return .doExpr (.call f args line) l.line
      | e => failSyntax ("expected call expression in do block, got " ++ e.description)
    | .ident "autoescape" =>
      let e ← expr fuel
      discard (expectTok (·.is .blockEnd) "end of block")
      let b ← body fuel (isKeyword ["endautoescape"])
      discard advance
      return .autoescape e b l.line
    | .ident n => failSyntax ("unknown statement " ++ n)
    | t => failSyntax ("unknown " ++ t.describe ++ ", expected statement")

/-- The rest of an `if` statement after its keyword on `line`. -/
def ifRest : Nat → Nat → ParseM Stmt
  | 0, _ => throw tooDeep
  | fuel + 1, line => do
    let c ← orExpr fuel
    discard (expectTok (·.is .blockEnd) "end of block")
    let yes ← body fuel (isKeyword ["endif", "else", "elif"])
    match ← advance with
    | some ⟨.ident "else", _⟩ =>
      discard (expectTok (·.is .blockEnd) "end of block")
      let no ← body fuel (isKeyword ["endif"])
      discard advance
      return .ifThen c yes no line
    | some ⟨.ident "elif", l⟩ => return .ifThen c yes [← ifRest fuel l] line
    | _ => return .ifThen c yes [] line

end

/-- The statements of a whole template, as parsed. -/
def parseStatements (src : String) : Except Error (List Stmt) := do
  let toks ← tokenize src
  let arr := toks.toArray
  let fuel := 4 * arr.size + 20 * maxNesting + 16
  match (body fuel (fun _ => false) |>.run arr |>.run { pos := 0, lastLine := 1 }) with
  | .ok (stmts, _) => .ok stmts
  | .error e => .error e

end LowRankTuner.Template
