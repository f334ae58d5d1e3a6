/-
  LowRankTuner/Cli/Parse.lean
  ===========================
  Reading a command line against its grammar.

  Arguments are read left to right.  `--` ends the named arguments: everything after it is
  positional.  `--name=value` gives a value at once; `--name` alone leaves its argument
  waiting for the next word, and a positional word waits likewise.  A waiting argument is
  settled, its value read by its kind, when the next named argument or positional word
  comes, and at the end; a word that starts with `-` (other than `-` itself) is always
  read as a name, never as a waiting value.  Then the environment gives the arguments
  that have a variable and were not given, and last every required argument must be
  there.

  Each refusal carries what its message needs; `CliError.text` writes the message, with
  the usage line drawn from the arguments in use when the message has one.  An unknown
  long name is answered with the most similar long name when one is similar enough.
-/
import LowRankTuner.Cli.Grammar
import LowRankTuner.Text.Similarity

namespace LowRankTuner.Cli

/-- A value an argument was given. -/
inductive ArgValue where
  | text (s : String)
  | natural (n : Nat)
  | double (x : Float)
  | single (x : Float32)
  /-- A switch that is on. -/
  | switch

/-- Why a command line is not run, or what it asks to be shown instead. -/
inductive CliError where
  /-- A word that names no argument: how it was written, a similar long name, whether to
  suggest `--` before it, and the usage line. -/
  | unknownArgument (arg : String) (similar : Option String) (escapeTip : Bool) (usage : String)
  /-- An argument given no value, or an empty path. -/
  | emptyValue (arg : String)
  /-- A value its reader refuses, and the reader's reason. -/
  | invalidValue (arg value reason : String)
  /-- An argument given twice. -/
  | repeated (arg : String) (usage : String)
  /-- Required arguments not given. -/
  | missingRequired (missing : List String) (usage : String)
  /-- A value attached to an argument that takes none. -/
  | unexpectedValue (arg value : String) (usage : String)
  /-- The help text was asked for. -/
  | showHelp (text : String)
  /-- The version text was asked for. -/
  | showVersion (text : String)

/-- A text between single quotes. -/
def singleQuoted (s : String) : String :=
  let q := (Char.ofNat 39).toString
  q ++ s ++ q

namespace CliError

/-- The name of the kind of refusal. -/
def kind : CliError → String
  | .unknownArgument .. => "UnknownArgument"
  | .emptyValue _ => "InvalidValue"
  | .invalidValue .. => "ValueValidation"
  | .repeated .. => "ArgumentConflict"
  | .missingRequired .. => "MissingRequiredArgument"
  | .unexpectedValue .. => "TooManyValues"
  | .showHelp _ => "DisplayHelp"
  | .showVersion _ => "DisplayVersion"

/-- The help and version texts are what was asked for, not faults. -/
def isDisplay : CliError → Bool
  | .showHelp _ | .showVersion _ => true
  | _ => false

/-- A refusal message: its body, its tips, its usage line if any, and the pointer to the
help text. -/
def framed (body : String) (tips : List String) (usage : Option String) : String :=
  "error: " ++ body ++
    (if tips.isEmpty then "" else "\n" ++ String.join (tips.map ("\n  tip: " ++ ·))) ++
    (match usage with | some u => "\n\n" ++ u | none => "") ++
    "\n\nFor more information, try " ++ singleQuoted "--help" ++ ".\n"

/-- The words of a refusal, or the text asked for. -/
def text : CliError → String
  | .unknownArgument arg similar escapeTip usage =>
    let q := singleQuoted
    let tips := (similar.map fun s => "a similar argument exists: " ++ q s).toList ++
      (if escapeTip then ["to pass " ++ q arg ++ " as a value, use " ++ q ("-- " ++ arg)] else [])
    framed ("unexpected argument " ++ q arg ++ " found") tips (some usage)
  | .emptyValue arg =>
    framed ("a value is required for " ++ singleQuoted arg ++
      " but none was supplied") [] none
  | .invalidValue arg value reason =>
    let q := singleQuoted
    framed ("invalid value " ++ q value ++ " for " ++ q arg ++ ": " ++ reason) [] none
  | .repeated arg usage =>
    framed ("the argument " ++ singleQuoted arg ++
      " cannot be used multiple times") [] (some usage)
  | .missingRequired missing usage =>
    framed ("the following required arguments were not provided:" ++
      String.join (missing.map ("\n  " ++ ·))) [] (some usage)
  | .unexpectedValue arg value usage =>
    let q := singleQuoted
    framed ("unexpected value " ++ q value ++ " for " ++ q arg ++
      " found; no more were expected") [] (some usage)
  | .showHelp t => t
  | .showVersion t => t

end CliError

/-- What a float reader says of a text it refuses. -/
def floatFault (v : String) : String :=
  if v.isEmpty then "cannot parse float from empty string" else "invalid float literal"

/-- A text value read by its kind, for the argument shown as `arg`. -/
def readValue (kind : ValueKind) (arg v : String) : Except CliError ArgValue :=
  match kind with
  | .text => .ok (.text v)
  | .path => if v.isEmpty then .error (.emptyValue arg) else .ok (.text v)
  | .natural bound =>
    match Decimal.readNatBelow bound v with
    | .ok n => .ok (.natural n)
    | .error f => .error (.invalidValue arg v f.text)
  | .double =>
    match Decimal.readFloat? v with
    | some x => .ok (.double x)
    | none => .error (.invalidValue arg v (floatFault v))
  | .single =>
    match Decimal.readFloat32? v with
    | some x => .ok (.single x)
    | none => .error (.invalidValue arg v (floatFault v))

/-- The arguments given so far, in the order they were first given, with their values. -/
abbrev Matched := List (String × List ArgValue)

namespace Matched

/-- The argument was given. -/
def has (m : Matched) (id : String) : Bool := m.any (·.1 == id)

/-- The ids given, in order. -/
def ids (m : Matched) : List String := m.map (·.1)

/-- The argument noted as given, at the end if it is new. -/
def start (m : Matched) (id : String) : Matched := if m.has id then m else m ++ [(id, [])]

/-- A value added to a given argument. -/
def add (m : Matched) (id : String) (v : ArgValue) : Matched :=
  m.map fun (k, vs) => if k == id then (k, vs ++ [v]) else (k, vs)

/-- The argument forgotten. -/
def remove (m : Matched) (id : String) : Matched := m.filter (·.1 != id)

/-- The first value of an argument. -/
def value? (m : Matched) (id : String) : Option ArgValue := ((m.lookup id).getD []).head?

end Matched

/-- What a command line is read against: the grammar, the program name its messages use,
and the environment. -/
structure Context where
  command : Command
  bin : String
  env : List (String × String)

/-- The state of reading: the arguments given, the argument waiting for its values and
those it has, whether the next word is the waiting argument's value, the next positional
place, and whether `--` was passed. -/
structure Reading where
  matched : Matched := []
  pending : Option (Arg × List String) := none
  expecting : Bool := false
  position : Nat := 1
  trailing : Bool := false

/-- Values read into the matches one by one; a refused value stops the reading, leaving
the values before it. -/
def pushValues (kind : ValueKind) (a : Arg) : Matched → List String → Matched × Option CliError
  | m, [] => (m, none)
  | m, v :: vs =>
    match readValue kind a.shown v with
    | .ok x => pushValues kind a (m.add a.id x) vs
    | .error e => (m, some e)

/-- An argument acted on with its values, the matches after it and the fault, if any.
`onLine` says the values came from the command line, where a value-taking argument with
none is refused. -/
def Context.act (c : Context) (a : Arg) (vals : List String) (onLine : Bool) (m : Matched) :
    Matched × Option CliError :=
  let repeated := CliError.repeated a.shown (c.command.fullUsage c.bin)
  match a.action with
  | .set kind =>
    if onLine && vals.isEmpty then (m, some (.emptyValue a.shown))
    else if m.has a.id then (m.remove a.id, some repeated)
    else pushValues kind a (m.start a.id) vals
  | .setTrue =>
    if m.has a.id then (m.remove a.id, some repeated)
    else ((m.start a.id).add a.id .switch, none)
  | .help => (m, some (.showHelp (c.command.helpText c.bin c.env)))
  | .version => (m, some (.showVersion c.command.versionText))

/-- The waiting argument settled: the reading with nothing waiting, and the fault of
settling it, if any. -/
def Context.settle (c : Context) (r : Reading) : Reading × Option CliError :=
  match r.pending with
  | none => (r, none)
  | some (a, vals) =>
    let (m, e) := c.act a vals true r.matched
    ({ r with matched := m, pending := none }, e)

/-- An argument acted on from the command line, after the waiting one is settled. -/
def Context.react (c : Context) (a : Arg) (vals : List String) (r : Reading) :
    Except CliError Reading :=
  match c.settle r with
  | (_, some e) => .error e
  | (r, none) =>
    match c.act a vals true r.matched with
    | (_, some e) => .error e
    | (m, none) => .ok { r with matched := m, expecting := false }

/-- An argument that now waits for its value, after the one waiting before is settled. -/
def Context.await (c : Context) (a : Arg) (r : Reading) : Except CliError Reading :=
  match c.settle r with
  | (_, some e) => .error e
  | (r, none) => .ok { r with pending := some (a, []), expecting := true }

/-- The word looks like a name: it starts with `-` and is neither `-` nor `--`. -/
def looksNamed (w : String) : Bool := w.startsWith "-" && w != "-" && w != "--"

/-- The long name most similar to `name`, if one is similar enough: the last of the most
similar among those above 0.7. -/
def similarLong (names : List String) (name : String) : Option String :=
  let scored := (names.map fun n => (Text.jaro name n, n)).filter (·.1 > 0.7)
  let best := scored.foldl (fun (acc : Option (Float × String)) (s, n) =>
    match acc with
    | some (t, _) => if s < t then acc else some (s, n)
    | none => some (s, n)) none
  best.map (·.2)

/-- The reading stopped at an unknown long name. -/
def Context.unknownLong (c : Context) (name : String) (r : Reading) : CliError :=
  let (r, _) := c.settle r
  let similar := similarLong c.command.longNames name
  let m := match similar.bind fun l => c.command.findLong l with
    | some a => r.matched.start a.id
    | none => r.matched
  let hasPositionals := !c.command.positionals.isEmpty
  .unknownArgument ("--" ++ name) (similar.map ("--" ++ ·))
    (similar.isNone && !r.trailing && hasPositionals) (c.command.usage c.bin m.ids)

/-- A word `--name` or `--name=value`. -/
def Context.long (c : Context) (word : String) (r : Reading) : Except CliError Reading :=
  let body := String.ofList (word.toList.drop 2)
  let (name, value) := match body.splitOn "=" with
    | n :: v :: more => (n, some ("=".intercalate (v :: more)))
    | _ => (body, none)
  match c.command.findLong name with
  | none => .error (c.unknownLong name r)
  | some a =>
    if a.takesValue then
      match value with
      | some v => c.react a [v] r
      | none => c.await a r
    else
      match value with
      | some v =>
        let required := c.command.requiredIds
        let members := c.command.groupMembers.map (·.id)
        let group := if r.matched.ids.any members.contains then c.command.group.toList else []
        let used := (r.matched.ids ++ group).filter (!required.contains ·) ++ [a.id]
        .error (.unexpectedValue a.shown v (c.command.usage c.bin used))
      | none => c.react a [] r

/-- The letters of a word `-abc`, each a short name; a name that takes a value takes the
rest of the word, after an optional `=`, or else the next word. -/
def Context.shorts (c : Context) : List Char → Reading → Except CliError Reading
  | [], r => .ok { r with expecting := false }
  | ch :: more, r =>
    match c.command.findShort ch with
    | none =>
      let (r, _) := c.settle r
      .error (.unknownArgument ("-" ++ ch.toString) none
        (!r.trailing && !c.command.positionals.isEmpty) (c.command.fullUsage c.bin))
    | some a =>
      if a.takesValue then
        let rest := match more with
          | '=' :: v => some (String.ofList v)
          | [] => none
          | v => some (String.ofList v)
        match rest with
        | some v => c.react a [v] r
        | none => c.await a r
      else
        match c.react a [] r with
        | .ok r => c.shorts more r
        | .error e => .error e

/-- A positional word. -/
def Context.positional (c : Context) (word : String) (r : Reading) : Except CliError Reading :=
  match c.command.positionalAt r.position with
  | some a =>
    match c.settle r with
    | (_, some e) => .error e
    | (r, none) => .ok { r with pending := some (a, [word]), position := r.position + 1 }
  | none =>
    let (r, _) := c.settle r
    .error (.unknownArgument word none (!r.trailing && looksNamed word) (c.command.fullUsage c.bin))

/-- One word of the command line. -/
def Context.word (c : Context) (w : String) (r : Reading) : Except CliError Reading :=
  if r.trailing then c.positional w r
  else if w == "--" then .ok { r with trailing := true }
  else if w.startsWith "--" then c.long w r
  else if looksNamed w then c.shorts (w.toList.drop 1) r
  else if r.expecting then
    .ok { r with pending := r.pending.map (fun (a, vs) => (a, vs ++ [w])), expecting := false }
  else c.positional w r

/-- The words of a command line, one after another. -/
def Context.words (c : Context) : List String → Reading → Except CliError Reading
  | [], r => .ok r
  | w :: ws, r =>
    match c.word w r with
    | .ok r => c.words ws r
    | .error e => .error e

/-- The arguments with a variable that were not given, given by the environment. -/
def Context.fromEnvironment (c : Context) (m : Matched) : Except CliError Matched :=
  c.command.args.foldlM (fun m a =>
    match a.env.bind (c.env.lookup ·) with
    | some v =>
      if m.has a.id then .ok m
      else match c.act a [v] false m with
        | (_, some e) => .error e
        | (m, none) => .ok m
    | none => .ok m) m

/-- The required arguments not given, each shown once: named ones first, then positional
ones by place; a missing positional argument also counts every positional one before
it. -/
def Context.missing (c : Context) (m : Matched) : List String × List String :=
  let absent := c.command.requiredIds.filter (!m.has ·)
  let highest := (absent.filterMap fun id => (c.command.find id).bind (·.index)).foldl max 0
  let before := (c.command.positionals.filter fun p =>
    !m.has p.id && p.index.getD 0 < highest).map (·.id)
  let ids := absent ++ before
  let args := ids.filterMap c.command.find
  let named := distinct ((args.filter (!·.isPositional)).map (·.shown (some true)))
  let places := c.command.positionals.filter fun p => ids.contains p.id
  (ids, named ++ places.map (·.shown (some true)))

/-- A command line read to its matches: the words, the waiting argument settled, the
environment, and the check that every required argument is there. -/
def Context.parse (c : Context) (words : List String) : Except CliError Matched := do
  let r ← c.words words {}
  let m ← match c.settle r with
    | (_, some e) => .error e
    | (r, none) => .ok r.matched
  let m ← c.fromEnvironment m
  let (ids, shown) := c.missing m
  if shown.isEmpty then .ok m
  else .error (.missingRequired shown (c.command.usage c.bin (m.ids ++ ids)))

end LowRankTuner.Cli
