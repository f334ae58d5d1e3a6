/-
  LowRankTuner/Cli/Grammar.lean
  =============================
  The grammar of a command line: its arguments, how each is written, and the usage and
  help texts drawn from them.

  An argument is positional (filled in order, from position 1) or named by a long name
  `--name` and possibly a one-letter short name `-c`.  Named arguments either take one
  value, are switches that are on when present, or ask for the help or version text.

  Usage lines list the required named arguments, then the named arguments in use, then
  the positional ones by place; the full usage puts `[OPTIONS]` first when any named
  argument is optional.  The help text has one line per argument, in declaration order,
  with the descriptions of each section starting in one column: two past the longest
  entry of the section.
-/
import LowRankTuner.Decimal.Read

namespace LowRankTuner.Cli

/-- How the text value of an argument is read. -/
inductive ValueKind where
  /-- Any text. -/
  | text
  /-- A path: any text but the empty one. -/
  | path
  /-- A natural numeral below a bound. -/
  | natural (bound : Nat)
  /-- A float numeral, read as a double. -/
  | double
  /-- A float numeral, read as a single. -/
  | single

/-- What an argument does when it is given. -/
inductive Action where
  /-- It takes one value, read as the kind says. -/
  | set (kind : ValueKind)
  /-- It is a switch, on when present. -/
  | setTrue
  /-- It asks for the help text. -/
  | help
  /-- It asks for the version text. -/
  | version

/-- An argument of a command. -/
structure Arg where
  /-- The name its value is kept under. -/
  id : String
  long : Option String := none
  short : Option Char := none
  /-- The place of a positional argument, from 1. -/
  index : Option Nat := none
  action : Action
  required : Bool := false
  /-- The name of its value in usage and help. -/
  valueName : String := ""
  help : String := ""
  /-- The environment variable that gives its value when it is not on the line. -/
  env : Option String := none

/-- A command: its name, version, one-line description and arguments in declaration
order, and the id of the group that holds every argument but help and version, if the
command has one. -/
structure Command where
  name : String
  version : String
  about : String
  args : List Arg
  group : Option String := none

namespace Arg

/-- The argument takes a value. -/
def takesValue (a : Arg) : Bool :=
  match a.action with
  | .set _ => true
  | _ => false

/-- The argument is positional. -/
def isPositional (a : Arg) : Bool := a.index.isSome

/-- How the argument is written in messages: `<NAME>` for a positional one (`[NAME]` when
optional), else its long name (or short name) and `<NAME>` after it when it takes a value.
`required` overrides whether a positional argument counts as required. -/
def shown (a : Arg) (required : Option Bool := none) : String :=
  let value := "<" ++ a.valueName ++ ">"
  if a.isPositional then
    if required.getD a.required then value else "[" ++ a.valueName ++ "]"
  else
    let name := match a.long, a.short with
      | some l, _ => "--" ++ l
      | none, some c => "-" ++ c.toString
      | none, none => ""
    if a.takesValue then name ++ " " ++ value else name

end Arg

/-- A list with the repeats of earlier items left out. -/
def distinct (xs : List String) : List String :=
  xs.foldl (fun acc x => if acc.contains x then acc else acc ++ [x]) []

namespace Command

/-- The argument with a long name. -/
def findLong (c : Command) (name : String) : Option Arg := c.args.find? (·.long == some name)

/-- The argument with a short name. -/
def findShort (c : Command) (ch : Char) : Option Arg := c.args.find? (·.short == some ch)

/-- The argument with an id. -/
def find (c : Command) (id : String) : Option Arg := c.args.find? (·.id == id)

/-- The positional argument at a place. -/
def positionalAt (c : Command) (i : Nat) : Option Arg := c.args.find? (·.index == some i)

/-- The positional arguments, by place. -/
def positionals (c : Command) : List Arg :=
  (c.args.filter Arg.isPositional).mergeSort fun a b => a.index.getD 0 ≤ b.index.getD 0

/-- The named arguments, in declaration order. -/
def named (c : Command) : List Arg := c.args.filter (!·.isPositional)

/-- The ids of the required arguments, in declaration order. -/
def requiredIds (c : Command) : List String := (c.args.filter (·.required)).map (·.id)

/-- The long names, in declaration order. -/
def longNames (c : Command) : List String := c.args.filterMap (·.long)

/-- Some named argument other than help and version is optional. -/
def hasOptions (c : Command) : Bool :=
  c.named.any fun a => a.long != some "help" && a.long != some "version" && !a.required

/-- The members of the command's group: every argument but help and version. -/
def groupMembers (c : Command) : List Arg :=
  c.args.filter fun a => match a.action with
    | .help | .version => false
    | _ => true

/-- The group as a usage word: its members between angle brackets, separated by bars, a
positional one by its value name. -/
def groupWord (c : Command) : String :=
  let member := fun (a : Arg) => if a.isPositional then a.valueName else a.shown
  "<" ++ "|".intercalate (c.groupMembers.map member) ++ ">"

/-- The arguments a usage line lists for the required arguments and `incls`: the named
ones, each once, then the group when it is among them, then every positional argument by
place; the group stands for its members. -/
def usageArgs (c : Command) (incls : List String) : List String :=
  let wanted := c.requiredIds ++ incls
  let grouped := c.group.any wanted.contains
  let members := if grouped then c.groupMembers.map (·.id) else []
  let picked := (wanted.filterMap c.find).filter fun a => !members.contains a.id
  let named := distinct ((picked.filter (!·.isPositional)).map (·.shown (some true)))
  let places := (c.positionals.filter fun p => !members.contains p.id).map fun p =>
    if picked.any (·.id == p.id) then p.shown (some true) else "[" ++ p.shown (some true) ++ "]"
  named ++ (if grouped then [c.groupWord] else []) ++ places

/-- The usage line for the arguments in use, under the program name `bin`; with none in
use it is the full usage. -/
def usage (c : Command) (bin : String) (used : List String) : String :=
  let words := if used.isEmpty then
      (if c.hasOptions then ["[OPTIONS]"] else []) ++ c.usageArgs []
    else c.usageArgs used
  "Usage: " ++ " ".intercalate (bin :: words)

/-- The full usage line. -/
def fullUsage (c : Command) (bin : String) : String := c.usage bin []

/-- A text padded with blanks to a width. -/
def padTo (width : Nat) (s : String) : String :=
  s ++ String.ofList (List.replicate (width - s.length) ' ')

/-- The description of an argument in the help text, with the value of its environment
variable, if it has one, from `env`. -/
def describe (env : List (String × String)) (a : Arg) : String :=
  match a.env with
  | none => a.help
  | some v =>
    let note := "[env: " ++ v ++ "=" ++ ((env.lookup v).getD "") ++ "]"
    if a.help.isEmpty then note else a.help ++ " " ++ note

/-- The entry of a named argument in the help text, short name first. -/
def namedEntry (a : Arg) : String :=
  let short := match a.short with
    | some ch => "-" ++ ch.toString ++ (if a.long.isSome then ", " else "")
    | none => if a.long.isSome then "    " else ""
  let long := match a.long with
    | some l => "--" ++ l
    | none => ""
  let value := if a.takesValue then " <" ++ a.valueName ++ ">" else ""
  short ++ long ++ value

/-- The lines of a help section: each entry padded so that the descriptions start two
past the longest entry. -/
def helpSection (env : List (String × String)) (entry : Arg → String) (width : Arg → Nat)
    (args : List Arg) : List String :=
  let longest := args.foldl (fun w a => max w (width a)) 2
  args.map fun a =>
    let e := entry a
    "  " ++ padTo (e.length + (longest + 2 - width a)) e ++ describe env a

/-- The help text for the program name `bin` and the environment `env`. -/
def helpText (c : Command) (bin : String) (env : List (String × String)) : String :=
  let pos := helpSection env (·.shown) (·.shown.length) c.positionals
  let opts := helpSection env namedEntry (·.shown.length) c.named
  let sections :=
    (if pos.isEmpty then [] else ["Arguments:\n" ++ "\n".intercalate pos]) ++
    (if opts.isEmpty then [] else ["Options:\n" ++ "\n".intercalate opts])
  c.about ++ "\n\n" ++ c.fullUsage bin ++ "\n\n" ++ "\n\n".intercalate sections ++ "\n"

/-- The version text. -/
def versionText (c : Command) : String := c.name ++ " " ++ c.version ++ "\n"

end Command

end LowRankTuner.Cli
