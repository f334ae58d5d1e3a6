/-
  LowRankTuner/Disk/Path.lean
  ===========================
  Paths as `/`-separated text.

  A path is kept as the text it was given, since messages print it that way; its
  *components* drop empty parts and `.` parts, and `join` lets an absolute second path
  replace the first.  `parent` and `fileName` follow the components: the parent of a
  single relative component is the empty path, and an absolute root has none.
-/
namespace LowRankTuner.Disk

/-- The path starts at the root. -/
def isAbsolute (p : String) : Bool := p.startsWith "/"

/-- The parts of a path between separators, empty parts included. -/
def segments (p : String) : List String := (p.toList.splitOn '/').map String.ofList

/-- The parts of a path between separators, without empty and `.` parts. -/
def components (p : String) : List String :=
  (segments p).filter (fun c => c != "" && c != ".")

/-- `q` appended to `p`, or `q` alone when it is absolute or `p` is empty. -/
def join (p q : String) : String :=
  if isAbsolute q || p == "" then q
  else if p.endsWith "/" then p ++ q
  else p ++ "/" ++ q

/-- The last component, unless it is `..`. -/
def fileName (p : String) : Option String :=
  match (components p).getLast? with
  | some ".." => none
  | some c => some c
  | none => none

/-- The extension of a file name: the text after its last period, none when the name has
no period or only a leading one. -/
def extension? (name : String) : Option String :=
  match name.splitOn "." with
  | [] | [_] => none
  | first :: rest => if first.isEmpty && rest.length == 1 then none else rest.getLast?

/-- The path without its last component: `none` for the root and the empty path. -/
def parent (p : String) : Option String :=
  let cs := components p
  match cs with
  | [] => none
  | _ =>
    let rest := cs.dropLast
    if isAbsolute p then some ("/" ++ "/".intercalate rest)
    else some ("/".intercalate rest)

/-- A path text with its trailing separators and `.` parts taken off, down to its root or
to a leading `.`, with at most `fuel` steps. -/
def trimTail : Nat → List Char → List Char
  | 0, cs => cs
  | fuel + 1, cs =>
    match cs.reverse with
    | ['/'] => cs
    | '/' :: rest => trimTail fuel rest.reverse
    | '.' :: '/' :: rest => trimTail fuel ('/' :: rest).reverse
    | _ => cs

/-- The parent of a path as it is written: the text before its last component with the
separators and `.` parts at its end taken off; `none` for the root and the empty path, and
the empty text for a single relative component or a lone `.`. -/
def parentAsWritten (p : String) : Option String :=
  let cs := p.toList
  let segments := segments p
  let starts := (segments.foldl (fun (acc : List Nat × Nat) seg =>
    (acc.1 ++ [acc.2], acc.2 + seg.length + 1)) ([], 0)).1
  let body := (segments.zip starts).filter fun (seg, _) => seg != "" && seg != "."
  match body.getLast? with
  | some (_, start) => some (String.ofList (trimTail (start + 1) (cs.take start)))
  | none => if segments.head? == some "." && !isAbsolute p then some "" else none

/-- The path of the directory that holds `p`, with `.` for a bare file name. -/
def dirOf (p : String) : String :=
  match parent p with
  | some "" => "."
  | some d => d
  | none => "."

/-- The absolute components of `p` read from the directory `cwd`, with `..` taking back
one component. -/
def resolve (cwd : List String) (p : String) : List String :=
  let start := if isAbsolute p then [] else cwd
  ((segments p).foldl (fun acc c =>
    if c == "" || c == "." then acc
    else if c == ".." then acc.dropLast
    else acc ++ [c]) start)

end LowRankTuner.Disk
