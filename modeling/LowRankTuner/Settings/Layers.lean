/-
  LowRankTuner/Settings/Layers.lean
  =================================
  Laying sources of settings over each other.

  Settings start as an empty table, and each source lays its named values over it in
  turn.  A name is a key path: words of letters, digits, blanks, `_` and `-` joined by
  periods, each possibly followed by bracketed indices; a name that is not a path counts as
  one word.  A table laid under a word is merged into what is there, key by key and all
  the way down; any other value replaces what is there, and so does any value laid at an
  index.  Every place on the way along a path is made a table (or, before an index, an
  array) if it is not one yet.  Tables made this way, or merged into something that was
  not a table, have no origin.  An index must fit in 64 signed bits, or the name is one
  word; an index far past the end stops the computation (`Setting.slot`).

  Three kinds of source are read here: TOML text, JSON text, and environment variables.  A
  variable counts when its name, in lower case, starts with a prefix; the rest of the name,
  its separators turned into periods, is the key.  Its value is read as a boolean, an
  integer or a float if it is one, else split into a list of texts at the list separator
  for the keys that take lists, else kept as text.
-/
import LowRankTuner.Settings.Setting
import LowRankTuner.Toml.Tables
import LowRankTuner.Json.Read

namespace LowRankTuner

/-- A place in layered settings. -/
inductive SettingPath where
  /-- A key of the top table. -/
  | name (id : String)
  /-- A key of the table at a place. -/
  | child (parent : SettingPath) (id : String)
  /-- An element of the array at a place; a negative index counts from the end. -/
  | index (parent : SettingPath) (i : Int)

namespace SettingPath

/-- A character of a word of a key path. -/
def isWordChar (c : Char) : Bool := c.isAlphanum || c == ' ' || c == '_' || c == '-'

/-- A blank inside the brackets of an index. -/
def isBlank (c : Char) : Bool := c == ' ' || c == '\t'

/-- The place after `p` that the characters `cs` describe, with at most `fuel` steps. -/
def suffixes : Nat → SettingPath → List Char → Option SettingPath
  | _, p, [] => some p
  | 0, _, _ => none
  | fuel + 1, p, '.' :: cs =>
    let (word, rest) := cs.span isWordChar
    if word.isEmpty then none else suffixes fuel (.child p (String.ofList word)) rest
  | fuel + 1, p, '[' :: cs =>
    let cs := cs.dropWhile isBlank
    let (neg, cs) := match cs with
      | '-' :: r => (true, r)
      | r => (false, r)
    let (ds, cs) := cs.span Char.isDigit
    match ds, cs.dropWhile isBlank with
    | _ :: _, ']' :: rest =>
      let n := Decimal.digitsValue ds
      let i : Int := if neg then -(n : Int) else n
      if -Int.pow 2 63 ≤ i && i < Int.pow 2 63 then suffixes fuel (.index p i) rest else none
    | _, _ => none
  | _ + 1, _, _ :: _ => none

/-- The place a key names, if it is a key path. -/
def parse? (key : String) : Option SettingPath :=
  let (word, rest) := key.toList.span isWordChar
  if word.isEmpty then none else suffixes (rest.length + 1) (.name (String.ofList word)) rest

end SettingPath

namespace Setting

/-- The empty table of no origin. -/
def emptyTable : Setting := .table none []

/-- Entries with the value of `k` set: replaced where it is, added at the end if absent. -/
def setEntry (es : List (String × Setting)) (k : String) (v : Setting) : List (String × Setting) :=
  if es.any (·.1 == k) then es.map fun (k', v') => if k' == k then (k', v) else (k', v')
  else es ++ [(k, v)]

mutual

/-- A value laid under the word `id` of a table: a table merges into what is there, key by
key; anything else replaces it.  A root that is not a table becomes one first. -/
def merge (id : String) (root value : Setting) : Setting :=
  let (o, es) := match root with
    | .table o es => (o, es)
    | _ => (none, [])
  match value with
  | .table _ incoming =>
    .table o (setEntry es id (mergeAll incoming ((es.lookup id).getD emptyTable)))
  | v => .table o (setEntry es id v)

/-- Entries laid one by one over a value. -/
def mergeAll : List (String × Setting) → Setting → Setting
  | [], t => t
  | (k, v) :: rest, t => mergeAll rest (merge k t v)

end

/-- The bytes one element of an array of settings takes in memory; an array longer than
`2^63 - 16` bytes cannot be asked for. -/
def elementSize : Nat := 96

/-- The position an index names in an array, and the array grown with nothing up to it
where it lies past the end.  Positions are 64-bit: a negative index counts back from the
end and, reaching before the start, wraps around to the top of the range.  Growing to
hold the last position wraps the length to zero, and a length past what can be asked for
stops the computation; both are faults in the words of the stop. -/
def slot (xs : List Setting) (i : Int) : Except String (List Setting × Nat) :=
  let n := xs.length
  let u : Nat := if 0 ≤ i then i.toNat else (n + Nat.pow 2 64 - i.natAbs) % Nat.pow 2 64
  if u < n then .ok (xs, u)
  else
    let m := (u + 1) % Nat.pow 2 64
    if m == 0 then .error ("index out of bounds: the len is 0 but the index is " ++ toString u)
    else if m * elementSize > Nat.pow 2 63 - 16 then .error "capacity overflow"
    else .ok (xs ++ List.replicate (m - n) (.nil none), u)

/-- The settings with the value at a place changed by `f`: places on the way that are not
tables, or arrays before an index, become empty ones, and a missing value is nothing. -/
def update (f : Setting → Except String Setting) : SettingPath → Setting → Except String Setting
  | .name id, .table o es => do
    let v ← f ((es.lookup id).getD (.nil none))
    pure (.table o (setEntry es id v))
  | .name _, root => pure root
  | .child p id, root => update (fun pv => do
      let (o, es) := match pv with
        | .table o es => (o, es)
        | _ => (none, [])
      let v ← f ((es.lookup id).getD (.nil none))
      pure (.table o (setEntry es id v))) p root
  | .index p i, root => update (fun pv => do
      let (o, xs) := match pv with
        | .array o xs => (o, xs)
        | _ => (none, [])
      let (xs, k) ← slot xs i
      let v ← f (xs.getD k (.nil none))
      pure (.array o (xs.set k v))) p root

/-- A value laid at a place: under a word it merges as under a plain word, at an index it
replaces the element. -/
def set (root : Setting) (p : SettingPath) (v : Setting) : Except String Setting :=
  match p with
  | .name id => pure (merge id root v)
  | .child q id => update (fun parent => pure (merge id parent v)) q root
  | p => update (fun _ => pure v) p root

/-- Named values laid one after another over the settings, each name read as a key path
where it is one. -/
def lay (root : Setting) (values : List (String × Setting)) : Except String Setting :=
  values.foldlM (fun r (k, v) => r.set ((SettingPath.parse? k).getD (.name k)) v) root

mutual

/-- A TOML value as a setting of an origin; a datetime becomes its text. -/
def ofToml (o : Origin) : Toml.Value → Setting
  | .str s => .str o s
  | .int i => .int o i
  | .float x => .float o x
  | .bool b => .bool o b
  | .datetime t => .str o t
  | .array xs => .array o (ofTomlItems o xs)
  | .table es => .table o (ofTomlEntries o es)

/-- TOML values as settings. -/
def ofTomlItems (o : Origin) : List Toml.Value → List Setting
  | [] => []
  | x :: more => ofToml o x :: ofTomlItems o more

/-- TOML entries as settings. -/
def ofTomlEntries (o : Origin) : List (String × Toml.Value) → List (String × Setting)
  | [] => []
  | (k, x) :: more => (k, ofToml o x) :: ofTomlEntries o more

end

mutual

/-- A JSON value as a setting of an origin: an integer that fits 64 signed bits stays one,
other numbers become floats. -/
def ofJson (o : Origin) : Json → Setting
  | .null => .nil o
  | .bool b => .bool o b
  | .num (.nat n) => if n < Nat.pow 2 63 then .int o n else .float o (floatOfRatio false n 1)
  | .num (.negInt i) => .int o i
  | .num (.float x) => .float o x
  | .num (.float32 x) => .float o x.toFloat
  | .str s => .str o s
  | .arr xs => .array o (ofJsonItems o xs)
  | .obj fs => .table o (ofJsonEntries o fs)

/-- JSON values as settings. -/
def ofJsonItems (o : Origin) : List Json → List Setting
  | [] => []
  | x :: more => ofJson o x :: ofJsonItems o more

/-- JSON fields as settings. -/
def ofJsonEntries (o : Origin) : List (String × Json) → List (String × Setting)
  | [] => []
  | (k, x) :: more => (k, ofJson o x) :: ofJsonEntries o more

end

end Setting

/-- The named values of TOML text, their origin the source's name. -/
def tomlSource (uri : Origin) (text : String) : Except SettingsFault (List (String × Setting)) :=
  match Toml.parse text with
  | .ok (.table es) => .ok (Setting.ofTomlEntries uri es)
  | .ok _ => .ok []
  | .error e => .error (.unreadable (e.message text) uri)

/-- The named values of JSON text, their origin the source's name; a document that is not
an object gives none. -/
def jsonSource (uri : Origin) (text : String) : Except SettingsFault (List (String × Setting)) :=
  match Json.parse text with
  | .ok (.obj fs) => .ok (Setting.ofJsonEntries uri fs)
  | .ok _ => .ok []
  | .error e => .error (.unreadable e.message uri)

/-- How environment variables become settings: the prefix of the names that count (with
its separator), the separator of key parts, the separator of lists and the keys that take
lists. -/
structure EnvironmentSource where
  pfx : String
  separator : String
  listSeparator : String
  listKeys : List String

/-- The origin of values from the environment. -/
def environmentOrigin : Origin := some "the environment"

/-- An integer that 64 signed bits hold. -/
def fitsInt64 (i : Int) : Bool := -Int.pow 2 63 ≤ i && i < Int.pow 2 63

/-- The setting of a variable's value under `key`. -/
def EnvironmentSource.value (e : EnvironmentSource) (key text : String) : Setting :=
  let o := environmentOrigin
  let lowered := Text.lower text
  if lowered == "true" then .bool o true
  else if lowered == "false" then .bool o false
  else match Decimal.readInt? text with
    | some i =>
      if fitsInt64 i then .int o i
      else .float o ((Decimal.readFloat? text).getD 0.0)
    | none =>
      match Decimal.readFloat? text with
      | some x => .float o x
      | none =>
        if e.listKeys.contains key then
          .array o ((text.splitOn e.listSeparator).map (.str o ·))
        else .str o text

/-- The named values that environment variables give. -/
def EnvironmentSource.values (e : EnvironmentSource) (vars : List (String × String)) :
    List (String × Setting) :=
  let pfx := Text.lower e.pfx
  vars.filterMap fun (name, text) =>
    let key := Text.lower name
    if key.startsWith pfx then
      let key := String.ofList (key.toList.drop pfx.length)
      let key := if e.separator.isEmpty then key else ".".intercalate (key.splitOn e.separator)
      some (key, e.value key text)
    else none

end LowRankTuner
