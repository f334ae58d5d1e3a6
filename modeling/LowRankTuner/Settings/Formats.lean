/-
  LowRankTuner/Settings/Formats.lean
  ==================================
  The formats a settings file may be written in, and the named values each gives.

  A file is in the format its extension names: `toml`, `json`, `yaml` or `yml`, `ini`,
  `ron` or `json5`.  A name that is not a file is tried with each extension added to it in
  that order, the first file found counting; a file whose extension names no format is
  refused.  Every format gives named values whose origin is the file's path, and a text
  that does not read is refused with the reader's words.

  INI text gives texts only: a named section is a table of its keys, and the keys before
  any header are named values of their own; of a section or key given twice the last
  counts.

  YAML text must hold at most one document; its reals are read as floats, and a mapping
  key must be a text or an integer, any other key stopping the computation outright.  RON
  map keys must read as texts, a character counting as one.  In YAML and RON a document
  that is not a mapping gives no values, while a JSON5 document that is not an object is
  refused.  Of a key given twice in one mapping the last counts.
-/
import LowRankTuner.Settings.Layers
import LowRankTuner.Ini.Document
import LowRankTuner.Yaml.Node
import LowRankTuner.Ron.Value
import LowRankTuner.Json5.Value

namespace LowRankTuner

/-- The formats of settings files. -/
inductive FileFormat where
  | toml
  | json
  | yaml
  | ini
  | ron
  | json5
  deriving DecidableEq, Repr

namespace FileFormat

/-- The formats, in the order they are tried. -/
def all : List FileFormat := [.toml, .json, .yaml, .ini, .ron, .json5]

/-- The extensions of a format's files. -/
def extensions : FileFormat → List String
  | .toml => ["toml"]
  | .json => ["json"]
  | .yaml => ["yaml", "yml"]
  | .ini => ["ini"]
  | .ron => ["ron"]
  | .json5 => ["json5"]

/-- The format an extension names, if any. -/
def ofExtension? (ext : String) : Option FileFormat :=
  all.find? (·.extensions.contains ext)

end FileFormat

/-- Entries with a later value of a key replacing the earlier one in its place. -/
def lastWins (es : List (String × Setting)) : List (String × Setting) :=
  es.foldl (fun acc (k, v) => Setting.setEntry acc k v) []

/-- The named values of INI text, their origin the source's name. -/
def iniSource (uri : Origin) (text : String) : Except SettingsFault (List (String × Setting)) :=
  match Ini.parse text with
  | .ok sections =>
    .ok (lastWins (sections.flatMap fun s =>
      let entries := s.entries.map fun (k, v) => (k, Setting.str uri v)
      match s.name with
      | some n => [(n, .table uri (lastWins entries))]
      | none => entries))
  | .error e => .error (.unreadable e.text uri)

/-- What a key that is neither a text nor an integer does to the computation. -/
def unreachableKey : String := "internal error: entered unreachable code"

mutual

/-- A YAML node as a setting of an origin. -/
def settingOfYaml (o : Origin) : Yaml.Node → Except SettingsFault Setting
  | .string s => .ok (.str o s)
  | .real v =>
    match Decimal.readFloat? v with
    | some x => .ok (.float o x)
    | none => .error (.unreadable ("Parsing " ++ v ++ " as floating point number failed") o)
  | .integer i => .ok (.int o i)
  | .boolean b => .ok (.bool o b)
  | .array xs => (settingsOfYamlItems o xs).map (.array o)
  | .hash es => (settingsOfYamlEntries o es).map fun es => .table o (lastWins es)
  | .null | .bad => .ok (.nil o)

/-- YAML items as settings. -/
def settingsOfYamlItems (o : Origin) : List Yaml.Node → Except SettingsFault (List Setting)
  | [] => .ok []
  | x :: more => do
    let s ← settingOfYaml o x
    let ss ← settingsOfYamlItems o more
    return s :: ss

/-- YAML pairs as named settings, in order: each key is checked before its value. -/
def settingsOfYamlEntries (o : Origin) :
    List (Yaml.Node × Yaml.Node) → Except SettingsFault (List (String × Setting))
  | [] => .ok []
  | (k, x) :: more => do
    let key ← match k with
      | .string s => pure s
      | .integer i => pure (toString i)
      | _ => throw (.aborted unreachableKey)
    let s ← settingOfYaml o x
    let ss ← settingsOfYamlEntries o more
    return (key, s) :: ss

end

/-- The named values of YAML text, their origin the source's name. -/
def yamlSource (uri : Origin) (text : String) : Except SettingsFault (List (String × Setting)) := do
  let docs ← (Yaml.documents text).mapError fun e => SettingsFault.unreadable e.text uri
  let root ← match docs with
    | [] => pure (Yaml.Node.hash [])
    | [d] => pure d
    | ds => throw (.unreadable ("Got " ++ toString ds.length ++ " YAML documents, expected 1") uri)
  match ← settingOfYaml uri root with
  | .table _ es => pure es
  | _ => pure []

/-- How a RON value is named when it is read as a text and is not one. -/
def ronKindText : Ron.Value → String
  | .bool b => "boolean `" ++ (if b then "true" else "false") ++ "`"
  | .char c => "char " ++ c.toString
  | .map _ => "map"
  | .integer i => "integer `" ++ toString i ++ "`"
  | .float x => "floating point `" ++ Decimal.Layout.template.text64 x ++ "`"
  | .option _ => "Option value"
  | .string s => "string " ++ Text.quoted s
  | .seq _ => "sequence"
  | .unit => "unit value"

/-- A RON map key as a text: a text or a character. -/
def ronKey (uri : Origin) : Ron.Value → Except SettingsFault String
  | .string s => .ok s
  | .char c => .ok c.toString
  | k => .error (.unreadable ("invalid type: " ++ ronKindText k ++ ", expected a string") uri)

mutual

/-- A RON value as a setting of an origin: an option is its content or nothing, a
character a text. -/
def settingOfRon (o : Origin) : Ron.Value → Except SettingsFault Setting
  | .option (some v) => settingOfRon o v
  | .option none | .unit => .ok (.nil o)
  | .bool b => .ok (.bool o b)
  | .integer i => .ok (.int o i)
  | .float x => .ok (.float o x)
  | .char c => .ok (.str o c.toString)
  | .string s => .ok (.str o s)
  | .seq xs => (settingsOfRonItems o xs).map (.array o)
  | .map es => (settingsOfRonEntries o es).map fun es => .table o (lastWins es)

/-- RON items as settings. -/
def settingsOfRonItems (o : Origin) : List Ron.Value → Except SettingsFault (List Setting)
  | [] => .ok []
  | x :: more => do
    let s ← settingOfRon o x
    let ss ← settingsOfRonItems o more
    return s :: ss

/-- RON pairs as named settings, in the map's order: each key is read before its value. -/
def settingsOfRonEntries (o : Origin) :
    List (Ron.Value × Ron.Value) → Except SettingsFault (List (String × Setting))
  | [] => .ok []
  | (k, x) :: more => do
    let key ← ronKey o k
    let s ← settingOfRon o x
    let ss ← settingsOfRonEntries o more
    return (key, s) :: ss

end

/-- The named values of RON text, their origin the source's name. -/
def ronSource (uri : Origin) (text : String) : Except SettingsFault (List (String × Setting)) := do
  match Ron.parse text with
  | .error e => throw (.unreadable e.text uri)
  | .ok v =>
    match ← settingOfRon uri v with
    | .table _ es => pure es
    | _ => pure []

mutual

/-- A JSON5 value as a setting of an origin. -/
def settingOfJson5 (o : Origin) : Json5.Value → Setting
  | .null => .nil o
  | .bool b => .bool o b
  | .integer i => .int o i
  | .float x => .float o x
  | .string s => .str o s
  | .array xs => .array o (settingsOfJson5Items o xs)
  | .object es => .table o (lastWins (settingsOfJson5Entries o es))

/-- JSON5 items as settings. -/
def settingsOfJson5Items (o : Origin) : List Json5.Value → List Setting
  | [] => []
  | x :: more => settingOfJson5 o x :: settingsOfJson5Items o more

/-- JSON5 pairs as named settings. -/
def settingsOfJson5Entries (o : Origin) : List (String × Json5.Value) → List (String × Setting)
  | [] => []
  | (k, x) :: more => (k, settingOfJson5 o x) :: settingsOfJson5Entries o more

end

/-- The named values of JSON5 text, their origin the source's name; a document that is not
an object is refused, in words that name the source twice. -/
def json5Source (uri : Origin) (text : String) : Except SettingsFault (List (String × Setting)) := do
  let v ← (Json5.read text).mapError fun e => SettingsFault.unreadable e uri
  match settingOfJson5 uri v with
  | .table _ es => pure es
  | s => throw (.unreadable (SettingsFault.mismatch s.kindText "a map" none uri).text uri)

/-- The named values of a settings text in a format, their origin the source's name. -/
def FileFormat.source (f : FileFormat) (uri : Origin) (text : String) :
    Except SettingsFault (List (String × Setting)) :=
  match f with
  | .toml => tomlSource uri text
  | .json => jsonSource uri text
  | .yaml => yamlSource uri text
  | .ini => iniSource uri text
  | .ron => ronSource uri text
  | .json5 => json5Source uri text

end LowRankTuner
