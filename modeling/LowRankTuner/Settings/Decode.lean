/-
  LowRankTuner/Settings/Decode.lean
  =================================
  Reading records, lists and optional values out of settings.

  A record is read from a table, field by field by name, or from an array, field by field
  by position; a missing field takes its default and unknown keys are ignored.  Anything
  else is refused in the words of a record reader, naming the record.  A fault inside a
  field gets the field's name, or its bracketed position, in front of its key.
-/
import LowRankTuner.Settings.Setting

namespace LowRankTuner

/-- A reading of settings as a value of some type. -/
abbrev Decoder (α : Type) := Setting → Except SettingsFault α

/-- The fields of a record as a setting gives them: by name or by position. -/
inductive Fields where
  | named (entries : List (String × Setting))
  | positional (items : List Setting)

namespace Setting

/-- How a record reader names a setting it cannot read. -/
def shownAs : Setting → String
  | .nil _ => "unit value"
  | .bool _ b => "boolean `" ++ (if b then "true" else "false") ++ "`"
  | .int _ i => "integer `" ++ toString i ++ "`"
  | .float _ x => "floating point `" ++ Decimal.Layout.template.text64 x ++ "`"
  | .str _ s => "string " ++ Text.quoted s
  | .array .. => "sequence"
  | .table .. => "map"

/-- The refusal of a record reader that wanted `expected`. -/
def refused {α : Type} (s : Setting) (expected : String) : Except SettingsFault α :=
  .error (.message ("invalid type: " ++ s.shownAs ++ ", expected " ++ expected))

/-- The fields of the record `name` that a setting gives. -/
def fields (name : String) (s : Setting) : Except SettingsFault Fields :=
  match s with
  | .table _ es => .ok (.named es)
  | .array _ xs => .ok (.positional xs)
  | s => s.refused ("struct " ++ name)

/-- A list of texts, each item read as a text. -/
def texts (s : Setting) : Except SettingsFault (List String) :=
  match s with
  | .array _ xs => xs.zipIdx.mapM fun (x, i) =>
      x.toText.mapError (·.under ("[" ++ toString i ++ "]") false)
  | s => s.refused "a sequence"

/-- An optional text: nothing is none, anything else is read as a text. -/
def optionalText (s : Setting) : Except SettingsFault (Option String) :=
  match s with
  | .nil _ => .ok none
  | s => some <$> s.toText

end Setting

/-- The field at `index`, called `name`, read by `dec`, or `default` when absent. -/
def Fields.get {α : Type} (fs : Fields) (index : Nat) (name : String) (dec : Decoder α)
    (default : α) : Except SettingsFault α :=
  match fs with
  | .named es =>
    match es.lookup name with
    | some s => (dec s).mapError (·.under name true)
    | none => .ok default
  | .positional xs =>
    match xs[index]? with
    | some s => (dec s).mapError (·.under ("[" ++ toString index ++ "]") false)
    | none => .ok default

end LowRankTuner
