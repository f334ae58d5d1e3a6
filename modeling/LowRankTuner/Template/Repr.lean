/-
  LowRankTuner/Template/Repr.lean
  ===============================
  How values are written: as printed output (`display`) and as a representation inside
  other values (`repr`, and `pretty` spread over lines).

  Printed output writes undefined as nothing, `None`, `True` and `False` capitalised,
  floats always positionally with a `.0` on integral values (`inf`, `NaN`), and strings as
  they are.  Sequences and maps are written as their representation: `[a, b]` and
  `{k: v}` with each item represented, where strings are quoted and escaped, undefined is
  `undefined`, and floats switch to scientific notation outside `[1e-4, 1e16)` (`1e16`,
  `2.5e-5`); items whose count is not known beforehand are written `<iterator>`.  A macro
  prints as `<macro name>`, a loop as `<loop index0/length>`, a global function by its
  path.

  The spread representation puts each item of a non-empty sequence or map on a line of
  its own, indented four blanks per level and followed by a comma.
-/
import LowRankTuner.Template.Value
import LowRankTuner.Decimal.Layout
import LowRankTuner.Text.Quote

namespace LowRankTuner.Template

/-- Where the global functions live, as their values print. -/
def functionPath (name : String) : String :=
  if name == "raise_exception" then "lora_train_core::runtime::template_engine::raise_exception"
  else "minijinja::functions::builtins::" ++ name

/-- Floats inside representations: positional from `1e-4` up to below `1e16`, with `.0` on
integral values, scientific otherwise. -/
def representedLayout : Decimal.Layout := ⟨some (-4, 16), true, "NaN", "inf"⟩

namespace Value

/-- The printed text of a float. -/
def floatText (x : Float) : String := Decimal.Layout.template.text64 x

/-- The text of a float inside a representation. -/
def floatRepr (x : Float) : String := representedLayout.text64 x

/-- A string quoted and escaped. -/
def quoted (s : String) : String := Text.quoted s

/-- The printed form of a loop: its index from 0 and its length, `?` when unknown. -/
def loopText (index0 : Nat) (length : Option Nat) : String :=
  "<loop " ++ toString index0 ++ "/" ++ ((length.map toString).getD "?") ++ ">"

mutual

/-- The representation of a value. -/
def repr : Value → String
  | .undefined => "undefined"
  | .none => "None"
  | .bool b => if b then "True" else "False"
  | .int n => toString n
  | .float x => floatRepr x
  | .str s | .safe s => quoted s
  | .seq xs => "[" ++ reprItems xs ++ "]"
  | .iter xs sized => if sized then "[" ++ reprItems xs ++ "]" else "<iterator>"
  | .group k xs => "[" ++ repr k ++ ", [" ++ reprItems xs ++ "]]"
  | .map fs => "\x7b" ++ reprFields fs ++ "\x7d"
  | .kwargs fs => "\x7b" ++ reprFields fs ++ "\x7d"
  | .ns _ => "\x7b\x7d"
  | .macroRef _ name _ _ => "<macro " ++ name ++ ">"
  | .func name => functionPath name
  | .loop _ i n _ _ _ => loopText i n

/-- Items separated by `, `. -/
def reprItems : List Value → String
  | [] => ""
  | [x] => repr x
  | x :: rest => repr x ++ ", " ++ reprItems rest

/-- Fields as `key: value`, separated by `, `. -/
def reprFields : List (Value × Value) → String
  | [] => ""
  | [(k, v)] => repr k ++ ": " ++ repr v
  | (k, v) :: rest => repr k ++ ": " ++ repr v ++ ", " ++ reprFields rest

end

/-- The printed text of a value. -/
def display : Value → String
  | .undefined => ""
  | .none => "None"
  | .bool b => if b then "True" else "False"
  | .int n => toString n
  | .float x => floatText x
  | .str s | .safe s => s
  | v => v.repr

/-- The blanks that indent a level of a spread representation. -/
def indent (level : Nat) : String := String.ofList (List.replicate (4 * level) ' ')

mutual

/-- The representation of a value spread over lines, nested at `level`. -/
def pretty (level : Nat) : Value → String
  | .seq xs => prettyList level xs
  | .iter xs true => prettyList level xs
  | .group k xs =>
    "[\n" ++ indent (level + 1) ++ pretty (level + 1) k ++ ",\n" ++ indent (level + 1) ++
      prettyList (level + 1) xs ++ ",\n" ++ indent level ++ "]"
  | .map fs => prettyMap level fs
  | .kwargs fs => prettyMap level fs
  | v => v.repr

/-- A list spread over lines. -/
def prettyList (level : Nat) (xs : List Value) : String :=
  if xs.isEmpty then "[]" else "[\n" ++ prettyItems level xs ++ indent level ++ "]"

/-- A map spread over lines. -/
def prettyMap (level : Nat) (fs : List (Value × Value)) : String :=
  if fs.isEmpty then "\x7b\x7d" else "\x7b\n" ++ prettyFields level fs ++ indent level ++ "\x7d"

/-- Items on lines of their own, one level in. -/
def prettyItems (level : Nat) : List Value → String
  | [] => ""
  | x :: rest => indent (level + 1) ++ pretty (level + 1) x ++ ",\n" ++ prettyItems level rest

/-- Fields on lines of their own, one level in. -/
def prettyFields (level : Nat) : List (Value × Value) → String
  | [] => ""
  | (k, v) :: rest =>
    indent (level + 1) ++ pretty (level + 1) k ++ ": " ++ pretty (level + 1) v ++ ",\n" ++
      prettyFields level rest

end

end Value

end LowRankTuner.Template
