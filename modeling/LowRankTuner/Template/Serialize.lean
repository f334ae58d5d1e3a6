/-
  LowRankTuner/Template/Serialize.lean
  ====================================
  Values as JSON documents, for the `tojson` filter.

  Undefined and none become `null`, numbers stay numbers (a float that is not finite
  becomes `null`), strings stay strings, sequences and iterators become arrays, and maps
  become objects.  A macro becomes the object of its name, arguments and whether it takes
  a caller; a loop the object of its eleven attributes; a global function the string of
  its path.

  Keys of objects must be strings: a boolean or a number key is written as its text, a
  float key only when finite, and a key of any other kind fails the whole document.
-/
import LowRankTuner.Template.Repr
import LowRankTuner.Json.Write

namespace LowRankTuner.Template

namespace Value

/-- The text of a map key in a JSON object. -/
def jsonKey : Value → Except String String
  | .str s | .safe s => .ok s
  | .bool b => .ok (if b then "true" else "false")
  | .int n => .ok (toString n)
  | .float x =>
    match FloatClass.ofFloat x with
    | .finite .. => .ok (Decimal.Layout.json.text64 x)
    | _ => .error "float key must be finite (got NaN or +/-inf)"
  | _ => .error "key must be a string"

/-- A number as a JSON number. -/
def jsonInt (n : Int) : Json :=
  if n < 0 then .num (.negInt n) else .num (.nat n.toNat)

mutual

/-- The JSON document of a value. -/
def toJson : Value → Except String Json
  | .undefined | .none => .ok .null
  | .bool b => .ok (.bool b)
  | .int n => .ok (jsonInt n)
  | .float x => .ok (.num (.float x))
  | .str s | .safe s => .ok (.str s)
  | .seq xs => .arr <$> toJsonList xs
  | .iter xs _ => .arr <$> toJsonList xs
  | .group k xs => do
    let key ← toJson k
    let items ← toJsonList xs
    return .arr [key, .arr items]
  | .map fs => .obj <$> toJsonFields fs
  | .kwargs fs => .obj <$> toJsonFields fs
  | .ns _ => .ok (.obj [])
  | .macroRef _ name params caller =>
    .ok (.obj [("name", .str name), ("arguments", .arr (params.map .str)),
      ("caller", .bool caller)])
  | .func name => .ok (.str (functionPath name))
  | .loop _ i n d p q => do
    let prev ← toJsonOption p
    let next ← toJsonOption q
    let known := fun (f : Nat → Int) => ((n.map fun k => jsonInt (f k)).getD .null)
    return .obj [("index0", jsonInt i), ("index", jsonInt (i + 1)),
      ("length", known fun k => k), ("revindex", known fun k => k - i),
      ("revindex0", known fun k => k - i - 1), ("first", .bool (i == 0)),
      ("last", .bool ((n.map fun k => k == 0 || i + 1 == k).getD false)),
      ("depth", jsonInt (d + 1)), ("depth0", jsonInt d), ("previtem", prev),
      ("nextitem", next)]

/-- The JSON documents of items. -/
def toJsonList : List Value → Except String (List Json)
  | [] => .ok []
  | x :: rest => do
    let j ← toJson x
    return j :: (← toJsonList rest)

/-- The JSON fields of a map. -/
def toJsonFields : List (Value × Value) → Except String (List (String × Json))
  | [] => .ok []
  | (k, v) :: rest => do
    let key ← jsonKey k
    let j ← toJson v
    return (key, j) :: (← toJsonFields rest)

/-- The JSON document of an optional value, `null` when absent. -/
def toJsonOption : Option Value → Except String Json
  | some v => toJson v
  | Option.none => .ok .null

end

/-- The compact JSON text of a value, or why it has none. -/
def jsonText (v : Value) : Except Error String :=
  match v.toJson with
  | .ok j => .ok (Json.compact j)
  | .error e => .error (.invalid ("Failed to serialize to JSON: " ++ e))

end Value

end LowRankTuner.Template
