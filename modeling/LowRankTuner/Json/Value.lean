/-
  LowRankTuner/Json/Value.lean
  ============================
  JSON values as this library reads and writes them.

  A number keeps the kind the reader gave it: a natural below `2^64`, a negative integer
  not below `-2^63`, or a 64-bit float.  Objects are lists of fields; the reader sorts
  them by key and keeps the last of equal keys (`Json.normalize`), which is the order in
  which such values are written back, unless it is asked for the fields as written.
-/
namespace LowRankTuner

/-- A JSON number: an unsigned or negative integer, or a 64-bit or 32-bit float.  A 32-bit
float is written with the shortest digits that read back as the same 32-bit float. -/
inductive JsonNumber where
  | nat (n : Nat)
  | negInt (n : Int)
  | float (x : Float)
  | float32 (x : Float32)

/-- A JSON value. -/
inductive Json where
  | null
  | bool (b : Bool)
  | num (n : JsonNumber)
  | str (s : String)
  | arr (items : List Json)
  | obj (fields : List (String × Json))

namespace Json

instance : Inhabited Json := ⟨.null⟩

/-- A natural as a JSON number. -/
def ofNat (n : Nat) : Json := .num (.nat n)

/-- An integer as a JSON number. -/
def ofInt (n : Int) : Json := if 0 ≤ n then .num (.nat n.toNat) else .num (.negInt n)

/-- A float as a JSON number. -/
def ofFloat (x : Float) : Json := .num (.float x)

/-- A 32-bit float as a JSON number. -/
def ofFloat32 (x : Float32) : Json := .num (.float32 x)

/-- The field of an object with the given key, the last one if there are several. -/
def field? (j : Json) (key : String) : Option Json :=
  match j with
  | .obj fs => (fs.reverse.find? (·.1 == key)).map (·.2)
  | _ => none

/-- The items of an array. -/
def items? : Json → Option (List Json)
  | .arr xs => some xs
  | _ => none

/-- The text of a string. -/
def str? : Json → Option String
  | .str s => some s
  | _ => none

/-- The value of a boolean. -/
def bool? : Json → Option Bool
  | .bool b => some b
  | _ => none

/-- The number as a float, as any number converts. -/
def float? : Json → Option Float
  | .num (.nat n) => some n.toUInt64.toFloat
  | .num (.negInt n) => some (Float.ofInt n)
  | .num (.float x) => some x
  | .num (.float32 x) => some x.toFloat
  | _ => none

/-- The number as a natural below `2^64`. -/
def nat? : Json → Option Nat
  | .num (.nat n) => some n
  | _ => none

/-- The number as an integer, when it is one. -/
def int? : Json → Option Int
  | .num (.nat n) => some n
  | .num (.negInt n) => some n
  | _ => none

/-- Inserts a field into a list sorted by key, replacing an equal key. -/
def insertSorted (k : String) (v : Json) : List (String × Json) → List (String × Json)
  | [] => [(k, v)]
  | (k', v') :: rest =>
    if k < k' then (k, v) :: (k', v') :: rest
    else if k == k' then (k, v) :: rest
    else (k', v') :: insertSorted k v rest

/-- Fields sorted by key, the last of equal keys kept. -/
def sortFields (fs : List (String × Json)) : List (String × Json) :=
  fs.foldl (fun acc kv => insertSorted kv.1 kv.2 acc) []

mutual

/-- A value with the fields of every object in it sorted by key, the last of equal keys
kept. -/
def normalize : Json → Json
  | .obj fs => .obj (sortFields (normalizeFields fs))
  | .arr xs => .arr (normalizeItems xs)
  | j => j

/-- Items normalized. -/
def normalizeItems : List Json → List Json
  | [] => []
  | x :: xs => normalize x :: normalizeItems xs

/-- The values of fields normalized. -/
def normalizeFields : List (String × Json) → List (String × Json)
  | [] => []
  | (k, v) :: rest => (k, normalize v) :: normalizeFields rest

end

end Json

end LowRankTuner
