/-
  LowRankTuner/Yaml/Node.lean
  ===========================
  YAML documents: the nodes that a stream's events build, and what a plain scalar means.

  A quoted or block scalar is a text.  A plain one is an integer when it is `0x` and hex
  digits, `0o` and octal digits, or a decimal integer, with an optional sign, that fits 64
  signed bits; `~` and `null` are null and `true` and `false` booleans; a float numeral,
  or `.inf`, `.nan` and their spellings, is kept as a real in its own words; anything else
  is a text.  A tag `!!bool`, `!!int`, `!!float`, `!!null` on a plain scalar asks for that
  kind, and a scalar that is not of it is a bad value; every other tag makes a text.

  A mapping keeps its pairs in order; a key given again takes the new value and moves to
  the end.  A key that is a bad value does not count: the node after it is the key.  An
  alias is a copy of its anchor's node as it was when the node was complete, or a bad
  value when the node is not complete yet.
-/
import LowRankTuner.Yaml.Event
import LowRankTuner.Decimal.Read

namespace LowRankTuner.Yaml

/-- A node of a YAML document. -/
inductive Node where
  | real (text : String)
  | integer (i : Int)
  | string (s : String)
  | boolean (b : Bool)
  | array (items : List Node)
  | hash (entries : List (Node × Node))
  | null
  | bad
  deriving Inhabited

mutual

/-- Whether two nodes are the same: of one kind with the same contents, reals compared by
their words and mappings pair by pair in order. -/
def Node.same : Node → Node → Bool
  | .real a, .real b => a == b
  | .integer a, .integer b => a == b
  | .string a, .string b => a == b
  | .boolean a, .boolean b => a == b
  | .array xs, .array ys => Node.sameItems xs ys
  | .hash xs, .hash ys => Node.sameEntries xs ys
  | .null, .null => true
  | .bad, .bad => true
  | _, _ => false

/-- Whether two lists of nodes are the same, item by item. -/
def Node.sameItems : List Node → List Node → Bool
  | [], [] => true
  | x :: xs, y :: ys => Node.same x y && Node.sameItems xs ys
  | _, _ => false

/-- Whether two lists of pairs are the same, pair by pair. -/
def Node.sameEntries : List (Node × Node) → List (Node × Node) → Bool
  | [], [] => true
  | (k, v) :: xs, (k', v') :: ys => Node.same k k' && Node.same v v' && Node.sameEntries xs ys
  | _, _ => false

end

/-- The integer of digits in a radix after an optional sign, when it fits 64 signed bits. -/
def radixInt? (radix : Nat) (s : String) : Option Int :=
  let (neg, ds) := Decimal.splitSign s.toList
  if ds.isEmpty then none
  else
    let n? := ds.foldl (fun acc c => acc.bind fun n =>
      (hexDigit? c).bind fun d => if d < radix then some (n * radix + d) else none) (some 0)
    n?.bind fun n =>
      let v : Int := if neg then -(n : Int) else n
      if -Int.pow 2 63 ≤ v && v < Int.pow 2 63 then some v else none

/-- Whether a text is a float numeral or a spelling of infinity or NaN. -/
def isFloatText (v : String) : Bool :=
  [".inf", ".Inf", ".INF", "+.inf", "+.Inf", "+.INF", "-.inf", "-.Inf", "-.INF",
    ".nan", "NaN", ".NaN", ".NAN"].contains v || (Decimal.FloatNumeral.read? v).isSome

/-- What a plain scalar without a tag means. -/
def Node.ofPlain (v : String) : Node :=
  let prefixed (p : String) (radix : Nat) : Option Int :=
    if v.startsWith p then radixInt? radix (String.ofList (v.toList.drop 2)) else none
  match prefixed "0x" 16 with
  | some i => .integer i
  | none =>
  match prefixed "0o" 8 with
  | some i => .integer i
  | none =>
  let plus := if v.startsWith "+" then radixInt? 10 (String.ofList (v.toList.drop 1)) else none
  match plus with
  | some i => .integer i
  | none =>
    if v == "~" || v == "null" then .null
    else if v == "true" then .boolean true
    else if v == "false" then .boolean false
    else match radixInt? 10 v with
      | some i => .integer i
      | none => if isFloatText v then .real v else .string v

/-- What a scalar means, by its style and tag. -/
def Node.ofScalar (v : String) (style : ScalarStyle) (tag : Option (String × String)) : Node :=
  if style != .plain then .string v
  else match tag with
    | some ("!!", suffix) =>
      if suffix == "bool" then
        (if v == "true" then .boolean true else if v == "false" then .boolean false else .bad)
      else if suffix == "int" then
        (match radixInt? 10 v with | some i => .integer i | none => .bad)
      else if suffix == "float" then (if isFloatText v then .real v else .bad)
      else if suffix == "null" then (if v == "~" || v == "null" then .null else .bad)
      else .string v
    | some _ => .string v
    | none => .ofPlain v

/-- Pairs with a pair put in: a key already there loses its old pair, and the new pair
goes at the end. -/
def insertPair (es : List (Node × Node)) (k v : Node) : List (Node × Node) :=
  es.filter (fun e => !e.1.same k) ++ [(k, v)]

/-- The state of building documents: the documents done, the open collections with their
anchors, the key waiting in each open mapping, and the anchored nodes. -/
structure Builder where
  docs : List Node := []
  open_ : List (Node × Nat) := []
  keys : List Node := []
  anchored : List (Nat × Node) := []

namespace Builder

/-- A finished node put into the open collection, or left as the document's root. -/
def place (b : Builder) (node : Node) (anchor : Nat) : Builder :=
  let b := if anchor > 0 then { b with anchored := (anchor, node) :: b.anchored } else b
  match b.open_ with
  | [] => { b with open_ := [(node, anchor)] }
  | (.array items, a) :: more => { b with open_ := (.array (items ++ [node]), a) :: more }
  | (.hash es, a) :: more =>
    match b.keys with
    | .bad :: ks => { b with keys := node :: ks }
    | k :: ks => { b with open_ := (.hash (insertPair es k node), a) :: more, keys := .bad :: ks }
    | [] => b
  | _ :: _ => b

/-- A node taken from the open collections and placed. -/
def close (b : Builder) : Builder :=
  match b.open_ with
  | (node, a) :: more => { b with open_ := more }.place node a
  | [] => b

/-- The builder after an event. -/
def onEvent (b : Builder) : Event → Builder
  | .documentEnd =>
    match b.open_ with
    | [] => { b with docs := .bad :: b.docs }
    | [(node, _)] => { b with docs := node :: b.docs, open_ := [] }
    | _ => b
  | .sequenceStart a => { b with open_ := (.array [], a) :: b.open_ }
  | .sequenceEnd => b.close
  | .mappingStart a => { b with open_ := (.hash [], a) :: b.open_, keys := .bad :: b.keys }
  | .mappingEnd => { b with keys := b.keys.drop 1 }.close
  | .scalar v style a tag => b.place (Node.ofScalar v style tag) a
  | .alias id => b.place ((b.anchored.lookup id).getD .bad) 0
  | _ => b

end Builder

/-- The documents of YAML text, or the first fault. -/
def documents (text : String) : Except Error (List Node) := do
  let evs ← events text
  return (evs.foldl Builder.onEvent {}).docs.reverse

example : (documents "a: 1\nb: [x, 0x10]\n").toOption.map List.length = some 1 := by cbv

end LowRankTuner.Yaml
