/-
  LowRankTuner/Template/Value.lean
  ================================
  The values of the template language, their kinds, truth, equality and order, and what
  can be looked up in them.

  A value is undefined, none, a boolean, an integer, a float, a string (plain or marked
  safe), or an object: a sequence, an iterator (the lazily computed items of a range, a
  reversal, a slice …, whose count may be unknown), a group of `groupby` (the pair of a
  key and its items), a map, the keyword arguments of a call, or a handle on something
  that lives in the renderer: a namespace, a macro, a global function or a loop.

  Maps keep their fields in iteration order.  Maps that the template language builds
  itself (literals, `dict`, keyword arguments, namespaces) are sorted by key and hold each
  key once (`sortedMap`); maps that come from the context keep the order of their fields.

  Equality and order are the template language's own:

  * equality compares numbers by exact value across integers, floats and booleans (an
    integer never equals a float that only rounds to it), strings by text, sequences and
    iterators item by item, and maps by their key sets and values;
  * order compares kinds first (undefined, none, bool, number, string, sequence, map,
    iterator, plain object), then numbers by exact value (`-0.0` and `0.0` alike, NaN
    placed by its sign bit), strings by code points, sequences and maps item by item.
    Map keys are found by this order.

  Integers are those of 128 bits, and unsigned ones up to `2^128` from literals; an
  integer outside the signed range takes part in no arithmetic, but compares exactly.
-/
import LowRankTuner.Decimal.Binary

namespace LowRankTuner.Template

/-! ## 1. Errors -/

/-- The kinds of failure in compiling or rendering a template. -/
inductive ErrorKind where
  | badSyntax
  | invalidOperation
  | templateNotFound
  | tooManyArguments
  | missingArgument
  | unknownFilter
  | unknownTest
  | unknownFunction
  | unknownMethod
  | badEscape
  | undefinedValue
  | cannotUnpack
  | nonKey
  | badSerialization
  /-- A template included could not be rendered. -/
  | badInclude
  /-- A fault that ends the whole program, such as an index past the items. -/
  | aborted
  deriving DecidableEq, Repr

/-- The words of each kind. -/
def ErrorKind.text : ErrorKind → String
  | .badSyntax => "syntax error"
  | .invalidOperation => "invalid operation"
  | .templateNotFound => "template not found"
  | .tooManyArguments => "too many arguments"
  | .missingArgument => "missing argument"
  | .unknownFilter => "unknown filter"
  | .unknownTest => "unknown test"
  | .unknownFunction => "unknown function"
  | .unknownMethod => "unknown method"
  | .badEscape => "bad string escape"
  | .undefinedValue => "undefined value"
  | .cannotUnpack => "cannot unpack"
  | .nonKey => "not a key type"
  | .badSerialization => "could not serialize to value"
  | .badInclude => "could not render include"
  | .aborted => "panic"

/-- A failure with its kind, an optional detail, and the template line it arose on
(0 while not yet known). -/
structure Error where
  kind : ErrorKind
  detail : Option String
  line : Nat
  deriving DecidableEq, Repr

/-- A failure of a kind with a detail. -/
def Error.mk' (kind : ErrorKind) (detail : String) : Error := ⟨kind, some detail, 0⟩

/-- A failure of a kind without a detail. -/
def Error.bare (kind : ErrorKind) : Error := ⟨kind, none, 0⟩

/-- A failure of an impossible operation, with a detail. -/
def Error.invalid (detail : String) : Error := .mk' .invalidOperation detail

/-- The failure placed on a line, unless it already has one. -/
def Error.at (e : Error) (line : Nat) : Error := if e.line == 0 then { e with line } else e

/-- The text of a failure in the template called `name`. -/
def Error.render (e : Error) (name : String) : String :=
  let head := match e.detail with
    | some d => e.kind.text ++ ": " ++ d
    | none => e.kind.text
  head ++ " (in " ++ name ++ ":" ++ toString e.line ++ ")"

/-! ## 2. Values -/

/-- A value of the template language. -/
inductive Value where
  | undefined
  | none
  | bool (b : Bool)
  | int (n : Int)
  | float (x : Float)
  | str (s : String)
  | safe (s : String)
  | seq (items : List Value)
  /-- Items computed on demand; `sized` when their count is known beforehand. -/
  | iter (items : List Value) (sized : Bool)
  /-- A group of `groupby`: its key and its items. -/
  | group (key : Value) (items : List Value)
  | map (fields : List (Value × Value))
  | kwargs (fields : List (Value × Value))
  | ns (id : Nat)
  | macroRef (id : Nat) (name : String) (params : List String) (caller : Bool)
  | func (name : String)
  /-- A loop at an item: its index from 0, the number of items if known, its depth of
  recursion, and the items before and after. -/
  | loop (id index0 : Nat) (length : Option Nat) (depth : Nat) (prev next : Option Value)

instance : Inhabited Value := ⟨.undefined⟩

namespace Value

/-- The kind of a value, as messages name it. -/
def kind : Value → String
  | .undefined => "undefined"
  | .none => "none"
  | .bool _ => "bool"
  | .int _ | .float _ => "number"
  | .str _ | .safe _ => "string"
  | .seq _ | .group .. => "sequence"
  | .iter .. => "iterator"
  | .map _ | .kwargs _ | .ns _ | .macroRef .. | .loop .. => "map"
  | .func _ => "plain object"

/-- The place of a value's kind in the order of kinds. -/
def kindRank : Value → Nat
  | .undefined => 0
  | .none => 1
  | .bool _ => 2
  | .int _ | .float _ => 3
  | .str _ | .safe _ => 4
  | .seq _ | .group .. => 6
  | .map _ | .kwargs _ | .ns _ | .macroRef .. | .loop .. => 7
  | .iter .. => 8
  | .func _ => 9

/-- The text of a string value. -/
def asStr? : Value → Option String
  | .str s | .safe s => some s
  | _ => Option.none

/-- The value is a string marked safe. -/
def isSafe : Value → Bool
  | .safe _ => true
  | _ => false

/-- The value is a number (not a boolean). -/
def isNumber : Value → Bool
  | .int _ | .float _ => true
  | _ => false

/-- The value is undefined. -/
def isUndefined : Value → Bool
  | .undefined => true
  | _ => false

/-- The value is none or undefined. -/
def isNoneish : Value → Bool
  | .undefined | .none => true
  | _ => false

/-- The fields of a map or of keyword arguments. -/
def fields? : Value → Option (List (Value × Value))
  | .map fs | .kwargs fs => some fs
  | _ => Option.none

/-- The names a macro object shows as its keys. -/
def macroKeys : List String := ["name", "arguments", "caller"]

/-- The names a loop object shows as its keys. -/
def loopKeys : List String :=
  ["index0", "index", "length", "revindex", "revindex0", "first", "last", "depth", "depth0",
    "previtem", "nextitem"]

/-- The number of items of an object when it is known: `none` for values that are not
counted. -/
def size? : Value → Option Nat
  | .seq xs => some xs.length
  | .iter xs sized => if sized then some xs.length else Option.none
  | .group .. => some 2
  | .map fs | .kwargs fs => some fs.length
  | .macroRef .. => some 3
  | .loop .. => some 11
  | _ => Option.none

/-- A value is true unless it is undefined, none, false, zero, an empty string, or an
object with no items.  Objects whose count is unknown are true. -/
def isTrue : Value → Bool
  | .undefined | .none => false
  | .bool b => b
  | .int n => n != 0
  | .float x => x != 0.0
  | .str s | .safe s => !s.isEmpty
  | v => v.size? != some 0

/-! ## 3. Numbers -/

/-- The bound of signed 128-bit integers. -/
def i128Bound : Int := Int.pow 2 127

/-- The integer lies in a signed range of `2^bits` values. -/
def fitsSigned (bits : Nat) (n : Int) : Bool :=
  -Int.pow 2 (bits - 1) ≤ n && n < Int.pow 2 (bits - 1)

/-- An integral float as a 64-bit integer: the float must equal its conversion. -/
def floatToI64? (x : Float) : Option Int :=
  let t := x.toInt64.toInt
  if Float.ofInt t == x && !x.isNaN then some t else Option.none

/-- The value as a signed integer of `bits` bits: booleans, integers in range, and
floats without a fraction within 64 bits. -/
def toSigned? (bits : Nat) : Value → Option Int
  | .bool b => some (if b then 1 else 0)
  | .int n => if fitsSigned bits n then some n else Option.none
  | .float x => (floatToI64? x).filter (fitsSigned bits)
  | _ => Option.none

/-- The value as a 128-bit integer. -/
def toI128? (v : Value) : Option Int := v.toSigned? 128

/-- The value as a 64-bit integer. -/
def toI64? (v : Value) : Option Int := v.toSigned? 64

/-- The value as an unsigned count: booleans, integers from 0 below `2^64`, and floats
that equal such an integer. -/
def asCount? : Value → Option Nat
  | .bool b => some (if b then 1 else 0)
  | .int n => if 0 ≤ n && n < Int.pow 2 64 then some n.toNat else Option.none
  | .float x =>
    let t := x.toUInt64.toNat
    if Float.ofNat t == x then some t else Option.none
  | _ => Option.none

/-- An integer as the nearest float. -/
def intToFloat (n : Int) : Float := floatOfRatio (n < 0) n.natAbs 1

/-- The value as a float: booleans, integers and floats. -/
def asFloat? : Value → Option Float
  | .bool b => some (if b then 1.0 else 0.0)
  | .int n => some (intToFloat n)
  | .float x => some x
  | _ => Option.none

/-- Two operands brought to a common kind. -/
inductive Coerced where
  | ints (a b : Int)
  | floats (a b : Float)
  | strs (a b : String)

/-- Brings two operands to a common kind: two strings stay strings, a float makes both
floats, and otherwise both must be integers (booleans count as 0 and 1). -/
def coerce (a b : Value) : Option Coerced :=
  match a.asStr?, b.asStr? with
  | some s, some t => some (.strs s t)
  | _, _ =>
    match a, b with
    | .float x, .float y => some (.floats x y)
    | .float x, v => v.asFloat?.map (.floats x ·)
    | v, .float y => v.asFloat?.map (.floats · y)
    | _, _ =>
      match a.toI128?, b.toI128? with
      | some m, some n => some (.ints m n)
      | _, _ => Option.none

/-- The total order of floats: by sign and magnitude bits, so that `-0.0 < 0.0` and a
positive NaN is above every number. -/
def floatKey (x : Float) : Int :=
  let bits := x.toBits.toNat
  if bits ≥ Nat.pow 2 63 then -((bits - Nat.pow 2 63 : Nat) : Int) - 1 else bits

/-- The order of two floats: by value, so that `-0.0` and `0.0` are equal, and in their
total order when NaN makes them unordered (a NaN with its sign bit set below every number,
one without above). -/
def compareFloat (x y : Float) : Ordering :=
  if x < y then .lt else if y < x then .gt else if x == y then .eq
  else Ord.compare (floatKey x) (floatKey y)

/-- A number as comparisons see it: an integer (booleans as 0 and 1) or a float. -/
inductive Num where
  | int (n : Int)
  | float (x : Float)

/-- The number a value is, if any. -/
def num? : Value → Option Num
  | .bool b => some (.int (if b then 1 else 0))
  | .int n => some (.int n)
  | .float x => some (.float x)
  | _ => Option.none

/-- The exact order of an integer and a float: the integer against the float's exact
value, the infinities beyond every integer, and NaN as the integer's float would meet it. -/
def compareIntFloat (n : Int) (x : Float) : Ordering :=
  match FloatClass.ofFloat x with
  | .finite neg m q =>
    let mag : Int := if neg then -(m : Int) else m
    if 0 ≤ q then Ord.compare n (mag * Int.pow 2 q.toNat)
    else Ord.compare (n * Int.pow 2 q.natAbs) mag
  | .infinite neg => if neg then .gt else .lt
  | .nan => compareFloat (intToFloat n) x

/-- The order of two numbers: integers exactly, floats by value, and an integer against a
float exactly, never through a rounded conversion. -/
def Num.compare : Num → Num → Ordering
  | .int m, .int n => Ord.compare m n
  | .float x, .float y => compareFloat x y
  | .int m, .float y => compareIntFloat m y
  | .float x, .int n => (compareIntFloat n x).swap

/-- Two numbers are equal: of equal exact value, and neither NaN. -/
def Num.equal : Num → Num → Bool
  | .float x, .float y => x == y
  | .int m, .int n => m == n
  | .int m, .float y => !y.isNaN && compareIntFloat m y == .eq
  | .float x, .int n => !x.isNaN && compareIntFloat n x == .eq

/-! ## 4. Equality and order -/

mutual

/-- How deeply a value nests: 1 for a value without items. -/
def depth : Value → Nat
  | .seq xs => depthList xs + 1
  | .iter xs _ => depthList xs + 1
  | .group k xs => max (depth k) (depthList xs) + 2
  | .map fs => depthFields fs + 1
  | .kwargs fs => depthFields fs + 1
  | .loop _ _ _ _ p q => max (depthOption p) (depthOption q) + 1
  | _ => 1

/-- The deepest nesting among items. -/
def depthList : List Value → Nat
  | [] => 0
  | x :: xs => max (depth x) (depthList xs)

/-- The deepest nesting among keys and values. -/
def depthFields : List (Value × Value) → Nat
  | [] => 0
  | (k, v) :: rest => max (max (depth k) (depth v)) (depthFields rest)

/-- The nesting of an optional value. -/
def depthOption : Option Value → Nat
  | some v => depth v
  | Option.none => 0

end

/-- The items of a sequence, an iterator or a group. -/
def seqItems? : Value → Option (List Value)
  | .seq xs => some xs
  | .iter xs _ => some xs
  | .group k xs => some [k, .iter xs true]
  | _ => Option.none

/-- Equality within a nesting budget: each step into items spends one unit. -/
def equalsWithin : Nat → Value → Value → Bool
  | 0, _, _ => false
  | n + 1, a, b =>
    match a, b with
    | .none, .none => true
    | .undefined, .undefined => true
    | _, _ =>
      match a.num?, b.num?, coerce a b with
      | some x, some y, _ => x.equal y
      | _, _, some (.ints m n) => m == n
      | _, _, some (.floats x y) => x == y
      | _, _, some (.strs s t) => s == t
      | _, _, Option.none =>
        match a, b with
        | .ns i, .ns j => i == j
        | .macroRef i .., .macroRef j .. => i == j
        | .func f, .func g => f == g
        | .loop i .., .loop j .. => i == j
        | _, _ =>
          match a.seqItems?, b.seqItems? with
          | some xs, some ys =>
            xs.length == ys.length && (xs.zip ys).all fun (x, y) => equalsWithin n x y
          | _, _ =>
            match a.fields?, b.fields? with
            | some fs, some gs =>
              fs.length == gs.length && fs.all fun (k, v) =>
                gs.any fun (k', w) => compareWithin n k k' == .eq && equalsWithin n v w
            | _, _ => false
where
  /-- The order within a nesting budget. -/
  compareWithin : Nat → Value → Value → Ordering
    | 0, _, _ => .eq
    | n + 1, a, b =>
      match Ord.compare a.kindRank b.kindRank with
      | .eq =>
        match a, b with
        | .none, .none | .undefined, .undefined => .eq
        | _, _ =>
          match a.num?, b.num?, coerce a b with
          | some x, some y, _ => x.compare y
          | _, _, some (.ints m n) => Ord.compare m n
          | _, _, some (.floats x y) => compareFloat x y
          | _, _, some (.strs s t) => Ord.compare s t
          | _, _, Option.none =>
            match a.seqItems?, b.seqItems? with
            | some xs, some ys => lexicographic (fun x y => compareWithin n x y) xs ys
            | _, _ =>
              match a.fields?, b.fields? with
              | some fs, some gs =>
                lexicographic (fun (p q : Value × Value) =>
                  match compareWithin n p.1 q.1 with
                  | .eq => compareWithin n p.2 q.2
                  | o => o) fs gs
              | _, _ => .eq
      | o => o
  /-- The lexicographic order of two lists under an order of items. -/
  lexicographic {α : Type} (cmp : α → α → Ordering) : List α → List α → Ordering
    | [], [] => .eq
    | [], _ => .lt
    | _, [] => .gt
    | x :: xs, y :: ys =>
      match cmp x y with
      | .eq => lexicographic cmp xs ys
      | o => o

/-- Two values are equal. -/
def equals (a b : Value) : Bool := equalsWithin (a.depth + b.depth + 1) a b

/-- The order of two values. -/
def compare (a b : Value) : Ordering :=
  equalsWithin.compareWithin (a.depth + b.depth + 1) a b

/-- The value under a key, keys compared by order. -/
def findKey (fs : List (Value × Value)) (key : Value) : Option Value :=
  (fs.find? fun (k, _) => compare k key == .eq).map (·.2)

/-- Fields with a key set: an equal key keeps its place and takes the value, a new key
goes in order of keys. -/
def insertSorted (fs : List (Value × Value)) (k v : Value) : List (Value × Value) :=
  match fs with
  | [] => [(k, v)]
  | (k', v') :: rest =>
    match compare k k' with
    | .lt => (k, v) :: fs
    | .eq => (k', v) :: rest
    | .gt => (k', v') :: insertSorted rest k v

/-- The fields of a sorted map built from pairs in order, a later pair winning a key. -/
def sortedFields (pairs : List (Value × Value)) : List (Value × Value) :=
  pairs.foldl (fun acc (k, v) => insertSorted acc k v) []

/-- A sorted map built from pairs. -/
def sortedMap (pairs : List (Value × Value)) : Value := .map (sortedFields pairs)

/-! ## 5. Looking inside values -/

/-- An integer index into `n` items, a negative one counting from the end. -/
def indexInto (n : Option Nat) (key : Value) : Option Nat :=
  match key.toI64? with
  | some i =>
    if i < 0 then n.bind fun n => if i.natAbs ≤ n then some (n - i.natAbs) else Option.none
    else some i.toNat
  | Option.none => Option.none

/-- The attribute of a loop object. -/
def loopAttr (index0 : Nat) (length : Option Nat) (depth : Nat) (prev next : Option Value)
    (name : String) : Option Value :=
  let known := fun (f : Nat → Value) => some ((length.map f).getD .undefined)
  match name with
  | "index0" => some (.int index0)
  | "index" => some (.int (index0 + 1))
  | "length" => known fun n => .int n
  | "revindex" => known fun n => .int (n - index0)
  | "revindex0" => known fun n => .int (n - index0 - 1)
  | "first" => some (.bool (index0 == 0))
  | "last" => some (.bool ((length.map fun n => n == 0 || index0 + 1 == n).getD false))
  | "depth" => some (.int (depth + 1))
  | "depth0" => some (.int depth)
  | "previtem" => some (prev.getD .undefined)
  | "nextitem" => some (next.getD .undefined)
  | _ => Option.none

/-- The value an object holds under a key, for objects that hold their values
(namespaces live in the renderer). -/
def getValue? (v : Value) (key : Value) : Option Value :=
  match v with
  | .map fs | .kwargs fs => findKey fs key
  | .group k xs =>
    match key.asStr?, key.asCount? with
    | some "grouper", _ | Option.none, some 0 => some k
    | some "list", _ | Option.none, some 1 => some (.iter xs true)
    | _, _ => Option.none
  | .macroRef _ name params caller =>
    match key.asStr? with
    | some "name" => some (.str name)
    | some "arguments" => some (.seq (params.map .str))
    | some "caller" => some (.bool caller)
    | _ => Option.none
  | .loop _ i n d p q => key.asStr?.bind (loopAttr i n d p q)
  | _ => Option.none

/-- An attribute of a value: what an object holds under the name, else nothing. -/
def attr? (v : Value) (name : String) : Option Value := v.getValue? (.str name)

/-- An item of a value by key or index: a character of a string, an item of a sequence
or an iterator, the value under a key of a map. -/
def item? (v : Value) (key : Value) : Option Value :=
  match v with
  | .str s | .safe s =>
    let cs := s.toList
    (indexInto (some cs.length) key).bind fun i => cs[i]?.map fun c => .str (String.singleton c)
  | .seq xs => (indexInto (some xs.length) key).bind fun i => xs[i]?
  | .iter xs sized => (indexInto (if sized then some xs.length else Option.none) key).bind
      fun i => xs[i]?
  | .group .. => v.getValue? (match indexInto (some 2) key with
      | some i => .int i
      | Option.none => key)
  | v => v.getValue? key

/-- The items a loop over the value visits, and whether their count is known: the
characters of a string, the items of a sequence, the keys of a map, nothing for none and
undefined.  Other values cannot be iterated. -/
def iterate? : Value → Option (List Value × Bool)
  | .undefined | .none => some ([], true)
  | .str s | .safe s => some (s.toList.map fun c => .str (String.singleton c), true)
  | .seq xs => some (xs, true)
  | .iter xs sized => some (xs, sized)
  | .group k xs => some ([k, .iter xs true], true)
  | .map fs | .kwargs fs => some (fs.map (·.1), true)
  | .macroRef .. => some (macroKeys.map .str, true)
  | .loop .. => some (loopKeys.map .str, true)
  | _ => Option.none

/-- The items a loop over the value visits, or the failure that it cannot be iterated. -/
def iterate (v : Value) : Except Error (List Value) :=
  match v.iterate? with
  | some (xs, _) => .ok xs
  | Option.none => .error (.invalid (v.kind ++ " is not iterable"))

/-- The items of a value and whether their count is known beforehand; the value must be
iterable. -/
def iterateCounted (v : Value) : Except Error (List Value × Bool) :=
  match v.iterate? with
  | some r => .ok r
  | Option.none => .error (.invalid (v.kind ++ " is not iterable"))

end Value

end LowRankTuner.Template
