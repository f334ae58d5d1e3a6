/-
  LowRankTuner/Template/Filters.lean
  ==================================
  The filters of the template language: `value|name(args)`.

  Each filter binds its arguments as `Template.Args` describes, the filtered value first.
  Filters that look at items iterate the value (undefined and none have no items; a
  value that cannot be iterated fails); those that sort compare by the order of values,
  strings without regard to ASCII case unless asked.  Paths such as `a.b.0` look up
  attributes and indices one after another, and looking into undefined fails.

  `length` and `tojson` are the chat engine's own: `length` counts characters, items, or
  gives 0, and `tojson` writes compact JSON.  `map`, `select`, `reject`, `selectattr` and
  `rejectattr` call other filters and tests by name.

  Filters see the escaping of the output: under HTML escaping `join` escapes every item and
  the separator that is not safe and gives safe text, and `replace` on text where any of the
  three strings is safe works on escaped text and gives safe text.  Sorting is stable, a
  reversed sort keeps equal items in their order, and items whose attribute path cannot be
  followed compare equal.
-/
import LowRankTuner.Template.Tests
import LowRankTuner.Template.Format
import LowRankTuner.Template.Serialize
import LowRankTuner.Text.Blank
import LowRankTuner.Text.Lines
import LowRankTuner.Decimal.Read

namespace LowRankTuner.Template

/-! ## 1. Escaping -/

/-- How emitted values are escaped. -/
inductive Escaping where
  | none
  | html
  deriving DecidableEq, Repr

/-- HTML escaping of `& < > " ' /`. -/
def htmlEscape (s : String) : String :=
  String.join (s.toList.map fun c => match c with
    | '&' => "&amp;" | '<' => "&lt;" | '>' => "&gt;" | '"' => "&quot;" | '\'' => "&#x27;"
    | '/' => "&#x2f;"
    | c => String.singleton c)

namespace Value

/-- The text a value writes when emitted under an escaping: safe strings as they are,
other strings and objects escaped, and undefined, none, booleans and numbers plain. -/
def escapedText (mode : Escaping) (v : Value) : String :=
  match v, mode with
  | .safe s, _ => s
  | v, .none => v.display
  | .str s, .html => htmlEscape s
  | .undefined, .html | .none, .html | .bool _, .html | .int _, .html | .float _, .html =>
    v.display
  | v, .html => htmlEscape v.display

/-! ## 2. Looking up paths -/

/-- An item of a value, undefined when absent; looking into undefined fails. -/
def getItem (v key : Value) : Except Error Value :=
  match v with
  | .undefined => .error (.bare .undefinedValue)
  | v => .ok ((v.item? key).getD .undefined)

/-- An attribute of a value, undefined when absent; looking into undefined fails. -/
def getAttr (v : Value) (name : String) : Except Error Value :=
  match v with
  | .undefined => .error (.bare .undefinedValue)
  | v => .ok ((v.attr? name).getD .undefined)

/-- The value at a dotted path: a part that is a count is an index, others are
attributes. -/
def getPath (v : Value) (path : String) : Except Error Value :=
  (path.splitOn ".").foldlM (fun acc part =>
    match Decimal.readNat? part with
    | some i => acc.getItem (.int i)
    | Option.none => acc.getAttr part) v

/-- The value at a path, or a default when the path fails or leads to undefined. -/
def getPathOr (v : Value) (path : String) (default : Value) : Value :=
  match v.getPath path with
  | .ok .undefined | .error _ => default
  | .ok w => w

/-! ## 3. Orders -/

/-- The order that sorting filters use: strings compared after ASCII lower-casing unless
case matters, everything else by the order of values. -/
def sortOrder (caseSensitive : Bool) (a b : Value) : Ordering :=
  match caseSensitive, a.asStr?, b.asStr? with
  | false, some s, some t => Ord.compare (s.map Char.toLower) (t.map Char.toLower)
  | _, _, _ => compare a b

/-- An item put into sorted items held last first: it moves past every item it is less
than, starting from the last. -/
def insertFromEnd (less : Value → Value → Bool) (x : Value) : List Value → List Value
  | [] => [x]
  | y :: rest => if less x y then y :: insertFromEnd less x rest else x :: y :: rest

/-- Items sorted stably by a comparison: by insertion from the end for up to 20 items, by
merging beyond.  Both keep equal items in their order and agree whenever the comparison
is a consistent order; insertion also fixes the outcome of a comparison that calls items
equal when it cannot compare them. -/
def sortBy (cmp : Value → Value → Ordering) (xs : List Value) : List Value :=
  if xs.length ≤ 20 then
    (xs.foldl (fun acc x => insertFromEnd (fun a b => cmp a b == .lt) x acc) []).reverse
  else xs.mergeSort fun a b => cmp a b != .gt

/-- Items sorted stably by a key and an order, backwards when `rev`: equal items keep
their order either way. -/
def sortByKey (order : Value → Value → Ordering) (key : Value → Value) (rev : Bool)
    (xs : List Value) : List Value :=
  sortBy (fun a b => if rev then order (key b) (key a) else order (key a) (key b)) xs

/-- The item that is greatest, the last of equals; undefined for no items. -/
def maxItem (xs : List Value) : Value :=
  xs.foldl (fun best x => match best with
    | .undefined => x
    | b => if compare x b != .lt then x else b) (xs.head?.getD .undefined)

/-- The item that is least, the first of equals; undefined for no items. -/
def minItem (xs : List Value) : Value :=
  xs.foldl (fun best x => if compare x best == .lt then x else best) (xs.head?.getD .undefined)

/-! ## 4. Numbers -/

/-- Rounds half away from zero to `p` decimals: the float is scaled by `10^p`, rounded to
an integer and scaled back. -/
def roundTo (x : Float) (p : Int) : Float :=
  let m := floatPowInt 10.0 p
  (x * m).round / m

/-- An integer string as a 128-bit integer. -/
def readI128? (s : String) : Option Int :=
  (Decimal.readInt? s).filter (fitsSigned 128)

/-- A float of a string, with the failures of a strict float reader. -/
def readFloatText (s : String) : Except Error Float :=
  if s.isEmpty then .error (.invalid "cannot parse float from empty string")
  else match Decimal.readFloat? s with
    | some x => .ok x
    | Option.none => .error (.invalid "invalid float literal")

/-- A float cut toward zero to an integer, saturating at the 128-bit range; NaN is 0. -/
def floatToI128 (x : Float) : Int :=
  match FloatClass.ofFloat x with
  | .nan => 0
  | .infinite neg => if neg then -i128Bound else i128Bound - 1
  | .finite neg m q =>
    let mag : Nat := if 0 ≤ q then m * Nat.pow 2 q.toNat else m / Nat.pow 2 q.natAbs
    let n : Int := if neg then -(mag : Int) else mag
    if n < -i128Bound then -i128Bound else if n ≥ i128Bound then i128Bound - 1 else n

end Value

/-! ## 5. The filters -/

/-- The items of a value for a filter that turns it into a list. -/
def listItems (v : Value) : Except Error (List Value) :=
  match v.iterate with
  | .ok xs => .ok xs
  | .error _ => .error (.invalid "cannot convert value to list")

/-- A filter of one value: the value alone is bound before the filter runs. -/
def unaryFilter (f : Value → Except Error Value) (args : List Value) : Except Error Value := do
  let v ← Binder.bindAll Binder.value args
  f v

/-- A piece of the text of `v` as a string, safe when `v` is. -/
def keepSafety (v : Value) (s : String) : Value :=
  match v with
  | .safe _ => .safe s
  | _ => .str s

/-- A filter on the text of its value alone whose result is safe when the value is. -/
def safeTextFilter (f : String → String) (args : List Value) : Except Error Value :=
  Binder.bindAll (do
    let v ← Binder.value
    let s ← Value.argText v
    return keepSafety v (f s)) args

/-- A filter of one text. -/
def textFilter (f : String → String) (args : List Value) : Except Error Value :=
  Binder.bindAll (do
    let s ← Binder.conv Value.argText
    return .str (f s)) args

/-- The first character upper case, the rest lower case. -/
def capitalizeText (s : String) : String :=
  match s.toList with
  | [] => ""
  | c :: rest => String.ofList (Text.upperChar c) ++ Text.lower (String.ofList rest)

/-- Each word capitalised: a character after ASCII punctuation, white space or the start
is upper case, others lower case. -/
def titleText (s : String) : String :=
  let step := fun (acc : List Char × Bool) (c : Char) =>
    let (out, start) := acc
    let boundary := (c.toNat < 128 && !c.isAlphanum && c.toNat > 32 && c.toNat < 127) ||
      Text.isWhiteSpace c
    if boundary then (c :: out, true)
    else if start then ((Text.upperChar c).reverse ++ out, false)
    else ((Text.lowerChar c).reverse ++ out, false)
  String.ofList (s.toList.foldl step ([], true)).1.reverse

/-- A text joined from the texts of items: the separator goes before an item only once
something has been written. -/
def joinTexts (sep : String) (xs : List String) : String :=
  xs.foldl (fun acc x => if acc.isEmpty then acc ++ x else acc ++ sep ++ x) ""

/-- Lines indented: the first only when asked, empty lines only when asked (a line of
blanks is not empty); one final newline is dropped first and the output carries none. -/
def indentText (s pad : String) (first blank : Bool) : String :=
  let dropEnd := fun (t : String) =>
    let t := if t.endsWith "\n" then String.ofList t.toList.dropLast else t
    if t.endsWith "\r" then String.ofList t.toList.dropLast else t
  let lines := (dropEnd s).splitOn "\n"
  let one := fun (l : String) => (if !l.isEmpty || blank then pad else "") ++ l ++ "\n"
  let out := match lines with
    | [] => ""
    | l :: rest =>
      (if first then one l else l ++ "\n") ++ String.join (rest.map one)
  dropEnd out

/-- Items in groups of `n`, the last filled up to `n` when a filler is given. -/
def batches (xs : List Value) (n : Nat) (fill : Option Value) : List Value :=
  let rec go : Nat → List Value → List Value
    | 0, _ => []
    | fuel + 1, ys =>
      if ys.isEmpty then []
      else
        let chunk := ys.take n
        let chunk := if chunk.length < n then
            match fill with
            | some f => chunk ++ List.replicate (n - chunk.length) f
            | none => chunk
          else chunk
        .seq chunk :: go fuel (ys.drop n)
  go (xs.length + 1) xs

/-- Items cut into `n` slices of nearly equal length, the longer ones first; when a filler
is given, the shorter slices get one filler each. -/
def slices (xs : List Value) (n : Nat) (fill : Option Value) : List Value :=
  let per := xs.length / n
  let extra := xs.length % n
  (List.range n).map fun i =>
    let start := i * per + min i extra
    let len := per + (if i < extra then 1 else 0)
    let part := (xs.drop start).take len
    match fill with
    | some f => .seq (if i ≥ extra then part ++ [f] else part)
    | none => .seq part

/-- Groups of equal keys in sorted items: each group takes the key of its last item. -/
def groupRuns (order : Value → Value → Ordering) : List (Value × Value) →
    List (Value × List Value)
  | [] => []
  | (k, x) :: rest =>
    match groupRuns order rest with
    | (k', ys) :: more =>
      if order k k' == .eq then (k', x :: ys) :: more else (k, [x]) :: (k', ys) :: more
    | [] => [(k, [x])]

/-- The keys of several maps, a later map winning a key, in order of keys. -/
def mergeMaps (maps : List (List (Value × Value))) : Value :=
  Value.sortedMap maps.flatten

/-- Items of several lists taken in step, as long as every list has one. -/
def zipLists : Nat → List (List Value) → List Value
  | 0, _ => []
  | fuel + 1, lists =>
    if lists.isEmpty || lists.any List.isEmpty then []
    else .seq (lists.filterMap List.head?) :: zipLists fuel (lists.map (·.drop 1))

/-- A reversed value: strings by characters, sequences by their items.  A map keeps the
order of its keys. -/
def reversed (v : Value) : Except Error Value :=
  match v with
  | .undefined | .none => .ok v
  | .str s | .safe s => .ok (.str (String.ofList s.toList.reverse))
  | .map fs | .kwargs fs => .ok (.iter (fs.map (·.1)) true)
  | .func _ => .error (.invalid "cannot reverse this object")
  | .iter xs sized => .ok (.iter xs.reverse sized)
  | v =>
    match v.iterate? with
    | some (xs, _) => .ok (.iter xs.reverse true)
    | none => .error (.invalid ("cannot reverse values of type " ++ v.kind))

/-- The sum of numbers, undefined items skipped. -/
def sumItems (xs : List Value) : Except Error Value :=
  xs.foldlM (fun acc x =>
    if x.isUndefined then .ok acc
    else if !x.isNumber then .error (.invalid ("can only sum numbers, got " ++ x.kind))
    else Value.add acc x) (.int 0)

/-- The integer of a value for the `int` filter. -/
def intOfValue (v : Value) : Except Error Value :=
  match v with
  | .undefined | .none => .ok (.int 0)
  | .bool b => .ok (.int (if b then 1 else 0))
  | .int _ => .ok v
  | .float x => .ok (.int (Value.floatToI128 x))
  | .str s | .safe s =>
    match Value.readI128? s with
    | some n => .ok (.int n)
    | none => (Value.readFloatText s).map fun x => .int (Value.floatToI128 x)
  | v => .error (.invalid ("cannot convert " ++ v.kind ++ " to integer"))

/-- The float of a value for the `float` filter. -/
def floatOfValue (v : Value) : Except Error Value :=
  match v with
  | .undefined | .none => .ok (.float 0.0)
  | .str s | .safe s => (Value.readFloatText s).map .float
  | v => (v.argFloat).map .float

/-- The escaped text of a value for the `escape` filter, which always escapes as HTML. -/
def escapeValue (v : Value) : Value :=
  match v with
  | .safe _ => v
  | v => .safe (v.escapedText .html)

/-- The order of two items by the value at an attribute path, or by the list of values
at several paths separated by commas (compared as lists, so with regard to case).  Items
whose path cannot be followed compare equal. -/
def pathOrder (cs : Bool) (path : String) (a b : Value) : Ordering :=
  if path.contains ',' then
    let paths := (path.splitOn ",").map Text.trim
    match paths.mapM a.getPath, paths.mapM b.getPath with
    | .ok p, .ok q => Value.sortOrder cs (.seq p) (.seq q)
    | _, _ => .eq
  else
    match a.getPath path, b.getPath path with
    | .ok p, .ok q => Value.sortOrder cs p q
    | _, _ => .eq

/-- Items with the later of equal items removed, strings compared by their lower case
unless case matters. -/
def uniqueItems (cs : Bool) (key : Value → Value) (xs : List Value) : List Value :=
  let memo := fun (x : Value) => match key x with
    | .str s | .safe s => if cs then Value.str s else .str (Text.lower s)
    | k => k
  (xs.foldl (fun (acc : List Value × List Value) x =>
    let m := memo x
    if acc.2.any (Value.compare · m == .eq) then acc else (x :: acc.1, m :: acc.2))
    ([], [])).1.reverse

/-- The keyword arguments at the end of a call's values, split off. -/
def splitKwargs (vs : List Value) : List Value × Kwargs :=
  match vs.getLast? with
  | some (.kwargs fs) => (vs.dropLast, ⟨fs⟩)
  | _ => (vs, {})

/-- Keeps the items for which a test (or truth) agrees with `keep`, testing the value at
a path when one is given. -/
def selectItems (keep : Bool) (path : Option String) (test : Option String)
    (testArgs : List Value) (xs : List Value) : Except Error (List Value) := do
  let testFn ← match test with
    | some t => if testNames.contains t then pure (some t) else throw (.bare .unknownTest)
    | none => pure none
  xs.filterM fun x => do
    let tv ← match path with
      | some p => x.getPath p
      | none => pure x
    let passed ← match testFn with
      | some t => match applyTest? t (tv :: testArgs) with
        | some r => r
        | none => throw (.bare .unknownTest)
      | none => pure tv.isTrue
    return passed == keep

/-- The filters that call no other filter, under the escaping of the output; none for an
unknown one. -/
def simpleFilter? (mode : Escaping) (name : String) (args : List Value) :
    Option (Except Error Value) :=
  open Binder in
  match name with
  | "abs" => some (unaryFilter (fun v => match v with
      | .int n =>
        if Value.fitsSigned 128 n then
          (if Value.fitsSigned 128 n.natAbs then .ok (.int n.natAbs)
           else .error (.invalid "overflow on abs"))
        else .ok v
      | .float x => .ok (.float x.abs)
      | _ => .error (.invalid "cannot get absolute value")) args)
  | "attr" => some (bindAll (do
      let v ← value
      let k ← value
      match v.getItem k with
      | .ok r => return r
      | .error e => throw e) args)
  | "batch" => some (bindAll (do
      let v ← value
      let n ← conv Value.argCount
      let fill ← opt
      if n == 0 then throw (.invalid "count cannot be 0")
      match v.iterate with
      | .ok xs => return .seq (batches xs n fill)
      | .error e => throw e) args)
  | "bool" => some (unaryFilter (fun v => .ok (.bool v.isTrue)) args)
  | "capitalize" => some (safeTextFilter capitalizeText args)
  | "chain" => some (bindAll (do
      let v ← value
      let others ← rest
      let all := v :: others
      let maps := all.filterMap Value.fields?
      if maps.length == all.length then return mergeMaps maps
      if all.all (·.kind == "sequence") then
        return .seq (all.map fun v => (v.iterate?.map (·.1)).getD []).flatten
      return .iter (all.filterMap fun v => v.iterate?.map (·.1)).flatten false) args)
  | "count" => some (unaryFilter (fun v => match v with
      | .str s | .safe s => .ok (.int s.length)
      | v => match v.size? with
        | some n => .ok (.int n)
        | none => .error (.invalid ("cannot calculate length of value of type " ++ v.kind))) args)
  | "default" | "d" => some (bindAll (do
      let v ← value
      let other ← opt
      let lenient ← convOpt Value.argBool
      if v.isUndefined || (lenient.getD false && !v.isTrue) then return other.getD (.str "")
      else return v) args)
  | "dictsort" => some (Binder.runWithKwargs (fun kw => do
      let v ← value
      if v.kind != "map" then throw (.invalid "cannot convert value into pairs")
      let byValue ← match kw.str? "by" with
        | .ok how => pure (how == some "value")
        | .error e => throw e
      let cs ← match kw.flag "case_sensitive" with
        | .ok b => pure b
        | .error e => throw e
      let pairs := (v.fields?.getD []).map fun (k, x) => Value.seq [k, x]
      let key := fun (p : Value) => match p with
        | .seq [a, b] => if byValue then b else a
        | p => p
      let rev ← match kw.flag "reverse" with
        | .ok b => pure b
        | .error e => throw e
      match kw.checkUsed ["by", "case_sensitive", "reverse"] with
      | .ok _ => return .seq (Value.sortByKey (Value.sortOrder cs) key rev pairs)
      | .error e => throw e) args)
  | "escape" | "e" => some (unaryFilter (fun v => .ok (escapeValue v)) args)
  | "first" => some (unaryFilter (fun v => match v with
      | .str s | .safe s => .ok ((s.toList.head?.map fun c => Value.str c.toString).getD .undefined)
      | v =>
        match v.isObject, v.iterate? with
        | true, some (xs, _) => .ok (xs.head?.getD .undefined)
        | _, _ => .error (.invalid "cannot get first item from value")) args)
  | "float" => some (unaryFilter floatOfValue args)
  | "format" => some (bindAll (do
      let f ← value
      let vs ← rest
      match f with
      | .safe t =>
        match formatWith (some htmlEscape) t vs with
        | .ok s => return .safe s
        | .error e => throw e
      | f =>
        match formatWith none (← Value.argStr f) vs with
        | .ok s => return .str s
        | .error e => throw e) args)
  | "groupby" => some (Binder.runWithKwargs (fun kw => do
      let v ← value
      let attrArg ← convOpt Value.argStr
      let default := (kw.get? "default").getD .undefined
      let cs ← match kw.flag "case_sensitive" with
        | .ok b => pure b
        | .error e => throw e
      let attr ← match attrArg with
        | some a => pure a
        | none => match kw.get? "attribute" with
          | some a => match a.argStr with
            | .ok s => pure s
            | .error e => throw e
          | none => throw (.mk' .missingArgument "missing keyword argument 'attribute'")
      let xs ← match v.iterate with
        | .ok xs => pure xs
        | .error e => throw e
      let key := fun (x : Value) => x.getPathOr attr default
      let sorted := Value.sortByKey (Value.sortOrder cs) key false xs
      match kw.checkUsed ["default", "case_sensitive", "attribute"] with
      | .error e => throw e
      | .ok _ =>
        let runs := groupRuns (Value.sortOrder cs) (sorted.map fun x => (key x, x))
        return .seq (runs.map fun (k, ys) => .group k ys)) args)
  | "indent" => some (Binder.runWithKwargs (fun kw => do
      let v ← value
      let s ← Value.argText v
      let w ← convOpt Value.argCount
      let first ← convOpt Value.argBool
      let blank ← convOpt Value.argBool
      let width ← liftM (kw.orKeyword w "width" Value.argCount 4)
      let first' ← liftM (kw.orKeyword first "first" Value.argBool false)
      let blank' ← liftM (kw.orKeyword blank "blank" Value.argBool false)
      let read := (if w.isNone then ["width"] else []) ++
        (if first.isNone then ["first"] else []) ++ (if blank.isNone then ["blank"] else [])
      match kw.checkUsed read with
      | .ok _ =>
        return keepSafety v (indentText s (String.ofList (List.replicate width ' ')) first' blank')
      | .error e => throw e) args)
  | "int" => some (unaryFilter intOfValue args)
  | "items" => some (unaryFilter (fun v =>
      if v.kind == "map" then
        .ok (.iter ((v.fields?.getD []).map fun (k, x) => Value.seq [k, x]) true)
      else .error (.invalid "cannot convert value into pairs")) args)
  | "join" => some (bindAll (do
      let v ← value
      let sepValue ← opt
      let sep ← match sepValue with
        | some x => Value.argText x
        | none => pure ""
      match v with
      | .undefined | .none => return .str ""
      | .str s | .safe s => return .str (joinTexts sep (s.toList.map Char.toString))
      | v =>
        match v.isObject, v.iterate? with
        | true, some (xs, _) =>
          match mode with
          | .none => return .str (joinTexts sep (xs.map Value.display))
          | .html =>
            let sep := match sepValue with
              | some x => x.escapedText .html
              | none => ""
            return .safe (joinTexts sep (xs.map (Value.escapedText .html)))
        | _, _ => throw (.invalid ("cannot join value of type " ++ v.kind))) args)
  | "last" => some (unaryFilter (fun v => match v with
      | .str s | .safe s =>
        .ok ((s.toList.getLast?.map fun c => Value.str c.toString).getD .undefined)
      | v =>
        if v.kind == "sequence" || v.kind == "iterator" then
          .ok (((v.iterate?.map (·.1)).getD []).getLast?.getD .undefined)
        else .error (.invalid "cannot get last item from value")) args)
  | "length" => some (unaryFilter (fun v => match v with
      | .str s | .safe s => .ok (.int s.length)
      | v => .ok (.int ((v.iterate?.map (·.1.length)).getD 0))) args)
  | "lines" => some (bindAll (do
      let v ← value
      let s ← Value.argStr v
      return .seq ((Text.lines s).map (keepSafety v))) args)
  | "list" => some (unaryFilter (fun v => (listItems v).map .seq) args)
  | "lower" => some (safeTextFilter Text.lower args)
  | "upper" => some (safeTextFilter Text.upper args)
  | "max" => some (unaryFilter (fun v => (listItems v).map Value.maxItem) args)
  | "min" => some (unaryFilter (fun v => (listItems v).map Value.minItem) args)
  | "pprint" => some (unaryFilter (fun v => .ok (.str (v.pretty 0))) args)
  | "select" | "reject" => some (bindAll (do
      let v ← value
      let test ← convOpt Value.argText
      let testArgs ← rest
      match v.iterate >>= selectItems (name == "select") none test testArgs with
      | .ok xs => return .seq xs
      | .error e => throw e) args)
  | "selectattr" | "rejectattr" => some (bindAll (do
      let v ← value
      let path ← conv Value.argText
      let test ← convOpt Value.argText
      let testArgs ← rest
      match v.iterate >>= selectItems (name == "selectattr") (some path) test testArgs with
      | .ok xs => return .seq xs
      | .error e => throw e) args)
  | "replace" => some (bindAll (do
      let v ← value
      let a ← value
      let b ← value
      let n ← convOpt Value.argCount
      let (s, old, new) := (← Value.argText v, ← Value.argText a, ← Value.argText b)
      if mode == .html && (v.isSafe || a.isSafe || b.isSafe) then
        return .safe (Text.replaceText (v.escapedText .html) (a.escapedText .html)
          (b.escapedText .html) n)
      return .str (Text.replaceText s old new n)) args)
  | "reverse" => some (unaryFilter reversed args)
  | "round" => some (bindAll (do
      let v ← value
      let p ← convOpt Value.argI32
      match v with
      | .int _ => return v
      | .float x => return .float (Value.roundTo x (p.getD 0))
      | v => throw (.invalid ("cannot round value (" ++ v.kind ++ ")"))) args)
  | "safe" => some (bindAll (do
      let s ← conv Value.argText
      return .safe s) args)
  | "slice" => some (bindAll (do
      let v ← value
      let n ← conv Value.argCount
      let fill ← opt
      if n == 0 then throw (.invalid "count cannot be 0")
      match v.iterate with
      | .ok xs => return .seq (slices xs n fill)
      | .error e => throw e) args)
  | "sort" => some (Binder.runWithKwargs (fun kw => do
      let v ← value
      let xs ← match listItems v with
        | .ok xs => pure xs
        | .error e => throw e
      let cs ← match kw.flag "case_sensitive" with
        | .ok b => pure b
        | .error e => throw e
      let attr ← match kw.str? "attribute" with
        | .ok a => pure a
        | .error e => throw e
      let order := match attr with
        | some a => pathOrder cs a
        | none => Value.sortOrder cs
      let rev ← match kw.flag "reverse" with
        | .ok b => pure b
        | .error e => throw e
      match kw.checkUsed ["case_sensitive", "attribute", "reverse"] with
      | .ok _ => return .seq (Value.sortByKey order id rev xs)
      | .error e => throw e) args)
  | "split" => some (bindAll (do
      let v ← value
      let s ← Value.argStr v
      let sep ← convOpt Value.argStr
      let maxsplits ← convOpt Value.argI64
      let limit := maxsplits.bind fun m => if 0 ≤ m then some (m.toNat + 1) else none
      let parts := match sep, limit with
        | none, none => Text.words Text.isWhiteSpace s
        | some p, l => Text.splitText s p l
        | none, some n => Text.splitAtBlanks Text.isWhiteSpace n s
      return .seq (parts.map (keepSafety v))) args)
  | "string" => some (unaryFilter (fun v => match v with
      | .str _ | .safe _ => .ok v
      | v => .ok (.str v.display)) args)
  | "sum" => some (unaryFilter (fun v => v.iterate >>= sumItems) args)
  | "title" => some (textFilter titleText args)
  | "tojson" => some (unaryFilter (fun v => (v.jsonText).map .str) args)
  | "trim" => some (bindAll (do
      let v ← value
      let s ← Value.argText v
      let chars ← convOpt Value.argText
      match chars with
      | some cs =>
        let set := cs.toList
        let t := ((s.toList.dropWhile set.contains).reverse.dropWhile set.contains).reverse
        return keepSafety v (String.ofList t)
      | none => return keepSafety v (Text.trim s)) args)
  | "unique" => some (Binder.runWithKwargs (fun kw => do
      let v ← value
      let xs ← match v.iterate with
        | .ok xs => pure xs
        | .error e => throw e
      let attr ← match kw.str? "attribute" with
        | .ok a => pure a
        | .error e => throw e
      let cs ← match kw.flag "case_sensitive" with
        | .ok b => pure b
        | .error e => throw e
      match kw.checkUsed ["attribute", "case_sensitive"] with
      | .error e => throw e
      | .ok _ =>
        let key := fun (x : Value) => match attr with
          | some a => x.getPathOr a .undefined
          | none => x
        return .seq (uniqueItems cs key xs)) args)
  | "zip" => some (bindAll (do
      let v ← value
      let others ← rest
      let found ← liftM ((v :: others).mapM Value.iterateCounted : Except Error _)
      let lists := found.map (·.1)
      return .iter (zipLists (lists.foldl (fun n l => n + l.length) 1) lists)
        (found.all (·.2))) args)
  | _ => none

mutual

/-- Applies a filter by name to its arguments, the filtered value first; none for an
unknown filter.  The fuel bounds filters that call filters. -/
def applyFilter? : Nat → Escaping → String → List Value → Option (Except Error Value)
  | 0, _, _, _ => some (.error (.invalid "filter calls nest too deeply"))
  | fuel + 1, mode, name, args =>
    match name with
    | "map" => some (mapFilter fuel mode args)
    | _ => simpleFilter? mode name args

/-- The `map` filter: an attribute path or a filter applied to every item. -/
def mapFilter : Nat → Escaping → List Value → Except Error Value
  | 0, _, _ => .error (.invalid "filter calls nest too deeply")
  | fuel + 1, mode, args => do
    let (pos, kw) := splitKwargs args
    let (v, rest) ← match pos with
      | v :: rest => pure (v, rest)
      | [] => throw (.bare .missingArgument)
    match kw.get? "attribute" with
    | some attr =>
      if !rest.isEmpty then throw (.bare .tooManyArguments)
      let default := if kw.has "default" then (Value.findKey kw.fields (.str "default")).getD .undefined
        else .undefined
      let xs ← v.iterate
      let out ← xs.mapM fun x => do
        let sub := match attr.asStr? with
          | some p => x.getPath p
          | none => x.getItem attr
        match sub, default with
        | .ok r, _ => pure (if r.isUndefined then default else r)
        | .error _, d => if !d.isUndefined then pure d else sub
      kw.checkUsed ["attribute", "default"]
      return .seq out
    | none =>
      let fname ← match rest with
        | f :: _ => pure f
        | [] => throw (.invalid "filter name is required")
      let fname ← match fname.asStr? with
        | some s => pure s
        | none => throw (.invalid "filter name must be a string")
      let extra := rest.drop 1 ++ (if kw.fields.isEmpty then [] else [.kwargs kw.fields])
      let xs ← v.iterate
      let out ← mapEach fuel mode fname extra xs
      return .seq out

/-- A filter applied to each item. -/
def mapEach : Nat → Escaping → String → List Value → List Value → Except Error (List Value)
  | 0, _, _, _, _ => .error (.invalid "filter calls nest too deeply")
  | _, _, _, _, [] => .ok []
  | fuel + 1, mode, f, extra, x :: xs => do
    let y ← match applyFilter? fuel mode f (x :: extra) with
      | some r => r
      | none => throw (.bare .unknownFilter)
    return y :: (← mapEach fuel mode f extra xs)

end

/-- Applies a filter by name under the escaping of the output. -/
def applyFilter (mode : Escaping) (name : String) (args : List Value) :
    Option (Except Error Value) :=
  applyFilter? 16 mode name args

end LowRankTuner.Template
