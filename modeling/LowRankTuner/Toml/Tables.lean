/-
  LowRankTuner/Toml/Tables.lean
  =============================
  Putting the sections of a TOML document together into one value.

  A document is a table.  Each key of a table is either a pair of a section, or the next
  part of the headers of the sections below it: `[a.b]` makes a table `b` inside a table
  `a`, and the sections `[[a]]` make `a` an array of tables, one per section.  A table
  is visited once: its own pairs first, then the sections below it in document order, each
  taken away once it is used, so that a section met a second time is a redefinition.

  The faults are those of a document: a key given twice in one table, a table header given
  twice, a header that names an array element as a plain table, and a datetime that does
  not read, which is placed where the datetime starts.  A key given twice in an inline
  table is placed at the brace that opens it.  A fault found here that names no
  place of its own is reported at the header of the document's last section.
-/
import LowRankTuner.Toml.Document
import LowRankTuner.Toml.Datetime

namespace LowRankTuner.Toml

/-- A TOML value, a datetime kept as its normal text. -/
inductive Value where
  | str (s : String)
  | int (i : Int)
  | float (x : Float)
  | bool (b : Bool)
  | datetime (text : String)
  | array (items : List Value)
  | table (entries : List (String × Value))

/-- The fault of a key given twice in one table. -/
def duplicateKey (k : String) : Error := ⟨.custom ("duplicate key: `" ++ k ++ "`"), none, []⟩

/-- The first key of a list that repeats a key before it, the keys `seen` counting as
before it. -/
def firstRepeat (seen : List String) : List (String × Value) → Option String
  | [] => none
  | (k, _) :: more => if seen.contains k then some k else firstRepeat (k :: seen) more

/-- The table of some entries, a key given twice refused. -/
def tableOf (entries : List (String × Value)) : Except Error Value :=
  match firstRepeat [] entries with
  | some k => .error (duplicateKey k)
  | none => .ok (.table entries)

mutual

/-- The value of an item that starts at `offset`; a datetime that does not read is a
fault there, and so is a key given twice in an inline table that starts there. -/
def Item.valueAt (offset : Nat) : Item → Except Error Value
  | .str s => .ok (.str s)
  | .int i => .ok (.int i)
  | .float x => .ok (.float x)
  | .bool b => .ok (.bool b)
  | .datetime text =>
    match Datetime.parse? text with
    | some d => .ok (.datetime d.text)
    | none => .error (Error.placed (.custom "failed to parse datetime") offset)
  | .array items => do pure (.array (← itemValues items))
  | .inline pairs =>
    match (do tableOf (← pairValues pairs) : Except Error Value) with
    | .error e => .error (if e.offset.isSome then e else { e with offset := some offset })
    | .ok v => .ok v
  | .dotted pairs => do tableOf (← pairValues pairs)

/-- The values of located items. -/
def itemValues : List (Nat × Item) → Except Error (List Value)
  | [] => .ok []
  | (o, i) :: more => do pure ((← i.valueAt o) :: (← itemValues more))

/-- The entries of pairs, in order. -/
def pairValues : List Pair → Except Error (List (String × Value))
  | [] => .ok []
  | (k, o, i) :: more => do pure ((k, ← i.valueAt o) :: (← pairValues more))

end

/-- A visit of a table: the pairs still to give, the depth of its headers, the section
where the search for sections below it resumes, the section whose header it belongs to,
the end of the sections it may use, and whether it is an array of tables. -/
structure Visit where
  values : List Pair := []
  pending : Option Pair := none
  depth : Nat
  cur : Nat
  parent : Nat
  limit : Nat
  array : Bool

/-- Assembling a document: the sections, whose pairs are taken away as they are used. -/
abbrev AssembleM := StateT (Array Section) (Except Error)

/-- The section at an index. -/
def sectionAt (i : Nat) : AssembleM Section := do
  match (← get)[i]? with
  | some s => pure s
  | none => pure ⟨0, [], none, false⟩

/-- Takes a section's pairs away. -/
def takeValues (i : Nat) : AssembleM (List Pair) := do
  let s ← sectionAt i
  modify fun ss => ss.set! i { s with values := none }
  pure (s.values.getD [])

/-- The next key of a visit, with the visit moved on, searching at most `fuel` sections. -/
def nextKey : Nat → Visit → AssembleM (Option String × Visit)
  | 0, v => pure (none, v)
  | fuel + 1, v => do
    match v.values with
    | p :: rest => pure (some p.1, { v with values := rest, pending := some p })
    | [] =>
      let ss ← get
      let pfx := ((← sectionAt v.parent).header.take v.depth)
      let found := (List.range' v.cur (v.limit - v.cur)).find? fun i =>
        match ss[i]? with
        | some s => v.cur ≤ i && i < v.limit && pfx.isPrefixOf s.header && s.values.isSome
        | none => false
      match found with
      | none => pure (none, v)
      | some pos =>
        let parent ← sectionAt v.parent
        let t ← sectionAt pos
        let v := { v with cur := pos }
        let v ← if v.parent != pos then
            if parent.header == t.header then
              throw (.placed (.duplicateTable (".".intercalate t.header)) t.offset)
            else pure (if t.header.length < parent.header.length then { v with parent := pos } else v)
          else pure v
        if v.depth != t.header.length then pure (t.header[v.depth]?, v)
        else if t.array then throw (.placed .redefineAsArray t.offset)
        else
          let values ← takeValues pos
          nextKey fuel { v with values }

/-- The first key of a visit, if it has one. -/
def Visit.firstKey (v : Visit) : AssembleM (Option String × Visit) := do
  if v.parent == v.limit || v.cur == v.limit then pure (none, v)
  else nextKey ((← get).size + 1) v

mutual

/-- A visited table, with at most `fuel` steps. -/
def visitTable : Nat → Visit → List (String × Value) → AssembleM Value
  | 0, _, acc => pure (.table acc)
  | fuel + 1, v, acc => do
    let (k?, v) ← v.firstKey
    match k? with
    | none => pure (.table acc)
    | some k =>
      if acc.any (·.1 == k) then throw (duplicateKey k)
      let (x, v) ← visitValue fuel v
      visitTable fuel v (acc ++ [(k, x)])

/-- The value of the key a visit has just given. -/
def visitValue : Nat → Visit → AssembleM (Value × Visit)
  | 0, v => pure (.table [], v)
  | fuel + 1, v => do
    match v.pending with
    | some (k, o, item) =>
      match item.valueAt o with
      | .ok x => pure (x, { v with pending := none })
      | .error e => throw (e.within k)
    | none =>
      let t ← sectionAt v.cur
      let isArray := t.array && v.depth + 1 == t.header.length
      let key := (t.header[v.depth]?).getD ""
      let v := { v with cur := v.cur + 1 }
      let child : Visit :=
        { depth := v.depth + (if isArray then 0 else 1), cur := 0, parent := v.cur - 1,
          limit := v.limit, array := isArray }
      try
        let r ← if isArray then visitArray fuel child [] else visitTable fuel child []
        pure (r, v)
      catch e => throw (e.within key)

/-- The elements of a visited array of tables, with at most `fuel` steps. -/
def visitArray : Nat → Visit → List Value → AssembleM Value
  | 0, _, acc => pure (.array acc)
  | fuel + 1, v, acc => do
    if v.parent == v.limit then return .array acc
    let ss ← get
    let header := (← sectionAt v.parent).header
    let next := ((List.range' (v.parent + 1) (v.limit - (v.parent + 1))).find? fun i =>
      match ss[i]? with
      | some s => v.parent + 1 ≤ i && i < v.limit && s.header == header && s.array
      | none => false).getD v.limit
    let values ← takeValues v.parent
    let elem ← visitTable fuel
      { values, depth := v.depth + 1, cur := 0, parent := v.parent, limit := next, array := false } []
    visitArray fuel { v with parent := next } (acc ++ [elem])

end

/-- The value of a document's text. -/
def parse (text : String) : Except Error Value := do
  let ss ← sections text
  let root : Visit := { depth := 0, cur := 0, parent := 0, limit := ss.length, array := false }
  let fuel := (text.length + 2) * (text.length + 2)
  match (visitTable fuel root []).run' ss.toArray with
  | .ok v => pure v
  | .error e =>
    throw (if e.offset.isSome then e else { e with offset := ss.getLast?.map (·.offset) })

end LowRankTuner.Toml
