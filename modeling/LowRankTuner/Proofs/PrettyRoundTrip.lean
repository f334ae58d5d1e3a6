import Mathlib
import LowRankTuner.Proofs.NumberText
/-!
# Indented JSON text reads back

`pretty` writes a value over lines: every item of an array and every field of an object on a
line of its own, indented by two spaces a level, a key followed by `": "`.  The reader passes
over the blanks between the parts, so the text reads back as the value, except that each
leaf reads back as its own text does (`readBack?`): a float as the float its shortest digits
convert to, which is not always the float written, and a float that is not finite as `null`,
the word it is written as.

Main statement: `parseBytesAsWritten_pretty`, for every value whose strings and keys are plain
and whose nesting the reader allows.  It is proved as the compact round trip is
(`LowRankTuner.Proofs.JsonRoundTrip`): one step lemma per mutual function of the reader, stated
for every text whose next bytes are an indented value, its items or its fields, packed into one
induction on the fuel; the leaves come from `LowRankTuner.Proofs.NumberText`, which shows that a
number's text reads the same wherever it stands.
-/

namespace LowRankTuner.Json

/-! ### Runs of blanks -/

section Blanks

variable {src : ByteArray} {i : Nat} {b : UInt8} {r : List UInt8}

theorem skipBlanks_run :
    ∀ (ws : List UInt8) (fuel i : Nat), (∀ w ∈ ws, isBlankByte w = true) →
      suffix src i = ws ++ b :: r → isBlankByte b = false → ws.length < fuel →
      skipBlanks fuel src i = .ok (some b, i + ws.length)
  | [], fuel, i, _, h, hb, _ => skipBlanks_of_suffix h hb fuel
  | w :: ws, fuel + 1, i, hws, h, hb, hn => by
    have hw := hws w (List.mem_cons_self ..)
    simp only [isBlankByte, Bool.or_eq_true, beq_iff_eq] at hw
    rw [skipBlanks, bind_run (peek_of_suffix h)]
    have hrest : skipBlanks fuel src (i + 1) = .ok (some b, i + 1 + ws.length) :=
      skipBlanks_run ws fuel (i + 1) (fun x hx => hws x (List.mem_cons_of_mem _ hx)) (suffix_succ h)
        hb (by simp at hn; omega)
    rcases hw with ((rfl | rfl) | rfl) | rfl <;>
    · show (eat >>= fun _ => skipBlanks fuel) src i = _
      rw [bind_run (eat_eq src i), hrest, List.length_cons]
      congr 2
      omega

/-- `blanks` passes over a run of blanks to the byte after it. -/
theorem blanks_run {ws : List UInt8} (hws : ∀ w ∈ ws, isBlankByte w = true)
    (h : suffix src i = ws ++ b :: r) (hb : isBlankByte b = false) :
    blanks src i = .ok (some b, i + ws.length) := by
  have hlen := suffix_fuel h
  rw [blanks_eq, skipBlanks_run ws _ i hws h hb (by simp at hlen; omega)]

/-- Blanks before a value change nothing but the offset the value starts at. -/
theorem value_run {ws : List UInt8} (hws : ∀ w ∈ ws, isBlankByte w = true)
    (h : suffix src i = ws ++ b :: r) (hb : isBlankByte b = false) {F : Nat} (hF : 0 < F)
    (depth : Nat) : value F depth src i = value F depth src (i + ws.length) := by
  have h' : suffix src (i + ws.length) = b :: r := suffix_append h
  cases F with
  | zero => omega
  | succ F => rw [value.eq_2, bind_run (blanks_run hws h hb), bind_run (blanks_of_suffix h' hb)]

end Blanks

/-! ### The bytes of an indented text -/

/-- The bytes that end a line and indent the next at nesting `n`. -/
def lineBytes (n : Nat) : List UInt8 := 10 :: List.replicate (2 * n) 32

theorem length_lineBytes (n : Nat) : (lineBytes n).length = 2 * n + 1 := by
  simp [lineBytes]

theorem lineBytes_blank (n : Nat) : ∀ w ∈ lineBytes n, isBlankByte w = true := by
  intro w hw
  rcases List.mem_cons.1 hw with rfl | hw
  · rfl
  · rw [List.eq_of_mem_replicate hw]
    rfl

theorem bytesOf_indent (n : Nat) : bytesOf (indent n) = List.replicate (2 * n) 32 := by
  have hascii : ∀ c ∈ (indent n).toList, c.toNat < 128 := fun c hc => by
    rw [indent, String.toList_ofList] at hc
    rw [List.eq_of_mem_replicate hc]
    decide
  rw [bytesOf_of_ascii hascii, indent, String.toList_ofList, List.map_replicate]
  rfl

/-- The text of the items after the first, each after a comma and a line break. -/
def prettyTail (m : Nat) (xs : List Json) : List UInt8 :=
  xs.flatMap fun x => 44 :: lineBytes m ++ bytesOf (pretty m x)

/-- The text of one field: its key, a colon and a space, its value. -/
def fieldLine (m : Nat) (k : String) (v : Json) : List UInt8 :=
  bytesOf (quote k) ++ 58 :: 32 :: bytesOf (pretty m v)

/-- The text of the fields after the first, each after a comma and a line break. -/
def prettyFieldsTail (m : Nat) (fs : List (String × Json)) : List UInt8 :=
  fs.flatMap fun f => 44 :: lineBytes m ++ fieldLine m f.1 f.2

theorem prettyTail_cons (m : Nat) (x : Json) (xs : List Json) :
    prettyTail m (x :: xs) = 44 :: lineBytes m ++ bytesOf (pretty m x) ++ prettyTail m xs := rfl

theorem prettyFieldsTail_cons (m : Nat) (k : String) (v : Json) (fs : List (String × Json)) :
    prettyFieldsTail m ((k, v) :: fs) = 44 :: lineBytes m ++ fieldLine m k v ++ prettyFieldsTail m fs :=
  rfl

theorem bytesOf_prettyItems_cons (m : Nat) (x : Json) (xs : List Json) :
    bytesOf (prettyItems m (x :: xs)) =
      List.replicate (2 * m) 32 ++ bytesOf (pretty m x) ++ prettyTail m xs := by
  induction xs generalizing x with
  | nil => simp [prettyItems, prettyTail, bytesOf_indent]
  | cons y ys ih =>
    rw [prettyItems, bytesOf_append, bytesOf_append, bytesOf_append, ih, bytesOf_indent]
    · simp [prettyTail, lineBytes]
      rfl
    · nofun

theorem bytesOf_prettyFields_cons (m : Nat) (k : String) (v : Json) (fs : List (String × Json)) :
    bytesOf (prettyFields m ((k, v) :: fs)) =
      List.replicate (2 * m) 32 ++ fieldLine m k v ++ prettyFieldsTail m fs := by
  induction fs generalizing k v with
  | nil =>
    simp [prettyFields, prettyFieldsTail, fieldLine, bytesOf_indent]
    rfl
  | cons f fs ih =>
    obtain ⟨k', v'⟩ := f
    rw [prettyFields, bytesOf_append, bytesOf_append, bytesOf_append, bytesOf_append,
      bytesOf_append, ih, bytesOf_indent]
    · simp [prettyFieldsTail, fieldLine, lineBytes]
      rfl
    · nofun

theorem bytesOf_pretty_arr (n : Nat) (x : Json) (xs : List Json) :
    bytesOf (pretty n (.arr (x :: xs))) =
      91 :: lineBytes (n + 1) ++ bytesOf (pretty (n + 1) x) ++ prettyTail (n + 1) xs ++
        lineBytes n ++ [93] := by
  rw [pretty, bytesOf_append, bytesOf_append, bytesOf_append, bytesOf_append,
    bytesOf_prettyItems_cons, bytesOf_indent]
  · simp [lineBytes]
    rfl
  · nofun

theorem bytesOf_pretty_obj (n : Nat) (k : String) (v : Json) (fs : List (String × Json)) :
    bytesOf (pretty n (.obj ((k, v) :: fs))) =
      123 :: lineBytes (n + 1) ++ fieldLine (n + 1) k v ++ prettyFieldsTail (n + 1) fs ++
        lineBytes n ++ [125] := by
  rw [pretty, bytesOf_append, bytesOf_append, bytesOf_append, bytesOf_append,
    bytesOf_prettyFields_cons, bytesOf_indent]
  · simp [lineBytes]
    rfl
  · nofun

/-! ### Values whose indented text reads back -/

mutual

/-- A value whose strings and keys are plain, nested at most `room` levels deep.  Numbers
are not restricted: each reads back as its own text does. -/
def printableIn : Nat → Json → Bool
  | _, .null => true
  | _, .bool _ => true
  | _, .num _ => true
  | _, .str s => s.toList.all plainChar
  | 0, .arr _ => false
  | 0, .obj _ => false
  | room + 1, .arr xs => printableItemsIn room xs
  | room + 1, .obj fs => printableFieldsIn room fs

def printableItemsIn (room : Nat) : List Json → Bool
  | [] => true
  | x :: xs => printableIn room x && printableItemsIn room xs

def printableFieldsIn (room : Nat) : List (String × Json) → Bool
  | [] => true
  | (k, v) :: fs => k.toList.all plainChar && printableIn room v && printableFieldsIn room fs

end

mutual

/-- What a value reads back as from its indented text: arrays and objects part by part, each
leaf as its compact text reads alone, and nothing when a leaf is refused. -/
def readBack? : Json → Option Json
  | .arr xs => (readBackItems? xs).map .arr
  | .obj fs => (readBackFields? fs).map .obj
  | j => readAlone? j

def readBackItems? : List Json → Option (List Json)
  | [] => some []
  | x :: xs => (readBack? x).bind fun v => (readBackItems? xs).map (v :: ·)

def readBackFields? : List (String × Json) → Option (List (String × Json))
  | [] => some []
  | (k, v) :: fs => (readBack? v).bind fun v' => (readBackFields? fs).map ((k, v') :: ·)

end

/-- Reading the items one by one onto the reversed items read before them. -/
theorem readBackItems?_cons_map (x : Json) (xs acc : List Json) :
    (readBackItems? (x :: xs)).map (acc.reverse ++ ·) =
      (readBack? x).bind fun v => (readBackItems? xs).map ((v :: acc).reverse ++ ·) := by
  rw [readBackItems?]
  cases readBack? x with
  | none => rfl
  | some v => simp [Option.map_map, Function.comp_def]

theorem readBackFields?_cons_map (k : String) (v : Json) (fs acc : List (String × Json)) :
    (readBackFields? ((k, v) :: fs)).map (acc.reverse ++ ·) =
      (readBack? v).bind fun v' => (readBackFields? fs).map (((k, v') :: acc).reverse ++ ·) := by
  rw [readBackFields?]
  cases readBack? v with
  | none => rfl
  | some v' => simp [Option.map_map, Function.comp_def]

/-- An indented text starts with a byte that is not blank and closes nothing. -/
theorem pretty_cons {room : Nat} {j : Json} (n : Nat) (h : printableIn room j = true) :
    ∃ c rest, bytesOf (pretty n j) = c :: rest ∧ isBlankByte c = false ∧ c ≠ 93 ∧ c ≠ 125 := by
  cases j with
  | null => exact compact_cons (show plainIn 0 .null = true from rfl)
  | bool b => exact compact_cons (show plainIn 0 (.bool b) = true from rfl)
  | str s => exact compact_cons (show plainIn 0 (.str s) = true by simpa [printableIn, plainIn] using h)
  | num x =>
    rcases bytesOf_compact_num x with hnull | ⟨neg, u, hu, hbytes⟩
    · -- a float that is not finite, written `null`
      have hc : pretty n (.num x) = compact .null := hnull
      rw [hc]
      exact compact_cons (show plainIn 0 .null = true from rfl)
    · have hp : bytesOf (pretty n (.num x)) = ((if neg then ['-'] else []) ++ u).map digitByte :=
        hbytes
      rw [hp]
      cases neg with
      | true => exact ⟨45, u.map digitByte, rfl, rfl, by decide, by decide⟩
      | false =>
        obtain ⟨c, u', rfl, hc⟩ := hu.head
        exact ⟨digitByte c, u'.map digitByte, rfl, isBlankByte_digitByte hc,
          digitByte_ne hc (by decide), digitByte_ne hc (by decide)⟩
  | arr xs =>
    cases xs with
    | nil => exact ⟨91, [93], show bytesOf "[]" = [91, 93] by decide, rfl, by decide, by decide⟩
    | cons x xs => exact ⟨91, _, bytesOf_pretty_arr n x xs, rfl, by decide, by decide⟩
  | obj fs =>
    cases fs with
    | nil => exact ⟨123, [125], show bytesOf "\x7b\x7d" = [123, 125] by decide, rfl, by decide,
      by decide⟩
    | cons f fs =>
      obtain ⟨k, v⟩ := f
      exact ⟨123, _, bytesOf_pretty_obj n k v fs, rfl, by decide, by decide⟩

theorem numberEnd_prettyTail (m n : Nat) (xs : List Json) (r : List UInt8) :
    NumberEnd (prettyTail m xs ++ lineBytes n ++ 93 :: r) := by
  intro b r' h
  cases xs with
  | nil => cases h; rfl
  | cons x xs =>
    simp only [prettyTail_cons, List.cons_append, List.cons.injEq] at h
    rw [← h.1]
    rfl

theorem numberEnd_prettyFieldsTail (m n : Nat) (fs : List (String × Json)) (r : List UInt8) :
    NumberEnd (prettyFieldsTail m fs ++ lineBytes n ++ 125 :: r) := by
  intro b r' h
  cases fs with
  | nil => cases h; rfl
  | cons f fs =>
    simp only [prettyFieldsTail, List.flatMap_cons, List.cons_append, List.cons.injEq] at h
    rw [← h.1]
    rfl

/-! ### Reading nested values

The fuel predicates of the compact round trip, for indented text: the items and fields
after the first each start with a comma and a line break, and the line that closes an array
or an object is read before its bracket. -/

/-- With fuel `F`, `value` reads every printable value whose indented text is shorter than
`F` as `readBack?` says. -/
def PrettyValueReads (F : Nat) : Prop :=
  ∀ room j n depth src i r, printableIn room j = true → depth + room < depthLimit →
    suffix src i = bytesOf (pretty n j) ++ r → NumberEnd r → (bytesOf (pretty n j)).length < F →
    Yields (value F depth src i) (readBack? j) (i + (bytesOf (pretty n j)).length)

/-- With fuel `F`, `arrayItems` reads the items after a first one, up to the line that closes
the array. -/
def PrettyItemsReads (F : Nat) : Prop :=
  ∀ room xs m n depth acc src i r, printableItemsIn room xs = true → depth + room < depthLimit →
    suffix src i = prettyTail m xs ++ lineBytes n ++ 93 :: r → (prettyTail m xs).length < F →
    Yields (arrayItems F depth false acc src i) ((readBackItems? xs).map (acc.reverse ++ ·))
      (i + (prettyTail m xs).length + (lineBytes n).length)

/-- With fuel `F`, `arrayItems` reads all the items of an array that has some. -/
def PrettyFirstItemsReads (F : Nat) : Prop :=
  ∀ room x xs m n depth src i r, printableItemsIn room (x :: xs) = true →
    depth + room < depthLimit →
    suffix src i = lineBytes m ++ bytesOf (pretty m x) ++ prettyTail m xs ++ lineBytes n ++ 93 :: r →
    (lineBytes m ++ bytesOf (pretty m x) ++ prettyTail m xs).length < F →
    Yields (arrayItems F depth true [] src i) (readBackItems? (x :: xs))
      (i + (lineBytes m ++ bytesOf (pretty m x) ++ prettyTail m xs).length + (lineBytes n).length)

/-- With fuel `F`, `objectFields` reads the fields after a first one, up to the line that
closes the object. -/
def PrettyFieldsReads (F : Nat) : Prop :=
  ∀ room fs m n depth acc src i r, printableFieldsIn room fs = true → depth + room < depthLimit →
    suffix src i = prettyFieldsTail m fs ++ lineBytes n ++ 125 :: r →
    (prettyFieldsTail m fs).length < F →
    Yields (objectFields F depth false acc src i) ((readBackFields? fs).map (acc.reverse ++ ·))
      (i + (prettyFieldsTail m fs).length + (lineBytes n).length)

/-- With fuel `F`, `objectFields` reads all the fields of an object that has some. -/
def PrettyFirstFieldsReads (F : Nat) : Prop :=
  ∀ room k v fs m n depth src i r, printableFieldsIn room ((k, v) :: fs) = true →
    depth + room < depthLimit →
    suffix src i = lineBytes m ++ fieldLine m k v ++ prettyFieldsTail m fs ++ lineBytes n ++ 125 :: r →
    (lineBytes m ++ fieldLine m k v ++ prettyFieldsTail m fs).length < F →
    Yields (objectFields F depth true [] src i) (readBackFields? ((k, v) :: fs))
      (i + (lineBytes m ++ fieldLine m k v ++ prettyFieldsTail m fs).length + (lineBytes n).length)

section Steps

variable {F : Nat}

theorem prettyItemsReads_succ (hV : PrettyValueReads F) (hI : PrettyItemsReads F) :
    PrettyItemsReads (F + 1) := by
  intro room xs m n depth acc src i r hxs hdepth h hlen
  cases xs with
  | nil =>
    -- only the closing line is left
    rw [arrayItems_of_close (blanks_run (lineBytes_blank n) h rfl)]
    simp [prettyTail, readBackItems?]
    rfl
  | cons x xs =>
    simp only [printableItemsIn, Bool.and_eq_true] at hxs
    obtain ⟨c, rest, hc, hcb, hc93, -⟩ := pretty_cons m hxs.1
    rw [prettyTail_cons] at h hlen
    simp only [List.cons_append, List.append_assoc] at h
    have h1 := suffix_succ h
    have hx := suffix_append h1
    have h1' := h1
    rw [hc, List.cons_append] at h1'
    rw [arrayItems_of_comma (blanks_of_suffix h rfl) (blanks_run (lineBytes_blank m) h1' hcb) hc93,
      readBackItems?_cons_map]
    have hpos : i + (prettyTail m (x :: xs)).length + (lineBytes n).length =
        i + 1 + (lineBytes m).length + (bytesOf (pretty m x)).length + (prettyTail m xs).length +
          (lineBytes n).length := by
      simp only [prettyTail_cons, List.length_cons, List.length_append]
      omega
    rw [hpos]
    simp only [List.length_cons, List.length_append] at hlen
    refine (hV room x m depth src _ _ hxs.1 hdepth hx (by
        rw [← List.append_assoc]; exact numberEnd_prettyTail m n xs r) (by omega)).bind fun v _ => ?_
    exact hI room xs m n depth (v :: acc) src _ r hxs.2 hdepth (by
      rw [List.append_assoc]; exact suffix_append hx) (by omega)

theorem prettyFirstItemsReads_succ (hV : PrettyValueReads F) (hI : PrettyItemsReads F) :
    PrettyFirstItemsReads (F + 1) := by
  intro room x xs m n depth src i r hxs hdepth h hlen
  simp only [printableItemsIn, Bool.and_eq_true] at hxs
  obtain ⟨c, rest, hc, hcb, hc93, -⟩ := pretty_cons m hxs.1
  simp only [List.append_assoc] at h
  have hx := suffix_append h
  have h' := h
  have hx' := hx
  rw [hc, List.cons_append] at h' hx'
  -- the first blanks end the line of the `[`, the second find the item already there
  rw [arrayItems_of_first (blanks_run (lineBytes_blank m) h' hcb) (blanks_of_suffix hx' hcb) hc93]
  have hfirst := readBackItems?_cons_map x xs []
  simp only [List.reverse_nil, List.nil_append, Option.map_id'] at hfirst
  rw [hfirst]
  have hpos : i + (lineBytes m ++ bytesOf (pretty m x) ++ prettyTail m xs).length +
      (lineBytes n).length = i + (lineBytes m).length + (bytesOf (pretty m x)).length +
        (prettyTail m xs).length + (lineBytes n).length := by
    simp only [List.length_append]
    omega
  rw [hpos]
  simp only [List.length_append, length_lineBytes] at hlen
  refine (hV room x m depth src _ _ hxs.1 hdepth hx (by
      rw [← List.append_assoc]; exact numberEnd_prettyTail m n xs r) (by omega)).bind fun v _ => ?_
  exact hI room xs m n depth [v] src _ r hxs.2 hdepth (by
    rw [List.append_assoc]; exact suffix_append hx) (by omega)

theorem prettyFieldsReads_succ (hV : PrettyValueReads F) (hO : PrettyFieldsReads F) :
    PrettyFieldsReads (F + 1) := by
  intro room fs m n depth acc src i r hfs hdepth h hlen
  cases fs with
  | nil =>
    -- only the closing line is left
    rw [objectFields_of_close (blanks_run (lineBytes_blank n) h rfl)]
    simp [prettyFieldsTail, readBackFields?]
    rfl
  | cons f fs =>
    obtain ⟨k, v⟩ := f
    simp only [printableFieldsIn, Bool.and_eq_true] at hfs
    obtain ⟨⟨hk, hv⟩, hfs⟩ := hfs
    obtain ⟨c, rest, hc, hcb, -, -⟩ := pretty_cons m hv
    rw [prettyFieldsTail_cons, fieldLine, bytesOf_quote hk] at h hlen
    simp only [List.cons_append, List.append_assoc, List.nil_append] at h
    have h1 := suffix_succ h
    have h2 := suffix_append h1
    have h3 := suffix_succ h2
    have h4 := suffix_append h3
    have h5 := suffix_succ h4
    have h6 := suffix_succ h5
    have h7 := suffix_succ h6
    have h6' := h6
    rw [hc, List.cons_append] at h6'
    rw [objectFields_of_comma (blanks_of_suffix h rfl) (blanks_run (lineBytes_blank m) h1 rfl)
        (stringBody_of_plain hk h3) (blanks_of_suffix h5 rfl),
      bind_run_congr (value_run (fun w hw => by simp at hw; subst hw; rfl)
        (show suffix src _ = [32] ++ c :: _ from h6') hcb
        (by simp only [List.length_cons, List.length_append] at hlen; omega) depth) rfl,
      readBackFields?_cons_map]
    have hpos : i + (prettyFieldsTail m ((k, v) :: fs)).length + (lineBytes n).length =
        i + 1 + (lineBytes m).length + 1 + (bytesOf k).length + 1 + 1 + [32].length +
          (bytesOf (pretty m v)).length + (prettyFieldsTail m fs).length + (lineBytes n).length := by
      simp only [prettyFieldsTail_cons, fieldLine, bytesOf_quote hk, List.length_cons,
        List.length_append, List.length_nil]
      omega
    rw [hpos]
    simp only [List.length_cons, List.length_append] at hlen
    refine (hV room v m depth src _ _ hv hdepth h7 (by
        rw [← List.append_assoc]; exact numberEnd_prettyFieldsTail m n fs r) (by omega)).bind
      fun v' _ => ?_
    exact hO room fs m n depth ((k, v') :: acc) src _ r hfs hdepth (by
      rw [List.append_assoc]; exact suffix_append h7) (by omega)

theorem prettyFirstFieldsReads_succ (hV : PrettyValueReads F) (hO : PrettyFieldsReads F) :
    PrettyFirstFieldsReads (F + 1) := by
  intro room k v fs m n depth src i r hfs hdepth h hlen
  simp only [printableFieldsIn, Bool.and_eq_true] at hfs
  obtain ⟨⟨hk, hv⟩, hfs⟩ := hfs
  obtain ⟨c, rest, hc, hcb, -, -⟩ := pretty_cons m hv
  rw [fieldLine, bytesOf_quote hk] at h hlen
  simp only [List.cons_append, List.append_assoc, List.nil_append] at h
  have h2 := suffix_append h
  have h3 := suffix_succ h2
  have h4 := suffix_append h3
  have h5 := suffix_succ h4
  have h6 := suffix_succ h5
  have h7 := suffix_succ h6
  have h6' := h6
  rw [hc, List.cons_append] at h6'
  -- the first blanks end the line of the `{`, the second find the key already there
  rw [objectFields_of_first (blanks_run (lineBytes_blank m) h rfl) (blanks_of_suffix h2 rfl)
      (stringBody_of_plain hk h3) (blanks_of_suffix h5 rfl),
    bind_run_congr (value_run (fun w hw => by simp at hw; subst hw; rfl)
      (show suffix src _ = [32] ++ c :: _ from h6') hcb
      (by simp only [List.length_cons, List.length_append] at hlen; omega) depth) rfl]
  have hfirst := readBackFields?_cons_map k v fs []
  simp only [List.reverse_nil, List.nil_append, Option.map_id'] at hfirst
  rw [hfirst]
  have hpos : i + (lineBytes m ++ fieldLine m k v ++ prettyFieldsTail m fs).length +
      (lineBytes n).length = i + (lineBytes m).length + 1 + (bytesOf k).length + 1 + 1 +
        [32].length + (bytesOf (pretty m v)).length + (prettyFieldsTail m fs).length +
          (lineBytes n).length := by
    simp only [fieldLine, bytesOf_quote hk, List.length_cons, List.length_append, List.length_nil]
    omega
  rw [hpos]
  simp only [List.length_cons, List.length_append] at hlen
  refine (hV room v m depth src _ _ hv hdepth h7 (by
      rw [← List.append_assoc]; exact numberEnd_prettyFieldsTail m n fs r) (by omega)).bind
    fun v' _ => ?_
  exact hO room fs m n depth [(k, v')] src _ r hfs hdepth (by
    rw [List.append_assoc]; exact suffix_append h7) (by omega)

theorem prettyValueReads_succ (hI : PrettyFirstItemsReads F) (hO : PrettyFirstFieldsReads F) :
    PrettyValueReads (F + 1) := by
  intro room j n depth src i r hj hdepth h hr hlen
  cases j with
  | null => exact readsInPlace_null.alone F depth src i r hr h
  | bool b => exact (readsInPlace_bool b).alone F depth src i r hr h
  | num x => exact readsInPlace_num_readAlone x F depth src i r hr h
  | str s => exact (readsInPlace_str (by simpa [printableIn] using hj)).alone F depth src i r hr h
  | arr xs =>
    cases room with
    | zero => simp [printableIn] at hj
    | succ room =>
      simp only [printableIn] at hj
      cases xs with
      | nil =>
        -- `[]` is written as the compact text writes it
        have hp : pretty n (.arr []) = compact (.arr []) := show "[]" = compact (.arr []) by decide
        rw [hp] at h hlen ⊢
        exact (reads_of_fuel (F + 1)).1 (room + 1) (.arr []) depth src i r rfl hdepth h hr hlen
      | cons x xs =>
        rw [bytesOf_pretty_arr] at h hlen ⊢
        simp only [List.cons_append, List.append_assoc] at h
        have h1 := suffix_succ h
        simp only [← List.append_assoc] at h1
        have hclose := suffix_append h1
        simp only [List.length_cons, List.length_append, length_lineBytes] at hlen
        rw [value_of_bracket (blanks_of_suffix h rfl) (by simp only [depthLimit] at hdepth ⊢; omega)]
        refine (hI room x xs (n + 1) n (depth + 1) src (i + 1) r hj (by omega) h1 (by
          simp only [List.length_append, length_lineBytes]; omega)).map fun v => ?_
        rw [List.length_append, ← Nat.add_assoc] at hclose
        rw [bind_run (closeArray_of_suffix hclose)]
        show Except.ok _ = Except.ok (_, _)
        simp only [List.length_cons, List.length_append, List.length_nil]
        congr 2
        omega
  | obj fs =>
    cases room with
    | zero => simp [printableIn] at hj
    | succ room =>
      simp only [printableIn] at hj
      cases fs with
      | nil =>
        have hp : pretty n (.obj []) = compact (.obj []) :=
          show "\x7b\x7d" = compact (.obj []) by decide
        rw [hp] at h hlen ⊢
        exact (reads_of_fuel (F + 1)).1 (room + 1) (.obj []) depth src i r rfl hdepth h hr hlen
      | cons f fs =>
        obtain ⟨k, v⟩ := f
        rw [bytesOf_pretty_obj] at h hlen ⊢
        simp only [List.cons_append, List.append_assoc] at h
        have h1 := suffix_succ h
        simp only [← List.append_assoc] at h1
        have hclose := suffix_append h1
        simp only [List.length_cons, List.length_append, length_lineBytes] at hlen
        rw [value_of_brace (blanks_of_suffix h rfl) (by simp only [depthLimit] at hdepth ⊢; omega)]
        refine (hO room k v fs (n + 1) n (depth + 1) src (i + 1) r hj (by omega) h1 (by
          simp only [List.length_append, length_lineBytes]; omega)).map fun v => ?_
        rw [List.length_append, ← Nat.add_assoc] at hclose
        rw [bind_run (closeObject_of_suffix hclose)]
        show Except.ok _ = Except.ok (_, _)
        simp only [List.length_cons, List.length_append, List.length_nil]
        congr 2
        omega

end Steps

/-- Every fuel reads every printable value, items and fields whose indented text is short
enough. -/
theorem pretty_reads_of_fuel (F : Nat) :
    PrettyValueReads F ∧ PrettyItemsReads F ∧ PrettyFirstItemsReads F ∧ PrettyFieldsReads F ∧
      PrettyFirstFieldsReads F := by
  induction F with
  | zero =>
    refine ⟨?_, ?_, ?_, ?_, ?_⟩ <;>
      simp only [PrettyValueReads, PrettyItemsReads, PrettyFirstItemsReads, PrettyFieldsReads,
        PrettyFirstFieldsReads] <;>
      intros <;> omega
  | succ F ih =>
    obtain ⟨hV, hI, hI1, hO, hO1⟩ := ih
    exact ⟨prettyValueReads_succ hI1 hO1, prettyItemsReads_succ hV hI,
      prettyFirstItemsReads_succ hV hI, prettyFieldsReads_succ hV hO,
      prettyFirstFieldsReads_succ hV hO⟩

/-! ### Documents -/

/-- The indented text of a printable value reads back, as a whole document, as `readBack?`
says: to the value with each leaf as its own text reads, or to a fault when a leaf's text is
refused. -/
theorem parseBytesAsWritten_pretty {room : Nat} {j : Json} (hj : printableIn room j = true)
    (hroom : room < depthLimit) :
    (parseBytesAsWritten (pretty 0 j).toUTF8).toOption = readBack? j := by
  let src := (pretty 0 j).toUTF8
  have h0 : suffix src 0 = bytesOf (pretty 0 j) ++ [] := by simp [suffix, src, bytesOf]
  have hsize : src.size = (bytesOf (pretty 0 j)).length := by
    rw [bytesOf, Array.length_toList]
    rfl
  have hv := (pretty_reads_of_fuel (src.size + 2)).1 room j 0 0 src 0 [] hj (by omega) h0 numberEnd_nil
    (by omega)
  rw [Nat.zero_add, ← hsize] at hv
  exact document_of_yields hv

end LowRankTuner.Json
