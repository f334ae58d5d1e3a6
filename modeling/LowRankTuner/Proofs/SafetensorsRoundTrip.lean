import LowRankTuner.Safetensors.File
import LowRankTuner.Proofs.JsonRoundTrip
/-!
# A written safetensors file reads back

`encode` lays named tensors out after a JSON header; `SafetensorsFile.read` checks the length
prefix, parses the header, validates the ranges and keeps the data.  `read_encode` says that
what `encode` writes reads back with the header it wrote and the data of the tensors in order,
for tensors that a header can describe (`Describable`: strictly increasing plain names, one
element type, bytes as many as shape and type need) and that stay within the format's limits
(`WithinLimits`: 64-bit dimensions, partial products and data length, a header within
`headerLimit`).  `views_read` then gives every entry's range back as its own tensor's bytes.

The header goes through `Json.parseBytesAsWritten_compact`; the entries, being written in order
of name and of offset, come back in the same order from the reader's two sorts.
-/

namespace LowRankTuner.Safetensors

/-! ### Bytes and offsets -/

theorem leValue_leBytes : ∀ (w n : Nat), n < 256 ^ w → leValue (leBytes w n) = n
  | 0, n, h => by simp at h; subst h; rfl
  | w + 1, n, h => by
    rw [leBytes, leValue, leValue_leBytes w (n / 256) (by rw [Nat.pow_succ] at h; omega)]
    have : ((n % 256).toUInt8).toNat = n % 256 := by
      simp only [Nat.toUInt8]
      exact Nat.mod_eq_of_lt (Nat.mod_lt _ (by decide))
    rw [this]
    omega

theorem length_leBytes (w n : Nat) : (leBytes w n).length = w := by
  induction w generalizing n with
  | zero => rfl
  | succ w ih => simp [leBytes, ih]

/-- A byte array lists its bytes in order. -/
theorem toList_eq_data (bs : ByteArray) : bs.toList = bs.data.toList := by
  suffices ∀ i r, ByteArray.toList.loop bs i r = r.reverse ++ bs.data.toList.drop i by
    rw [ByteArray.toList, this 0 []]
    rfl
  intro i r
  fun_induction ByteArray.toList.loop bs i r with
  | case1 i r hi ih =>
    have hi' : i < bs.data.toList.length := by rw [Array.length_toList]; exact hi
    have hget : bs.get! i = bs.data.toList[i] := by
      show bs.data[i]! = _
      rw [getElem!_pos bs.data i hi, Array.getElem_toList]
    rw [ih, List.reverse_cons, List.append_assoc, List.drop_eq_getElem_cons hi', hget]
    rfl
  | case2 i r hi =>
    rw [List.drop_eq_nil_of_le (by rw [Array.length_toList]; exact Nat.le_of_not_lt hi),
      List.append_nil]

/-- The entries of tensors laid out one after another from a byte offset. -/
def entriesFrom : Nat → List (String × Stored) → List Entry
  | _, [] => []
  | start, (name, s) :: rest =>
    ⟨name, s.dtype, s.shape, start, start + s.bytes.size⟩ :: entriesFrom (start + s.bytes.size) rest

/-- The bytes that tensors take together. -/
def dataSize (ts : List (String × Stored)) : Nat := (ts.map fun p => p.2.bytes.size).sum

theorem bytes_le_dataSize {ts : List (String × Stored)} {p : String × Stored} (hp : p ∈ ts) :
    p.2.bytes.size ≤ dataSize ts := by
  induction ts with
  | nil => cases hp
  | cons q ts ih =>
    simp only [dataSize, List.map_cons, List.sum_cons] at ih ⊢
    rcases List.mem_cons.1 hp with rfl | hp
    · omega
    · have := ih hp; omega

theorem foldl_layout (ts : List (String × Stored)) (pre : List Entry) (start : Nat) :
    ts.foldl (fun (acc : List Entry × Nat) (p : String × Stored) =>
        (acc.1 ++ [⟨p.1, p.2.dtype, p.2.shape, acc.2, acc.2 + p.2.bytes.size⟩], acc.2 + p.2.bytes.size))
      (pre, start) = (pre ++ entriesFrom start ts, start + dataSize ts) := by
  induction ts generalizing pre start with
  | nil => simp [entriesFrom, dataSize]
  | cons p ts ih =>
    obtain ⟨name, s⟩ := p
    rw [List.foldl_cons, ih]
    simp [entriesFrom, dataSize, Nat.add_assoc]


section Layout

variable {ts : List (String × Stored)} {d : StoredType}

theorem le_of_lt_name {a b : String} (h : a < b) : a ≤ b := String.not_lt.1 (String.lt_asymm h)

/-- Tensors of one type, sorted by name, are written in the order given. -/
theorem layout_of_sorted (hsorted : ts.Pairwise (fun a b => a.1 < b.1))
    (htype : ∀ p ∈ ts, p.2.dtype = d) :
    layout ts = (ts, { entries := entriesFrom 0 ts }) := by
  have hord : ts.mergeSort (fun a b =>
      a.2.dtype.index > b.2.dtype.index || (a.2.dtype.index == b.2.dtype.index && a.1 ≤ b.1)) = ts := by
    apply List.mergeSort_of_pairwise
    refine hsorted.imp_of_mem fun {a b} ha hb hab => ?_
    simp [htype a ha, htype b hb, le_of_lt_name hab]
  simp only [layout, hord]
  rw [foldl_layout ts [] 0]
  rfl

end Layout


/-! ### The header as JSON -/


theorem plainItemsIn_map_ofNat (k : Nat) (ns : List Nat) :
    Json.plainItemsIn k (ns.map Json.ofNat) = ns.all (· ≤ Json.u64Max) := by
  induction ns with
  | nil => rfl
  | cons n ns ih => simp [Json.plainItemsIn, Json.plainIn, Json.ofNat, ih]

theorem plain_name (t : StoredType) : t.name.toList.all Json.plainChar = true := by
  cases t <;> decide

theorem u64Max_eq : Json.u64Max = wordMax := rfl

theorem plainIn_entry (e : Entry) (hdims : ∀ x ∈ e.shape, x ≤ wordMax) (hstart : e.start ≤ wordMax)
    (hstop : e.stop ≤ wordMax) : Json.plainIn 2 e.toJson = true := by
  have hd : "dtype".toList.all Json.plainChar = true := by decide
  have hs : "shape".toList.all Json.plainChar = true := by decide
  have ho : "data_offsets".toList.all Json.plainChar = true := by decide
  simp only [Entry.toJson, Json.plainIn, Json.plainFieldsIn, plainItemsIn_map_ofNat, plain_name,
    Json.plainItemsIn, Json.ofNat, hd, hs, ho, u64Max_eq, Bool.and_true, Bool.true_and,
    Bool.and_eq_true, List.all_eq_true]
  exact ⟨fun x hx => decide_eq_true (hdims x hx), decide_eq_true hstart, decide_eq_true hstop⟩


/-! ### Reading the header back -/

theorem ofName?_name (t : StoredType) : StoredType.ofName? t.name = some t := by
  cases t <;> rfl

theorem natsOf?_map_ofNat (ns : List Nat) : Entry.natsOf? (.arr (ns.map Json.ofNat)) = some ns := by
  show (ns.map Json.ofNat).mapM Json.nat? = some ns
  induction ns with
  | nil => rfl
  | cons n ns ih => simp [List.mapM_cons, ih, Json.ofNat, Json.nat?]

theorem ofJson?_toJson (e : Entry) : Entry.ofJson? e.name e.toJson = some e := by
  have h : Entry.ofJson? e.name e.toJson = Entry.ofParts? e.name (.str e.dtype.name)
      (.arr (e.shape.map Json.ofNat)) (.arr [Json.ofNat e.start, Json.ofNat e.stop]) := by
    -- the order of the three keys, decided once for either set of string simp lemmas
    have h₁ : ¬ ("shape" < "dtype") := by decide +kernel
    have h₂ : "data_offsets" < "dtype" := by decide +kernel
    simp [Entry.ofJson?, Entry.toJson, Entry.atMostOnce, Json.sortFields, Json.insertSorted,
      List.lookup, h₁, h₂]
  have hoff : Entry.natsOf? (.arr [Json.ofNat e.start, Json.ofNat e.stop]) = some [e.start, e.stop] :=
    natsOf?_map_ofNat [e.start, e.stop]
  rw [h, Entry.ofParts?, natsOf?_map_ofNat, hoff]
  simp [Json.str?, ofName?_name]


theorem insertSorted_of_lt (k : String) (v : Json) :
    ∀ acc : List (String × Json), (∀ p ∈ acc, p.1 < k) → Json.insertSorted k v acc = acc ++ [(k, v)]
  | [], _ => rfl
  | (k', v') :: acc, h => by
    have hk : k' < k := h (k', v') (List.mem_cons_self ..)
    rw [Json.insertSorted, if_neg (String.lt_asymm hk), if_neg (by simpa using (String.ne_of_lt hk).symm),
      insertSorted_of_lt k v acc fun p hp => h p (List.mem_cons_of_mem _ hp)]
    rfl

/-- Fields already in strictly increasing order of key are sorted as they stand. -/
theorem sortFields_of_sorted {fs : List (String × Json)} (h : fs.Pairwise fun a b => a.1 < b.1) :
    Json.sortFields fs = fs := by
  suffices ∀ acc : List (String × Json), (∀ p ∈ acc, ∀ q ∈ fs, p.1 < q.1) →
      fs.foldl (fun acc kv => Json.insertSorted kv.1 kv.2 acc) acc = acc ++ fs from
    this [] (by simp)
  induction fs with
  | nil => intro acc _; simp
  | cons f fs ih =>
    intro acc hacc
    rw [List.pairwise_cons] at h
    rw [List.foldl_cons, insertSorted_of_lt _ _ acc fun p hp => hacc p hp f (List.mem_cons_self ..),
      ih h.2 (acc ++ [(f.1, f.2)]) ?_]
    · simp
    · intro p hp q hq
      rcases List.mem_append.1 hp with hp | hp
      · exact hacc p hp q (List.mem_cons_of_mem _ hq)
      · simp only [List.mem_singleton] at hp
        subst hp
        exact h.1 q hq

theorem mem_entriesFrom {e : Entry} :
    ∀ {start : Nat} {ts : List (String × Stored)}, e ∈ entriesFrom start ts →
      ∃ p ∈ ts, e = ⟨p.1, p.2.dtype, p.2.shape, e.start, e.start + p.2.bytes.size⟩ ∧ start ≤ e.start ∧
        e.start + p.2.bytes.size ≤ start + dataSize ts
  | _, [], h => by simp [entriesFrom] at h
  | start, (name, s) :: ts, h => by
    rw [entriesFrom, List.mem_cons] at h
    rcases h with rfl | h
    · exact ⟨(name, s), List.mem_cons_self .., rfl, Nat.le_refl _, by simp [dataSize]⟩
    · obtain ⟨p, hp, he, hs, hstop⟩ := mem_entriesFrom h
      refine ⟨p, List.mem_cons_of_mem _ hp, he, by omega, ?_⟩
      simp only [dataSize, List.map_cons, List.sum_cons] at hstop ⊢
      omega


/-- The order in which a reader sorts the entries: by start, then by stop. -/
def rangeLE (a b : Entry) : Bool := a.start < b.start || (a.start == b.start && a.stop ≤ b.stop)

theorem pairwise_rangeLE :
    ∀ (start : Nat) (ts : List (String × Stored)), (entriesFrom start ts).Pairwise (rangeLE · · = true)
  | _, [] => List.Pairwise.nil
  | start, (name, s) :: ts => by
    rw [entriesFrom, List.pairwise_cons]
    refine ⟨fun e he => ?_, pairwise_rangeLE _ ts⟩
    obtain ⟨p, -, he, hs, -⟩ := mem_entriesFrom he
    have hstop : e.start ≤ e.stop := by rw [he]; exact Nat.le_add_right _ _
    simp only [rangeLE, Bool.or_eq_true, decide_eq_true_eq, Bool.and_eq_true, beq_iff_eq]
    omega

theorem names_entriesFrom (start : Nat) (ts : List (String × Stored)) :
    (entriesFrom start ts).map (·.name) = ts.map (·.1) := by
  induction ts generalizing start with
  | nil => rfl
  | cons p ts ih => obtain ⟨name, s⟩ := p; simp [entriesFrom, ih]

theorem mapM_ofJson?_fields (es : List Entry) :
    (es.map fun e => (e.name, e.toJson)).mapM (fun kv => Entry.ofJson? kv.1 kv.2) = some es := by
  induction es with
  | nil => rfl
  | cons e es ih => simp [List.mapM_cons, ofJson?_toJson, ih]

/-- A header written for tensors with strictly increasing names reads back as itself. -/
theorem ofJson?_toJson_header {ts : List (String × Stored)}
    (hsorted : ts.Pairwise fun a b => a.1 < b.1) (hmeta : ∀ p ∈ ts, p.1 ≠ "__metadata__") :
    Header.ofJson? (Header.toJson { entries := entriesFrom 0 ts }) =
      some { entries := entriesFrom 0 ts } := by
  let es := entriesFrom 0 ts
  let fs := es.map fun e => (e.name, e.toJson)
  have hkeys : fs.map (·.1) = ts.map (·.1) := by
    rw [← names_entriesFrom 0 ts]; simp [fs, es]
  have hfs : ∀ kv ∈ fs, kv.1 ≠ "__metadata__" := by
    intro kv hkv
    have : kv.1 ∈ ts.map (·.1) := hkeys ▸ List.mem_map_of_mem hkv
    obtain ⟨p, hp, hpk⟩ := List.mem_map.1 this
    exact hpk ▸ hmeta p hp
  have hnone : fs.filter (·.1 == "__metadata__") = [] :=
    List.filter_eq_nil_iff.2 fun kv hkv => by simpa using hfs kv hkv
  have hlookup : fs.lookup "__metadata__" = none := by
    rw [List.lookup_eq_none_iff]
    exact fun kv hkv => bne_iff_ne.2 (hfs kv hkv).symm
  have hkeep : fs.filter (·.1 != "__metadata__") = fs :=
    List.filter_eq_self.2 fun kv hkv => by simpa using hfs kv hkv
  have hsort : Json.sortFields fs = fs := by
    apply sortFields_of_sorted
    have : (fs.map (·.1)).Pairwise (· < ·) := hkeys ▸ List.pairwise_map.2 hsorted
    exact List.pairwise_map.1 this
  have hmerge : es.mergeSort (fun a b => a.start < b.start || (a.start == b.start && a.stop ≤ b.stop)) = es :=
    List.mergeSort_of_pairwise (pairwise_rangeLE 0 ts)
  show Header.ofJson? (.obj ([] ++ fs)) = _
  simp only [List.nil_append, Header.ofJson?, Entry.atMostOnce, List.all_cons, List.all_nil, hnone,
    hlookup, hkeep, hsort]
  rw [if_neg (by decide), show Header.metadataOf? none = some none from rfl, mapM_ofJson?_fields]
  show some ({ metadata := none, entries := es.mergeSort _ } : Header) = _
  rw [hmerge]


/-! ### Validating the ranges -/

theorem foldlM_elements (ds : List Nat) :
    ∀ acc : Nat, (∀ k, (ds.take k).foldl (· * ·) acc ≤ wordMax) →
      ds.foldlM (fun acc d => if acc * d > wordMax then none else some (acc * d)) acc =
        some (ds.foldl (· * ·) acc) := by
  induction ds with
  | nil => intro acc _; rfl
  | cons d ds ih =>
    intro acc h
    have hd : ¬ acc * d > wordMax := Nat.not_lt.2 (h 1)
    rw [List.foldlM_cons, if_neg hd]
    exact ih (acc * d) fun k => h (k + 1)

theorem elements?_eq {e : Entry} (h : ∀ k, Shape.numel (e.shape.take k) ≤ wordMax) :
    e.elements? = some (Shape.numel e.shape) :=
  foldlM_elements e.shape 1 h

/-- What `validate` checks of one entry, with the offset it must start at. -/
def validateStep (start : Nat) (e : Entry) : Except Fault Nat := do
  if e.start != start || e.stop < e.start then throw (.invalidOffset e.name)
  let some n := e.elements? | throw .validationOverflow
  if n * e.dtype.size > wordMax then throw .validationOverflow
  if e.stop - e.start != n * e.dtype.size then throw .tensorInvalidInfo
  pure e.stop

theorem validate_eq (h : Header) : h.validate = h.entries.foldlM validateStep 0 := rfl

theorem foldlM_validateStep {ts : List (String × Stored)}
    (htake : ∀ p ∈ ts, ∀ k, Shape.numel (p.2.shape.take k) ≤ wordMax)
    (hsize : ∀ p ∈ ts, p.2.bytes.size = Shape.numel p.2.shape * p.2.dtype.size)
    (hbytes : ∀ p ∈ ts, p.2.bytes.size ≤ wordMax) (start : Nat) :
    (entriesFrom start ts).foldlM validateStep start = .ok (start + dataSize ts) := by
  induction ts generalizing start with
  | nil => rfl
  | cons p ts ih =>
    obtain ⟨name, s⟩ := p
    have hp := List.mem_cons_self (a := (name, s)) (l := ts)
    have hs : s.bytes.size = Shape.numel s.shape * s.dtype.size := hsize _ hp
    have hb : s.bytes.size ≤ wordMax := hbytes _ hp
    have hstep : validateStep start ⟨name, s.dtype, s.shape, start, start + s.bytes.size⟩ =
        .ok (start + s.bytes.size) := by
      simp only [validateStep, bne_self_eq_false, Bool.false_or, decide_eq_true_eq]
      rw [if_neg (by omega), elements?_eq (htake _ hp)]
      simp only [← hs]
      rw [if_neg (by omega), if_neg (by simp)]
      rfl
    rw [entriesFrom, List.foldlM_cons, hstep]
    show (entriesFrom (start + s.bytes.size) ts).foldlM validateStep (start + s.bytes.size) = _
    rw [ih (fun p hp => htake p (List.mem_cons_of_mem _ hp)) (fun p hp => hsize p (List.mem_cons_of_mem _ hp))
      (fun p hp => hbytes p (List.mem_cons_of_mem _ hp))]
    simp [dataSize, Nat.add_assoc]


/-! ### The file -/

/-- The padded header that `encode` writes for tensors. -/
def paddedHeader (ts : List (String × Stored)) : ByteArray :=
  let text := (Json.compact (layout ts).2.toJson).toUTF8
  text ++ ⟨(List.replicate ((8 - text.size % 8) % 8) (32 : UInt8)).toArray⟩

/-- The data of tensors one after another. -/
def concatBytes (ts : List (String × Stored)) : ByteArray :=
  ts.foldl (fun acc p => acc ++ p.2.bytes) ByteArray.empty

theorem encode_eq (ts : List (String × Stored)) :
    encode ts = ⟨(leBytes 8 (paddedHeader ts).size).toArray⟩ ++ paddedHeader ts ++
      concatBytes (layout ts).1 := rfl

theorem foldl_append_bytes (ts : List (String × Stored)) (acc : ByteArray) :
    ts.foldl (fun acc p => acc ++ p.2.bytes) acc = acc ++ concatBytes ts := by
  induction ts generalizing acc with
  | nil => simp [concatBytes]
  | cons p ts ih =>
    have hc : concatBytes (p :: ts) = ByteArray.empty ++ p.2.bytes ++ concatBytes ts := ih _
    rw [List.foldl_cons, ih, hc, ByteArray.empty_append, ByteArray.append_assoc]

theorem concatBytes_cons (p : String × Stored) (ts : List (String × Stored)) :
    concatBytes (p :: ts) = p.2.bytes ++ concatBytes ts := by
  rw [concatBytes, List.foldl_cons, foldl_append_bytes, ByteArray.empty_append]

theorem size_concatBytes (ts : List (String × Stored)) : (concatBytes ts).size = dataSize ts := by
  induction ts with
  | nil => rfl
  | cons p ts ih => simp [concatBytes_cons, ByteArray.size_append, ih, dataSize]


/-- Named tensors that a header describes and reads back: strictly increasing plain names,
none of them the metadata key, one element type, and as many bytes as shape and type need. -/
structure Describable (ts : List (String × Stored)) : Prop where
  sorted : ts.Pairwise fun a b => a.1 < b.1
  plain : ∀ p ∈ ts, p.1.toList.all Json.plainChar = true
  notMetadata : ∀ p ∈ ts, p.1 ≠ "__metadata__"
  oneType : ∀ p ∈ ts, ∀ q ∈ ts, p.2.dtype = q.2.dtype
  sizes : ∀ p ∈ ts, p.2.bytes.size = Shape.numel p.2.shape * p.2.dtype.size

/-- The limits of the format: dimensions, partial products of shapes and the length of the
data fit in 64 bits, and the padded header stays within `headerLimit`. -/
structure WithinLimits (ts : List (String × Stored)) : Prop where
  dims : ∀ p ∈ ts, ∀ x ∈ p.2.shape, x ≤ wordMax
  prefixes : ∀ p ∈ ts, ∀ k, Shape.numel (p.2.shape.take k) ≤ wordMax
  data : dataSize ts ≤ wordMax
  header : (paddedHeader ts).size ≤ headerLimit

section ReadBack

variable {ts : List (String × Stored)}

theorem Describable.layout_eq (hd : Describable ts) :
    layout ts = (ts, { entries := entriesFrom 0 ts }) := by
  cases ts with
  | nil => exact layout_of_sorted (d := .f32) List.Pairwise.nil nofun
  | cons p rest =>
    exact layout_of_sorted (d := p.2.dtype) hd.sorted fun q hq => hd.oneType q hq p (List.mem_cons_self ..)

theorem plainIn_header (hd : Describable ts) (hl : WithinLimits ts) :
    Json.plainIn 3 (Header.toJson { entries := entriesFrom 0 ts }) = true := by
  show Json.plainFieldsIn 2 ([] ++ (entriesFrom 0 ts).map fun e => (e.name, e.toJson)) = true
  rw [List.nil_append]
  suffices ∀ es : List Entry, (∀ e ∈ es, e ∈ entriesFrom 0 ts) →
      Json.plainFieldsIn 2 (es.map fun e => (e.name, e.toJson)) = true from this _ fun e he => he
  intro es hes
  induction es with
  | nil => rfl
  | cons e es ih =>
    obtain ⟨p, hp, he, -, hstop⟩ := mem_entriesFrom (hes e (List.mem_cons_self ..))
    have hdata := hl.data
    simp only [List.map_cons, Json.plainFieldsIn, Bool.and_eq_true]
    refine ⟨⟨?_, plainIn_entry e ?_ ?_ ?_⟩, ih fun e' he' => hes e' (List.mem_cons_of_mem _ he')⟩
    · rw [he]; exact hd.plain p hp
    · rw [he]; exact hl.dims p hp
    · rw [he]; simp only [Nat.zero_add] at hstop; dsimp only; omega
    · rw [he]; simp only [Nat.zero_add] at hstop; dsimp only; omega

theorem bytesOf_spaces (k : Nat) : Json.bytesOf (String.ofList (List.replicate k ' ')) = List.replicate k 32 := by
  rw [Json.bytesOf_of_ascii (fun c hc => by
    rw [String.toList_ofList] at hc
    rw [List.eq_of_mem_replicate hc]; decide), String.toList_ofList, List.map_replicate]
  rfl

/-- The padded header is the UTF-8 text of the compact header and the blanks after it. -/
theorem paddedHeader_eq (ts : List (String × Stored)) :
    ∃ k, paddedHeader ts = (Json.compact (layout ts).2.toJson ++ String.ofList (List.replicate k ' ')).toUTF8 := by
  refine ⟨(8 - (Json.compact (layout ts).2.toJson).toUTF8.size % 8) % 8, ByteArray.ext ?_⟩
  apply Array.toList_inj.1
  rw [paddedHeader, ByteArray.toList_data_append]
  change _ = Json.bytesOf _
  rw [Json.bytesOf_append, bytesOf_spaces]
  rfl

/-- A file written for describable tensors within the format's limits reads back with the
header that was written and the tensors' data after it. -/
theorem read_encode (hd : Describable ts) (hl : WithinLimits ts) :
    SafetensorsFile.read (encode ts) = .ok ⟨{ entries := entriesFrom 0 ts }, concatBytes ts⟩ := by
  have hlay := hd.layout_eq
  obtain ⟨k, hP⟩ := paddedHeader_eq ts
  rw [hlay] at hP
  have hH := hl.header
  rw [encode_eq, hlay]
  generalize hPdef : paddedHeader ts = P at hP hH ⊢
  generalize hBdef : concatBytes ts = B
  let A : ByteArray := ⟨(leBytes 8 P.size).toArray⟩
  have hA : A.size = 8 := by
    show (leBytes 8 P.size).toArray.size = 8
    rw [List.size_toArray, length_leBytes]
  have hsize : (A ++ P ++ B).size = 8 + P.size + B.size := by
    rw [ByteArray.size_append, ByteArray.size_append, hA]
  have hn : leValue ((A ++ P ++ B).extract 0 8).toList = P.size := by
    rw [ByteArray.append_assoc, ByteArray.extract_append_eq_left hA.symm, toList_eq_data]
    show leValue (leBytes 8 P.size).toArray.toList = P.size
    rw [List.toList_toArray]
    exact leValue_leBytes 8 P.size (Nat.lt_of_le_of_lt hH (by decide))
  have htext : (A ++ P ++ B).extract 8 (P.size + 8) = P := by
    rw [ByteArray.extract_append, ByteArray.extract_append_eq_right hA.symm (by omega),
      ByteArray.size_append, hA, show 8 - (8 + P.size) = 0 by omega,
      show P.size + 8 - (8 + P.size) = 0 by omega,
      ByteArray.extract_same, ByteArray.append_empty]
  have hdata : (A ++ P ++ B).extract (P.size + 8) (A ++ P ++ B).size = B :=
    ByteArray.extract_append_eq_right (by rw [ByteArray.size_append, hA]; omega) ByteArray.size_append
  have hutf : (String.fromUTF8? P).isNone = false := by
    rw [hP, Json.fromUTF8?_toUTF8]
    rfl
  have hparse : Json.parseBytesAsWritten P = .ok (Header.toJson { entries := entriesFrom 0 ts }) := by
    have hbytes : P = ⟨(Json.bytesOf (Json.compact (Header.toJson { entries := entriesFrom 0 ts })) ++
        List.replicate k 32).toArray⟩ := by
      rw [hP]
      apply ByteArray.ext
      apply Array.toList_inj.1
      change Json.bytesOf _ = _
      rw [Json.bytesOf_append, bytesOf_spaces, List.toList_toArray]
    rw [hbytes]
    exact Json.parseBytesAsWritten_compact (plainIn_header hd hl) (by decide) k
  have hvalid : Header.validate { entries := entriesFrom 0 ts } = .ok (dataSize ts) := by
    rw [validate_eq]
    have := foldlM_validateStep hl.prefixes hd.sizes
      (fun p hp => Nat.le_trans (bytes_le_dataSize hp) hl.data) 0
    simpa using this
  unfold SafetensorsFile.read
  dsimp only
  rw [hsize, if_neg (by omega), hn, if_neg (by simp only [headerLimit] at hH ⊢; omega), if_neg (by omega), htext,
    hutf, if_neg (by decide), hparse]
  have hB : B.size = dataSize ts := hBdef ▸ size_concatBytes ts
  rw [hsize] at hdata
  simp only [Except.toOption, Option.bind_some, ofJson?_toJson_header hd.sorted hd.notMetadata]
  rw [hvalid]
  show (if (dataSize ts + 8 + P.size != 8 + P.size + B.size) = true then _ else _) = _
  rw [if_neg (by simp only [bne_iff_ne, ne_eq, Decidable.not_not]; omega), hdata]
  rfl

/-- Each entry's range in the data holds the bytes of its own tensor. -/
theorem views_entriesFrom :
    ∀ (pre : ByteArray) (ts : List (String × Stored)),
      (entriesFrom pre.size ts).map (fun e =>
        (e.name, (⟨e.dtype, e.shape, (pre ++ concatBytes ts).extract e.start e.stop⟩ : Stored))) = ts
  | _, [] => rfl
  | pre, (name, s) :: ts => by
    have hfirst : (pre ++ (s.bytes ++ concatBytes ts)).extract pre.size (pre.size + s.bytes.size) =
        s.bytes := by
      have hex := ByteArray.extract_append_size_add (a := pre) (b := s.bytes ++ concatBytes ts)
        (i := 0) (j := s.bytes.size)
      rw [Nat.add_zero] at hex
      rw [hex, ByteArray.extract_append_eq_left rfl]
    have hrest := views_entriesFrom (pre ++ s.bytes) ts
    rw [ByteArray.size_append, ByteArray.append_assoc] at hrest
    rw [entriesFrom, List.map_cons, concatBytes_cons]
    simp only [hfirst, hrest]

theorem views_read (ts : List (String × Stored)) :
    (entriesFrom 0 ts).map (fun e =>
      (e.name, (⟨{ entries := entriesFrom 0 ts }, concatBytes ts⟩ : SafetensorsFile).view e)) = ts := by
  have := views_entriesFrom ByteArray.empty ts
  rwa [ByteArray.empty_append] at this

end ReadBack

end LowRankTuner.Safetensors
