import Mathlib
import LowRankTuner.Json.Read
/-!
# Compact JSON text reads back

`compact` writes a value with no blanks; `parseBytesAsWritten` reads UTF-8 bytes back, the
fields of each object as written.  The main statement, `parseBytesAsWritten_compact`, says that
the two are inverse on *plain* values (`plainIn`): null, booleans, naturals that 64 bits hold,
strings of printable ASCII other than the quote and the backslash, and arrays and objects of
such values nested less deep than the reader allows.  Trailing spaces, such as the padding of a
safetensors header, are read over.

The reader is a state of offsets over fixed bytes, so every step is stated on `suffix src i`,
the bytes still to be read: one lemma per primitive (`peek`, `next`, `blanks`, `ident`,
`stringBody`, `number`), one per kind of leaf value, and one step lemma per mutual function
saying what it reads with one more unit of fuel.  `reads_of_fuel` packs the five step lemmas
into one induction on the fuel.
-/

namespace LowRankTuner.Json

/-! ### The bytes still to be read -/

/-- The bytes of a text from an offset on. -/
def suffix (src : ByteArray) (i : Nat) : List UInt8 := src.data.toList.drop i

/-- A byte that `skipBlanks` passes over. -/
def isBlankByte (b : UInt8) : Bool := b == 32 || b == 9 || b == 10 || b == 13

section Primitives

variable {src : ByteArray} {i : Nat} {b : UInt8} {r : List UInt8}

theorem suffix_length (src : ByteArray) (i : Nat) : (suffix src i).length = src.size - i := by
  rw [suffix, List.length_drop, Array.length_toList]
  rfl

theorem get_of_suffix (h : suffix src i = b :: r) : ∃ hi : i < src.size, src.get i hi = b := by
  have hi : i < src.data.toList.length := by
    refine Nat.lt_of_not_le fun hn => ?_
    rw [suffix, List.drop_eq_nil_of_le hn] at h
    cases h
  rw [suffix, List.drop_eq_getElem_cons hi, List.cons.injEq] at h
  refine ⟨(by simpa only [Array.length_toList] using hi : i < src.data.size), ?_⟩
  show src.data[i] = b
  simpa only [Array.getElem_toList] using h.1

theorem suffix_succ (h : suffix src i = b :: r) : suffix src (i + 1) = r := by
  rw [suffix, ← List.drop_drop, ← suffix, h]
  rfl

theorem suffix_append {l : List UInt8} (h : suffix src i = l ++ r) :
    suffix src (i + l.length) = r := by
  rw [suffix, ← List.drop_drop, ← suffix, h, List.drop_left]

/-- A step that succeeds passes its result and offset on to the rest of the reading. -/
theorem bind_run {α β : Type} {x : ReadM α} {f : α → ReadM β} {j : Nat} {a : α}
    (h : x src i = .ok (a, j)) : (x >>= f) src i = f a src j := by
  show (do let (a, s) ← x src i; f a src s) = _
  rw [h]; rfl

/-- Equal steps read alike.  A `match` on a byte already read is a step of its own: stated
apart from the text and the offset, `split` can take it apart by its cases. -/
theorem run_of_eq {α : Type} {x y : ReadM α} (h : x = y) : x src i = y src i := by
  rw [h]

/-- A step read at an offset, with the step as an argument.  `split` cannot take apart a
`match` that is applied to the text and the offset; once the `match` is an argument, it can.
This serves where the case taken is too large to be written out for `run_of_eq`. -/
theorem run_of_app {α : Type} {x : ReadM α} {res : Except Error (α × Nat)}
    (h : (fun m : ReadM α => m src i) x = res) : x src i = res := h

theorem read_eq (src : ByteArray) (i : Nat) : (read : ReadM ByteArray) src i = .ok (src, i) :=
  rfl

theorem eat_eq (src : ByteArray) (i : Nat) : eat src i = .ok ((), i + 1) := rfl

theorem peek_eq (src : ByteArray) (i : Nat) :
    peek src i = .ok ((if h : i < src.size then some (src.get i h) else none), i) := rfl

theorem peek_of_suffix (h : suffix src i = b :: r) : peek src i = .ok (some b, i) := by
  obtain ⟨hi, hb⟩ := get_of_suffix h
  rw [peek_eq, dif_pos hi, hb]

theorem peek_of_suffix_nil (h : suffix src i = []) : peek src i = .ok (none, i) := by
  have hn : ¬ i < src.size := by
    rw [suffix, List.drop_eq_nil_iff, Array.length_toList] at h
    exact Nat.not_lt.2 h
  rw [peek_eq, dif_neg hn]

theorem next_of_suffix (h : suffix src i = b :: r) : next src i = .ok (some b, i + 1) := by
  unfold next
  rw [bind_run (peek_of_suffix h)]
  rfl

theorem skipBlanks_of_suffix (h : suffix src i = b :: r) (hb : isBlankByte b = false) (n : Nat) :
    skipBlanks n src i = .ok (some b, i) := by
  cases n with
  | zero => exact peek_of_suffix h
  | succ n =>
    rw [skipBlanks, bind_run (peek_of_suffix h)]
    refine run_of_eq (y := pure (some b)) ?_
    -- each blank byte's case contradicts `hb`
    split <;> simp_all [isBlankByte]

theorem blanks_eq (src : ByteArray) (i : Nat) :
    blanks src i = skipBlanks (src.size + 1) src i := rfl

theorem blanks_of_suffix (h : suffix src i = b :: r) (hb : isBlankByte b = false) :
    blanks src i = .ok (some b, i) := skipBlanks_of_suffix h hb _

end Primitives

/-! ### Strings -/

/-- A character that a string literal holds as itself: printable ASCII other than the quote
and the backslash. -/
def plainChar (c : Char) : Bool := 32 ≤ c.toNat && c.toNat < 128 && c != '"' && c != '\\'

theorem escapeChar_of_plain {c : Char} (h : plainChar c = true) : escapeChar c = [c] := by
  simp only [plainChar, Bool.and_eq_true, decide_eq_true_eq, bne_iff_ne, ne_eq] at h
  obtain ⟨⟨⟨hlo, -⟩, hq⟩, hb⟩ := h
  unfold escapeChar
  split
  · exact absurd rfl hq
  · exact absurd rfl hb
  · exact absurd hlo (by decide)
  · exact absurd hlo (by decide)
  · exact absurd hlo (by decide)
  · rw [if_neg (by simp; omega), if_neg (by simp; omega), if_neg (by omega)]

theorem flatMap_escapeChar_of_plain {l : List Char} (h : l.all plainChar = true) :
    l.flatMap escapeChar = l := by
  induction l with
  | nil => rfl
  | cons c cs ih =>
    rw [List.all_cons, Bool.and_eq_true] at h
    rw [List.flatMap_cons, escapeChar_of_plain h.1, ih h.2]
    rfl

theorem quote_of_plain {s : String} (h : s.toList.all plainChar = true) :
    quote s = "\"" ++ s ++ "\"" := by
  rw [quote, flatMap_escapeChar_of_plain h, String.ofList_toList]


/-! ### Bytes of a text -/

/-- The UTF-8 bytes of a text, as a list. -/
def bytesOf (s : String) : List UInt8 := s.toUTF8.data.toList

theorem bytesOf_eq_flatMap (s : String) : bytesOf s = s.toList.flatMap String.utf8EncodeChar := by
  rw [bytesOf, String.toUTF8_eq_toByteArray, ← String.utf8Encode_toList, List.utf8Encode,
    List.toList_data_toByteArray]

@[simp] theorem bytesOf_append (s t : String) : bytesOf (s ++ t) = bytesOf s ++ bytesOf t := by
  simp only [bytesOf_eq_flatMap, String.toList_append, List.flatMap_append]

/-- The byte of an ASCII character. -/
theorem utf8EncodeChar_of_lt {c : Char} (h : c.toNat < 128) :
    String.utf8EncodeChar c = [c.toNat.toUInt8] :=
  String.utf8EncodeChar_eq_singleton
    (Char.utf8Size_eq_one_iff.2 (UInt32.le_iff_toNat_le.2 (Nat.le_of_lt_succ h)))

theorem flatMap_utf8EncodeChar_of_ascii {l : List Char} (h : ∀ c ∈ l, c.toNat < 128) :
    l.flatMap String.utf8EncodeChar = l.map fun c => c.toNat.toUInt8 := by
  induction l with
  | nil => rfl
  | cons c cs ih =>
    rw [List.flatMap_cons, utf8EncodeChar_of_lt (h c (List.mem_cons_self ..)),
      ih fun x hx => h x (List.mem_cons_of_mem _ hx)]
    rfl

theorem bytesOf_of_ascii {s : String} (h : ∀ c ∈ s.toList, c.toNat < 128) :
    bytesOf s = s.toList.map fun c => c.toNat.toUInt8 := by
  rw [bytesOf_eq_flatMap, flatMap_utf8EncodeChar_of_ascii h]


/-- A byte that a string literal holds as itself. -/
def plainByte (b : UInt8) : Prop := 32 ≤ b.toNat ∧ b ≠ 34 ∧ b ≠ 92

theorem stringBody_go_of_plain {src : ByteArray} {r : List UInt8} :
    ∀ (l : List UInt8) (acc : Array UInt8) (n i : Nat), (∀ b ∈ l, plainByte b) →
      suffix src i = l ++ 34 :: r → l.length < n →
      stringBody.go n acc src i = .ok (acc ++ l.toArray, i + l.length + 1) := by
  intro l
  induction l with
  | nil =>
    intro acc n i _ hs hn
    obtain ⟨n, rfl⟩ : ∃ m, n = m + 1 := ⟨n - 1, by simp at hn; omega⟩
    rw [stringBody.go.eq_2, bind_run (peek_of_suffix hs)]
    simp
    rfl
  | cons b l ih =>
    intro acc n i hl hs hn
    obtain ⟨n, rfl⟩ : ∃ m, n = m + 1 := ⟨n - 1, by simp at hn; omega⟩
    obtain ⟨hlo, h34, h92⟩ := hl b (List.mem_cons_self ..)
    have hb : ¬ b < 32 := fun h => by simp [UInt8.lt_iff_toNat_lt] at h; omega
    rw [stringBody.go.eq_2, bind_run (peek_of_suffix hs)]
    -- a plain byte is neither the closing quote, nor the backslash, nor a control byte
    refine (run_of_eq (y := do eat; stringBody.go n (acc.push b)) ?_).trans ?_
    · split <;> simp_all
    rw [bind_run (eat_eq src i),
      ih (acc.push b) n (i + 1) (fun x hx => hl x (List.mem_cons_of_mem _ hx)) (suffix_succ hs)
        (by simp at hn; omega)]
    congr 2
    · apply Array.toList_inj.1
      simp
    · simp only [List.length_cons]
      omega


theorem plainByte_of_plainChar {c : Char} (h : plainChar c = true) : plainByte c.toNat.toUInt8 := by
  simp only [plainChar, Bool.and_eq_true, decide_eq_true_eq, bne_iff_ne, ne_eq] at h
  obtain ⟨⟨⟨hlo, hhi⟩, hq⟩, hb⟩ := h
  have hq' : c.toNat ≠ 34 := fun e => hq (Char.toNat_inj.1 (by rw [e]; rfl))
  have hb' : c.toNat ≠ 92 := fun e => hb (Char.toNat_inj.1 (by rw [e]; rfl))
  have ht : c.toNat.toUInt8.toNat = c.toNat := by
    simp only [Nat.toUInt8]
    exact Nat.mod_eq_of_lt (by omega)
  refine ⟨by omega, fun e => hq' ?_, fun e => hb' ?_⟩ <;> rw [← ht, e] <;> rfl

theorem fromUTF8?_toUTF8 (s : String) : String.fromUTF8? s.toUTF8 = some s := by
  have hv : s.toUTF8.IsValidUTF8 := s.isValidUTF8
  rw [String.fromUTF8?, dif_pos hv]
  rfl


theorem stringBody_of_plain {src : ByteArray} {i : Nat} {s : String} {r : List UInt8}
    (hs : s.toList.all plainChar = true) (h : suffix src i = bytesOf s ++ 34 :: r) :
    stringBody src i = .ok (s, i + (bytesOf s).length + 1) := by
  have hl : ∀ b ∈ bytesOf s, plainByte b := by
    rw [bytesOf_of_ascii (fun c hc => ?_)]
    · intro b hb
      obtain ⟨c, hc, rfl⟩ := List.mem_map.1 hb
      exact plainByte_of_plainChar (List.all_eq_true.1 hs c hc)
    · have := List.all_eq_true.1 hs c hc
      simp only [plainChar, Bool.and_eq_true, decide_eq_true_eq] at this
      exact this.1.1.2
  have hlen : (bytesOf s).length < src.size + 1 := by
    have := congrArg List.length h
    rw [suffix_length] at this
    simp at this
    omega
  show (stringBody.go (src.size + 1) #[] >>= fun bytes => pure ((String.fromUTF8? ⟨bytes⟩).getD "")) src i = _
  rw [bind_run (stringBody_go_of_plain _ _ _ _ hl h hlen)]
  have hbytes : (⟨#[] ++ (bytesOf s).toArray⟩ : ByteArray) = s.toUTF8 := by
    apply ByteArray.ext
    simp [bytesOf]
  show Except.ok ((String.fromUTF8? ⟨#[] ++ (bytesOf s).toArray⟩).getD "", _) = _
  rw [hbytes, fromUTF8?_toUTF8]
  rfl


/-! ### Words and numbers -/

theorem ident_of_suffix {src : ByteArray} {r : List UInt8} :
    ∀ (l : List UInt8) (i : Nat), suffix src i = l ++ r → ident l src i = .ok ((), i + l.length)
  | [], i, _ => rfl
  | b :: l, i, h => by
    rw [ident.eq_2, bind_run (next_of_suffix h)]
    show (if (b == b) = true then ident l else fail .expectedSomeIdent) src (i + 1) = _
    rw [if_pos (beq_self_eq_true b), ident_of_suffix l (i + 1) (suffix_succ h)]
    simp only [List.length_cons]
    rw [Nat.add_assoc, Nat.add_comm 1]

/-- A byte that cannot continue a number: no digit, point or exponent mark. -/
def stopsNumber (b : UInt8) : Bool := !(48 ≤ b && b ≤ 57) && b != 46 && b != 101 && b != 69

/-- What follows a number's text: the end, or a byte that stops it. -/
def NumberEnd (r : List UInt8) : Prop := ∀ b r', r = b :: r' → stopsNumber b = true

/-- The end of the text ends a number. -/
theorem numberEnd_nil : NumberEnd [] := fun _ _ h => by cases h

theorem peek_of_numberEnd {src : ByteArray} {i : Nat} (h : NumberEnd (suffix src i)) :
    ∃ x, peek src i = .ok (x, i) ∧ digitOf? x = none ∧ x ≠ some 46 ∧ x ≠ some 101 ∧
      x ≠ some 69 := by
  cases hs : suffix src i with
  | nil => exact ⟨none, peek_of_suffix_nil hs, rfl, nofun, nofun, nofun⟩
  | cons b r =>
    have hb := h b r hs
    simp only [stopsNumber, Bool.and_eq_true, Bool.not_eq_true', bne_iff_ne, ne_eq] at hb
    obtain ⟨⟨⟨hd, h46⟩, h101⟩, h69⟩ := hb
    refine ⟨some b, peek_of_suffix hs, ?_, ?_, ?_, ?_⟩
    · simp [digitOf?, hd]
    all_goals simpa

theorem numberTail_of_numberEnd {src : ByteArray} {i : Nat} (h : NumberEnd (suffix src i))
    (v : Nat) : numberTail true v src i = .ok (.nat v, i) := by
  obtain ⟨x, hx, -, h46, h101, h69⟩ := peek_of_numberEnd h
  unfold numberTail
  rw [bind_run hx]
  refine run_of_eq (y := pure (JsonNumber.nat v)) ?_
  -- the byte after the digits is neither a point nor an exponent mark
  split <;> simp_all


/-- The byte of a digit character. -/
def digitByte (c : Char) : UInt8 := c.toNat.toUInt8

theorem digitOf?_digitByte {c : Char} (h : c.isDigit = true) :
    digitOf? (some (digitByte c)) = some (c.toNat - 48) := by
  simp only [Char.isDigit, Bool.and_eq_true, decide_eq_true_eq] at h
  have hlo : 48 ≤ c.toNat := h.1
  have hhi : c.toNat ≤ 57 := h.2
  have ht : (digitByte c).toNat = c.toNat := by
    simp only [digitByte, Nat.toUInt8]
    exact Nat.mod_eq_of_lt (by omega)
  simp only [digitOf?, UInt8.le_iff_toNat_le, ht]
  rw [if_pos (by simp only [Bool.and_eq_true, decide_eq_true_eq]; exact ⟨hlo, hhi⟩)]

theorem le_ofDigitChars (l : List Char) (init : Nat) : init ≤ Nat.ofDigitChars 10 l init := by
  rw [Nat.ofDigitChars_eq_ofDigitChars_zero]
  exact Nat.le_add_right_of_le (Nat.le_mul_of_pos_left _ (Nat.pow_pos (by decide)))

theorem number_go_of_digits {src : ByteArray} {r : List UInt8} (hr : NumberEnd r) :
    ∀ (cs : List Char) (s n i : Nat), (∀ c ∈ cs, c.isDigit = true) →
      suffix src i = cs.map digitByte ++ r → cs.length < n → Nat.ofDigitChars 10 cs s ≤ u64Max →
      number.go true n s src i = .ok (.nat (Nat.ofDigitChars 10 cs s), i + cs.length) := by
  intro cs
  induction cs with
  | nil =>
    intro s n i _ hs hn _
    obtain ⟨n, rfl⟩ : ∃ m, n = m + 1 := ⟨n - 1, by simp at hn; omega⟩
    rw [List.map_nil, List.nil_append] at hs
    obtain ⟨x, hx, hd, -⟩ := peek_of_numberEnd (hs ▸ hr)
    rw [number.go.eq_2, bind_run hx, hd]
    exact numberTail_of_numberEnd (hs ▸ hr) s
  | cons c cs ih =>
    intro s n i hd hs hn hmax
    obtain ⟨n, rfl⟩ : ∃ m, n = m + 1 := ⟨n - 1, by simp at hn; omega⟩
    have hc := hd c (List.mem_cons_self ..)
    have h0 : '0'.toNat = 48 := rfl
    rw [Nat.ofDigitChars_cons, h0] at hmax ⊢
    have hstep : ¬ s * 10 + (c.toNat - 48) > u64Max := by
      have := le_ofDigitChars cs (10 * s + (c.toNat - 48))
      omega
    rw [number.go.eq_2, bind_run (peek_of_suffix hs), digitOf?_digitByte hc]
    dsimp only
    rw [if_neg hstep, bind_run (eat_eq src i), Nat.mul_comm s 10,
      ih _ n (i + 1) (fun x hx => hd x (List.mem_cons_of_mem _ hx)) (suffix_succ hs)
        (by simp at hn; omega) hmax]
    simp only [List.length_cons]
    rw [Nat.add_assoc, Nat.add_comm 1]


/-- The decimal digits of a natural start with `0` only for zero. -/
theorem toDigits_ten_cons (n : Nat) :
    ∃ c cs, Nat.toDigits 10 n = c :: cs ∧ (c = '0' → n = 0) := by
  induction n using Nat.strongRecOn with
  | ind n ih =>
    rw [Nat.toDigits_eq_if (by decide)]
    split
    · exact ⟨_, [], rfl, Nat.digitChar_eq_zero.1⟩
    · rename_i hn
      obtain ⟨c, cs, hcs, hc⟩ := ih (n / 10) (Nat.div_lt_self (by omega) (by decide))
      refine ⟨c, cs ++ [Nat.digitChar (n % 10)], by rw [hcs]; rfl, fun h0 => ?_⟩
      have := hc h0
      omega

theorem toList_toString (n : Nat) : (toString n).toList = Nat.toDigits 10 n := by
  rw [Nat.toString_eq_repr, Nat.toList_repr]

theorem bytesOf_toString (n : Nat) : bytesOf (toString n) = (Nat.toDigits 10 n).map digitByte := by
  rw [bytesOf_of_ascii, toList_toString]
  · rfl
  · intro c hc
    rw [toList_toString] at hc
    have := Nat.isDigit_of_mem_toDigits (by decide) (by decide) hc
    simp only [Char.isDigit, Bool.and_eq_true, decide_eq_true_eq] at this
    exact Nat.lt_of_le_of_lt this.2 (by decide)

theorem number_of_nat {src : ByteArray} {i n : Nat} {r : List UInt8} (hn : n ≤ u64Max)
    (h : suffix src i = bytesOf (toString n) ++ r) (hr : NumberEnd r) :
    number true src i = .ok (.nat n, i + (bytesOf (toString n)).length) := by
  obtain ⟨c, cs, hcs, h0⟩ := toDigits_ten_cons n
  have hdig : ∀ x ∈ c :: cs, x.isDigit = true := fun x hx =>
    Nat.isDigit_of_mem_toDigits (by decide) (by decide) (hcs ▸ hx)
  rw [bytesOf_toString, hcs, List.map_cons, List.cons_append] at h
  rw [bytesOf_toString, hcs, List.length_map, List.length_cons]
  have hlen : cs.length < src.size + 1 := by
    have := congrArg List.length h
    rw [suffix_length] at this
    simp at this
    omega
  unfold number
  rw [bind_run (read_eq src i), bind_run (next_of_suffix h)]
  have hs : suffix src (i + 1) = cs.map digitByte ++ r := suffix_succ h
  by_cases hc : c = '0'
  · subst hc
    obtain rfl := h0 rfl
    obtain rfl : cs = [] := by simpa using hcs
    have hr' : NumberEnd (suffix src (i + 1)) := by rw [hs]; exact hr
    obtain ⟨x, hx, hd, -⟩ := peek_of_numberEnd hr'
    rw [show digitByte '0' = 48 from rfl]
    simp only
    rw [bind_run hx, hd]
    exact numberTail_of_numberEnd hr' 0
  · have hd := hdig c (List.mem_cons_self ..)
    have hge : 48 ≤ c.toNat := by
      simp only [Char.isDigit, Bool.and_eq_true, decide_eq_true_eq] at hd
      exact hd.1
    have hc48 : digitByte c ≠ 48 := fun e => hc (by
      have := digitOf?_digitByte hd
      rw [e] at this
      simp only [digitOf?] at this
      exact Char.toNat_inj.1 (by
        have : 0 = c.toNat - 48 := Option.some.inj this
        show c.toNat = 48
        omega))
    have hval : Nat.ofDigitChars 10 cs (c.toNat - 48) = n := by
      have := Nat.ofDigitChars_ten_toDigits (n := n)
      rwa [hcs, Nat.ofDigitChars_cons, Nat.mul_zero, Nat.zero_add] at this
    -- a first digit other than `0` starts the digit loop with its value
    refine (run_of_eq (y := number.go true (src.size + 1) (c.toNat - 48)) ?_).trans ?_
    · split
      next heq => cases heq
      next heq => exact absurd (Option.some.inj heq) hc48
      next _ _ heq => rw [← Option.some.inj heq, digitOf?_digitByte hd]
    rw [number_go_of_digits hr cs _ _ (i + 1) (fun x hx => hdig x (List.mem_cons_of_mem _ hx)) hs
      hlen (hval ▸ hn), hval]
    rw [Nat.add_comm cs.length 1, Nat.add_assoc]


/-! ### Values that read back -/

mutual

/-- A value whose compact text reads back as itself, nested at most `room` levels deep:
naturals that 64 bits hold, strings of printable ASCII other than the quote and the
backslash, and arrays and objects of such values. -/
def plainIn : Nat → Json → Bool
  | _, .null => true
  | _, .bool _ => true
  | _, .num (.nat n) => decide (n ≤ u64Max)
  | _, .num _ => false
  | _, .str s => s.toList.all plainChar
  | 0, .arr _ => false
  | 0, .obj _ => false
  | room + 1, .arr xs => plainItemsIn room xs
  | room + 1, .obj fs => plainFieldsIn room fs

/-- Items that are all `plainIn room`. -/
def plainItemsIn (room : Nat) : List Json → Bool
  | [] => true
  | x :: xs => plainIn room x && plainItemsIn room xs

/-- Fields with plain keys and values that are all `plainIn room`. -/
def plainFieldsIn (room : Nat) : List (String × Json) → Bool
  | [] => true
  | (k, v) :: fs => k.toList.all plainChar && plainIn room v && plainFieldsIn room fs

end

/-- The text of the items after the first, each after its comma. -/
def itemsTail (xs : List Json) : List UInt8 := xs.flatMap fun x => 44 :: bytesOf (compact x)

/-- The text of one field. -/
def fieldBytes (k : String) (v : Json) : List UInt8 := bytesOf (quote k) ++ 58 :: bytesOf (compact v)

/-- The text of the fields after the first, each after its comma. -/
def fieldsTail (fs : List (String × Json)) : List UInt8 :=
  fs.flatMap fun f => 44 :: fieldBytes f.1 f.2

theorem itemsTail_cons (x : Json) (xs : List Json) :
    itemsTail (x :: xs) = 44 :: bytesOf (compact x) ++ itemsTail xs := rfl

theorem fieldsTail_cons (k : String) (v : Json) (fs : List (String × Json)) :
    fieldsTail ((k, v) :: fs) = 44 :: fieldBytes k v ++ fieldsTail fs := rfl

theorem bytesOf_compact_arr (xs : List Json) :
    bytesOf (compact (.arr xs)) = 91 :: bytesOf (compactItems xs) ++ [93] := by
  rw [compact, bytesOf_append, bytesOf_append]
  rfl

theorem bytesOf_compact_obj (fs : List (String × Json)) :
    bytesOf (compact (.obj fs)) = 123 :: bytesOf (compactFields fs) ++ [125] := by
  rw [compact, bytesOf_append, bytesOf_append]
  rfl

theorem bytesOf_compactItems_cons (x : Json) (xs : List Json) :
    bytesOf (compactItems (x :: xs)) = bytesOf (compact x) ++ itemsTail xs := by
  induction xs generalizing x with
  | nil => simp [compactItems, itemsTail]
  | cons y ys ih =>
    rw [compactItems, bytesOf_append, bytesOf_append, ih]
    · simp [itemsTail]
      rfl
    · nofun

theorem bytesOf_compactFields_cons (k : String) (v : Json) (fs : List (String × Json)) :
    bytesOf (compactFields ((k, v) :: fs)) = fieldBytes k v ++ fieldsTail fs := by
  induction fs generalizing k v with
  | nil => simp [compactFields, fieldsTail, fieldBytes]; rfl
  | cons f fs ih =>
    obtain ⟨k', v'⟩ := f
    rw [compactFields, bytesOf_append, bytesOf_append, bytesOf_append, bytesOf_append, ih]
    · simp [fieldsTail, fieldBytes]
      rfl
    · nofun


/-! ### One step of the readers of arrays and objects

Each lemma says which case of the reader a byte selects, as the step that reads on from there;
the readings of both the compact and the indented text go through them. -/

section Dispatch

variable {src : ByteArray} {i j k l m fuel depth : Nat}

/-- A digit starts a number without a sign. -/
theorem value_of_digit {b : UInt8} (h : blanks src i = .ok (some b, j)) (hlo : 48 ≤ b.toNat)
    (hhi : b.toNat ≤ 57) :
    value (fuel + 1) depth src i = (number true >>= fun n => pure (Json.num n)) src j := by
  rw [value.eq_2, bind_run h]
  refine run_of_eq ?_
  -- a digit starts no other kind of value
  split <;> simp_all [UInt8.le_iff_toNat_le]

/-- A `[` opens an array below the nesting limit: its items follow, then the `]`. -/
theorem value_of_bracket (h : blanks src i = .ok (some 91, j)) (hd : depth + 1 < depthLimit) :
    value (fuel + 1) depth src i =
      (do
        let items ← arrayItems fuel (depth + 1) true []
        closeArray
        pure (Json.arr items)) src (j + 1) := by
  rw [value.eq_2, bind_run h]
  simp +decide only
  rw [if_neg (by omega)]
  rfl

/-- A `{` opens an object below the nesting limit: its fields follow, then the `}`. -/
theorem value_of_brace (h : blanks src i = .ok (some 123, j)) (hd : depth + 1 < depthLimit) :
    value (fuel + 1) depth src i =
      (do
        let fields ← objectFields fuel (depth + 1) true []
        closeObject
        pure (Json.obj fields)) src (j + 1) := by
  rw [value.eq_2, bind_run h]
  simp +decide only
  rw [if_neg (by omega)]
  rfl

/-- A `]` ends the items of an array. -/
theorem arrayItems_of_close {first : Bool} {acc : List Json}
    (h : blanks src i = .ok (some 93, j)) :
    arrayItems (fuel + 1) depth first acc src i = .ok (acc.reverse, j) := by
  rw [arrayItems.eq_2, bind_run h]
  rfl

/-- After a comma, a byte other than `]` starts the next item. -/
theorem arrayItems_of_comma {acc : List Json} {c : UInt8} (h : blanks src i = .ok (some 44, j))
    (hv : blanks src (j + 1) = .ok (some c, k)) (hc : c ≠ 93) :
    arrayItems (fuel + 1) depth false acc src i =
      (value fuel depth >>= fun v => arrayItems fuel depth false (v :: acc)) src k := by
  rw [arrayItems.eq_2, bind_run h]
  simp +decide only [↓reduceIte]
  rw [bind_run (eat_eq src j), bind_run hv]
  refine run_of_eq ?_
  -- the byte after the comma is not `]`
  split <;> simp_all

/-- The first item needs no comma: a byte other than `]` starts it. -/
theorem arrayItems_of_first {acc : List Json} {c : UInt8} (h : blanks src i = .ok (some c, j))
    (hv : blanks src j = .ok (some c, k)) (hc : c ≠ 93) :
    arrayItems (fuel + 1) depth true acc src i =
      (value fuel depth >>= fun v => arrayItems fuel depth false (v :: acc)) src k := by
  rw [arrayItems.eq_2, bind_run h]
  refine run_of_app ?_
  split
  next heq => exact absurd (Option.some.inj heq) hc
  next heq => cases heq
  next _ _ heq =>
    cases heq
    dsimp only
    rw [if_neg (by simp), if_pos rfl, bind_run hv]
    refine run_of_eq ?_
    split <;> simp_all

/-- A `}` ends the fields of an object. -/
theorem objectFields_of_close {first : Bool} {acc : List (String × Json)}
    (h : blanks src i = .ok (some 125, j)) :
    objectFields (fuel + 1) depth first acc src i = .ok (acc.reverse, j) := by
  rw [objectFields.eq_2, bind_run h]
  rfl

/-- After a comma, a field: its key as a string, a colon, then its value. -/
theorem objectFields_of_comma {acc : List (String × Json)} {key : String}
    (h : blanks src i = .ok (some 44, j)) (hq : blanks src (j + 1) = .ok (some 34, k))
    (hk : stringBody src (k + 1) = .ok (key, l)) (hc : blanks src l = .ok (some 58, m)) :
    objectFields (fuel + 1) depth false acc src i =
      (value fuel depth >>= fun v => objectFields fuel depth false ((key, v) :: acc))
        src (m + 1) := by
  rw [objectFields.eq_2, bind_run h]
  simp +decide only [↓reduceIte]
  rw [bind_run (eat_eq src j), bind_run hq]
  simp +decide only
  rw [bind_run (eat_eq src k), bind_run hk, bind_run hc]
  simp +decide only
  rw [bind_run (eat_eq src m)]

/-- The first field needs no comma. -/
theorem objectFields_of_first {acc : List (String × Json)} {key : String}
    (h : blanks src i = .ok (some 34, j)) (hq : blanks src j = .ok (some 34, k))
    (hk : stringBody src (k + 1) = .ok (key, l)) (hc : blanks src l = .ok (some 58, m)) :
    objectFields (fuel + 1) depth true acc src i =
      (value fuel depth >>= fun v => objectFields fuel depth false ((key, v) :: acc))
        src (m + 1) := by
  rw [objectFields.eq_2, bind_run h]
  simp +decide only [↓reduceIte]
  rw [bind_run hq]
  simp +decide only
  rw [bind_run (eat_eq src k), bind_run hk, bind_run hc]
  simp +decide only
  rw [bind_run (eat_eq src m)]

end Dispatch

/-! ### Reading leaves -/

section Leaves

variable {src : ByteArray} {i fuel depth : Nat} {r : List UInt8}

theorem value_null (h : suffix src i = bytesOf (compact .null) ++ r) :
    value (fuel + 1) depth src i = .ok (.null, i + (bytesOf (compact .null)).length) := by
  have hb : bytesOf (compact .null) = [110, 117, 108, 108] := by decide
  rw [hb, List.cons_append] at h
  rw [value.eq_2, bind_run (blanks_of_suffix h rfl)]
  simp only
  rw [bind_run (eat_eq src i), bind_run (ident_of_suffix [117, 108, 108] (i + 1) (suffix_succ h)),
    hb]
  rfl

theorem value_bool (b : Bool) (h : suffix src i = bytesOf (compact (.bool b)) ++ r) :
    value (fuel + 1) depth src i = .ok (.bool b, i + (bytesOf (compact (.bool b))).length) := by
  cases b with
  | true =>
    have hb : bytesOf (compact (.bool true)) = [116, 114, 117, 101] := by decide
    rw [hb, List.cons_append] at h
    rw [value.eq_2, bind_run (blanks_of_suffix h rfl)]
    simp only
    rw [bind_run (eat_eq src i), bind_run (ident_of_suffix [114, 117, 101] (i + 1) (suffix_succ h)),
      hb]
    rfl
  | false =>
    have hb : bytesOf (compact (.bool false)) = [102, 97, 108, 115, 101] := by decide
    rw [hb, List.cons_append] at h
    rw [value.eq_2, bind_run (blanks_of_suffix h rfl)]
    simp only
    rw [bind_run (eat_eq src i),
      bind_run (ident_of_suffix [97, 108, 115, 101] (i + 1) (suffix_succ h)), hb]
    rfl

theorem bytesOf_compact_str {s : String} (hs : s.toList.all plainChar = true) :
    bytesOf (compact (.str s)) = 34 :: bytesOf s ++ [34] := by
  show bytesOf (quote s) = _
  rw [quote_of_plain hs, bytesOf_append, bytesOf_append]
  rfl

theorem value_str {s : String} (hs : s.toList.all plainChar = true)
    (h : suffix src i = bytesOf (compact (.str s)) ++ r) :
    value (fuel + 1) depth src i = .ok (.str s, i + (bytesOf (compact (.str s))).length) := by
  rw [bytesOf_compact_str hs] at h ⊢
  simp only [List.cons_append, List.append_assoc] at h
  rw [value.eq_2, bind_run (blanks_of_suffix h rfl)]
  simp only
  rw [bind_run (eat_eq src i), bind_run (stringBody_of_plain hs (suffix_succ h))]
  simp only [List.length_cons, List.length_append, List.length_nil]
  show Except.ok _ = _
  congr 2
  omega

theorem digitByte_range {c : Char} (h : c.isDigit = true) :
    48 ≤ (digitByte c).toNat ∧ (digitByte c).toNat ≤ 57 := by
  simp only [Char.isDigit, Bool.and_eq_true, decide_eq_true_eq] at h
  have hlo : 48 ≤ c.toNat := h.1
  have hhi : c.toNat ≤ 57 := h.2
  have ht : (digitByte c).toNat = c.toNat := by
    simp only [digitByte, Nat.toUInt8]
    exact Nat.mod_eq_of_lt (by omega)
  omega

theorem value_nat {n : Nat} (hn : n ≤ u64Max)
    (h : suffix src i = bytesOf (compact (.num (.nat n))) ++ r) (hr : NumberEnd r) :
    value (fuel + 1) depth src i =
      .ok (.num (.nat n), i + (bytesOf (compact (.num (.nat n)))).length) := by
  have ht : compact (.num (.nat n)) = toString n := rfl
  rw [ht] at h ⊢
  obtain ⟨c, cs, hcs, -⟩ := toDigits_ten_cons n
  have hd : c.isDigit = true := Nat.isDigit_of_mem_toDigits (by decide) (by decide) (hcs ▸ List.mem_cons_self ..)
  obtain ⟨hlo, hhi⟩ := digitByte_range hd
  have hsuf := h
  rw [bytesOf_toString, hcs, List.map_cons, List.cons_append] at hsuf
  have hne : ∀ v : UInt8, (v.toNat < 48 ∨ 57 < v.toNat) → (digitByte c = v → False) :=
    fun v hv e => by rw [e] at hlo hhi; omega
  have hblank : isBlankByte (digitByte c) = false := by
    simp only [isBlankByte, Bool.or_eq_false_iff, beq_eq_false_iff_ne]
    exact ⟨⟨⟨hne 32 (by decide), hne 9 (by decide)⟩, hne 10 (by decide)⟩, hne 13 (by decide)⟩
  rw [value_of_digit (blanks_of_suffix hsuf hblank) hlo hhi, bind_run (number_of_nat hn h hr)]
  rfl

end Leaves


theorem compact_cons {room : Nat} {j : Json} (h : plainIn room j = true) :
    ∃ c rest, bytesOf (compact j) = c :: rest ∧ isBlankByte c = false ∧ c ≠ 93 ∧ c ≠ 125 := by
  cases j with
  | null => exact ⟨110, [117, 108, 108], by decide, rfl, by decide, by decide⟩
  | bool b =>
    cases b with
    | true => exact ⟨116, [114, 117, 101], by decide, rfl, by decide, by decide⟩
    | false => exact ⟨102, [97, 108, 115, 101], by decide, rfl, by decide, by decide⟩
  | num n =>
    cases n with
    | nat n =>
      obtain ⟨c, cs, hcs, -⟩ := toDigits_ten_cons n
      have hd : c.isDigit = true :=
        Nat.isDigit_of_mem_toDigits (by decide) (by decide) (hcs ▸ List.mem_cons_self ..)
      obtain ⟨hlo, hhi⟩ := digitByte_range hd
      have hne : ∀ v : UInt8, (v.toNat < 48 ∨ 57 < v.toNat) → digitByte c ≠ v :=
        fun v hv e => by rw [e] at hlo hhi; omega
      refine ⟨digitByte c, cs.map digitByte, ?_, ?_, hne 93 (by decide), hne 125 (by decide)⟩
      · show bytesOf (toString n) = _
        rw [bytesOf_toString, hcs, List.map_cons]
      · simp only [isBlankByte, Bool.or_eq_false_iff, beq_eq_false_iff_ne]
        exact ⟨⟨⟨hne 32 (by decide), hne 9 (by decide)⟩, hne 10 (by decide)⟩, hne 13 (by decide)⟩
    | negInt _ => simp [plainIn] at h
    | float _ => simp [plainIn] at h
    | float32 _ => simp [plainIn] at h
  | str s =>
    refine ⟨34, bytesOf s ++ [34], bytesOf_compact_str ?_, rfl, by decide, by decide⟩
    simpa [plainIn] using h
  | arr xs => exact ⟨91, _, bytesOf_compact_arr xs, rfl, by decide, by decide⟩
  | obj fs => exact ⟨123, _, bytesOf_compact_obj fs, rfl, by decide, by decide⟩

theorem closeArray_of_suffix {src : ByteArray} {i : Nat} {r : List UInt8}
    (h : suffix src i = 93 :: r) : closeArray src i = .ok ((), i + 1) := by
  rw [closeArray, bind_run (blanks_of_suffix h rfl)]
  rfl

theorem closeObject_of_suffix {src : ByteArray} {i : Nat} {r : List UInt8}
    (h : suffix src i = 125 :: r) : closeObject src i = .ok ((), i + 1) := by
  rw [closeObject, bind_run (blanks_of_suffix h rfl)]
  rfl


/-! ### Reading nested values

What `value`, `arrayItems` and `objectFields` read with a given fuel, stated for every text
whose next bytes are a plain value (or plain items, or plain fields) followed by anything
that ends it. -/

/-- With fuel `F`, `value` reads every plain value whose text is shorter than `F`. -/
def ValueReads (F : Nat) : Prop :=
  ∀ room j depth src i r, plainIn room j = true → depth + room < depthLimit →
    suffix src i = bytesOf (compact j) ++ r → NumberEnd r → (bytesOf (compact j)).length < F →
    value F depth src i = .ok (j, i + (bytesOf (compact j)).length)

/-- With fuel `F`, `arrayItems` reads the items after a first one, up to the `]`. -/
def ItemsReads (F : Nat) : Prop :=
  ∀ room xs depth acc src i r, plainItemsIn room xs = true → depth + room < depthLimit →
    suffix src i = itemsTail xs ++ 93 :: r → (itemsTail xs).length < F →
    arrayItems F depth false acc src i = .ok (acc.reverse ++ xs, i + (itemsTail xs).length)

/-- With fuel `F`, `arrayItems` reads all the items of an array, up to the `]`. -/
def FirstItemsReads (F : Nat) : Prop :=
  ∀ room xs depth src i r, plainItemsIn room xs = true → depth + room < depthLimit →
    suffix src i = bytesOf (compactItems xs) ++ 93 :: r → (bytesOf (compactItems xs)).length + 1 < F →
    arrayItems F depth true [] src i = .ok (xs, i + (bytesOf (compactItems xs)).length)

/-- With fuel `F`, `objectFields` reads the fields after a first one, up to the `}`. -/
def FieldsReads (F : Nat) : Prop :=
  ∀ room fs depth acc src i r, plainFieldsIn room fs = true → depth + room < depthLimit →
    suffix src i = fieldsTail fs ++ 125 :: r → (fieldsTail fs).length < F →
    objectFields F depth false acc src i = .ok (acc.reverse ++ fs, i + (fieldsTail fs).length)

/-- With fuel `F`, `objectFields` reads all the fields of an object, up to the `}`. -/
def FirstFieldsReads (F : Nat) : Prop :=
  ∀ room fs depth src i r, plainFieldsIn room fs = true → depth + room < depthLimit →
    suffix src i = bytesOf (compactFields fs) ++ 125 :: r →
    (bytesOf (compactFields fs)).length + 1 < F →
    objectFields F depth true [] src i = .ok (fs, i + (bytesOf (compactFields fs)).length)

theorem numberEnd_itemsTail (xs : List Json) (r : List UInt8) :
    NumberEnd (itemsTail xs ++ 93 :: r) := by
  intro b r' h
  cases xs with
  | nil => cases h; rfl
  | cons x xs =>
    simp only [itemsTail, List.flatMap_cons, List.cons_append, List.cons.injEq] at h
    rw [← h.1]
    rfl

theorem numberEnd_fieldsTail (fs : List (String × Json)) (r : List UInt8) :
    NumberEnd (fieldsTail fs ++ 125 :: r) := by
  intro b r' h
  cases fs with
  | nil => cases h; rfl
  | cons f fs =>
    simp only [fieldsTail, List.flatMap_cons, List.cons_append, List.cons.injEq] at h
    rw [← h.1]
    rfl

section Steps

variable {F : Nat}

theorem itemsReads_succ (hV : ValueReads F) (hI : ItemsReads F) : ItemsReads (F + 1) := by
  intro room xs depth acc src i r hxs hdepth h hlen
  cases xs with
  | nil =>
    rw [arrayItems_of_close (blanks_of_suffix h rfl)]
    simp [itemsTail]
  | cons x xs =>
    simp only [plainItemsIn, Bool.and_eq_true] at hxs
    obtain ⟨c, rest, hc, hcb, hc93, -⟩ := compact_cons hxs.1
    rw [itemsTail_cons] at h hlen
    simp only [List.cons_append, List.append_assoc] at h
    have hx : suffix src (i + 1) = bytesOf (compact x) ++ (itemsTail xs ++ 93 :: r) :=
      suffix_succ h
    have hx' := hx
    rw [hc, List.cons_append] at hx'
    rw [arrayItems_of_comma (blanks_of_suffix h rfl) (blanks_of_suffix hx' hcb) hc93,
      bind_run (hV room x depth src (i + 1) _ hxs.1 hdepth hx (numberEnd_itemsTail xs r) (by
        simp only [List.length_cons, List.length_append] at hlen; omega))]
    have hrest : suffix src (i + 1 + (bytesOf (compact x)).length) = itemsTail xs ++ 93 :: r := by
      rw [suffix, ← List.drop_drop, ← suffix, hx, List.drop_left]
    rw [hI room xs depth (x :: acc) src _ r hxs.2 hdepth hrest (by
      simp only [List.length_cons, List.length_append] at hlen; omega)]
    simp only [itemsTail_cons, List.reverse_cons, List.append_assoc, List.cons_append,
      List.nil_append, List.length_cons, List.length_append]
    congr 2
    omega

theorem firstItemsReads_succ (hV : ValueReads F) (hI : ItemsReads F) : FirstItemsReads (F + 1) := by
  intro room xs depth src i r hxs hdepth h hlen
  cases xs with
  | nil =>
    exact arrayItems_of_close (blanks_of_suffix h rfl)
  | cons x xs =>
    simp only [plainItemsIn, Bool.and_eq_true] at hxs
    obtain ⟨c, rest, hc, hcb, hc93, -⟩ := compact_cons hxs.1
    rw [bytesOf_compactItems_cons] at h hlen ⊢
    have h' := h
    rw [hc, List.cons_append, List.cons_append] at h'
    rw [arrayItems_of_first (blanks_of_suffix h' hcb) (blanks_of_suffix h' hcb) hc93,
      bind_run (hV room x depth src i _ hxs.1 hdepth (by rw [h, List.append_assoc])
        (numberEnd_itemsTail xs r) (by simp only [List.length_append] at hlen; omega))]
    have hrest : suffix src (i + (bytesOf (compact x)).length) = itemsTail xs ++ 93 :: r := by
      rw [suffix, ← List.drop_drop, ← suffix, h, List.append_assoc, List.drop_left]
    rw [hI room xs depth [x] src _ r hxs.2 hdepth hrest (by
      simp only [List.length_append] at hlen; omega)]
    simp only [List.reverse_cons, List.reverse_nil, List.nil_append, List.singleton_append,
      List.length_append, Nat.add_assoc]

theorem bytesOf_quote {k : String} (hk : k.toList.all plainChar = true) :
    bytesOf (quote k) = 34 :: bytesOf k ++ [34] :=
  bytesOf_compact_str hk

theorem fieldsReads_succ (hV : ValueReads F) (hO : FieldsReads F) : FieldsReads (F + 1) := by
  intro room fs depth acc src i r hfs hdepth h hlen
  cases fs with
  | nil =>
    rw [objectFields_of_close (blanks_of_suffix h rfl)]
    simp [fieldsTail]
  | cons f fs =>
    obtain ⟨k, v⟩ := f
    simp only [plainFieldsIn, Bool.and_eq_true] at hfs
    obtain ⟨⟨hk, hv⟩, hfs⟩ := hfs
    rw [fieldsTail_cons, fieldBytes, bytesOf_quote hk] at h hlen
    simp only [List.cons_append, List.append_assoc] at h
    have h1 : suffix src (i + 1) = 34 :: (bytesOf k ++ 34 :: 58 :: (bytesOf (compact v) ++
        (fieldsTail fs ++ 125 :: r))) := suffix_succ h
    have h2 := suffix_succ h1
    have h3 := suffix_append h2
    have h4 := suffix_succ h3
    have h5 := suffix_succ h4
    rw [objectFields_of_comma (blanks_of_suffix h rfl) (blanks_of_suffix h1 rfl)
        (stringBody_of_plain hk h2) (blanks_of_suffix h4 rfl),
      bind_run (hV room v depth src _ _ hv hdepth h5 (numberEnd_fieldsTail fs r) (by
        simp only [List.length_cons, List.length_append] at hlen; omega))]
    rw [hO room fs depth ((k, v) :: acc) src _ r hfs hdepth (suffix_append h5) (by
      simp only [List.length_cons, List.length_append] at hlen; omega)]
    simp only [fieldsTail_cons, fieldBytes, bytesOf_quote hk, List.reverse_cons, List.append_assoc,
      List.cons_append, List.nil_append, List.length_cons, List.length_append]
    congr 2
    omega

theorem firstFieldsReads_succ (hV : ValueReads F) (hO : FieldsReads F) :
    FirstFieldsReads (F + 1) := by
  intro room fs depth src i r hfs hdepth h hlen
  cases fs with
  | nil =>
    exact objectFields_of_close (blanks_of_suffix h rfl)
  | cons f fs =>
    obtain ⟨k, v⟩ := f
    simp only [plainFieldsIn, Bool.and_eq_true] at hfs
    obtain ⟨⟨hk, hv⟩, hfs⟩ := hfs
    rw [bytesOf_compactFields_cons, fieldBytes, bytesOf_quote hk] at h hlen ⊢
    simp only [List.cons_append, List.append_assoc] at h
    have h2 := suffix_succ h
    have h3 := suffix_append h2
    have h4 := suffix_succ h3
    have h5 := suffix_succ h4
    rw [objectFields_of_first (blanks_of_suffix h rfl) (blanks_of_suffix h rfl)
        (stringBody_of_plain hk h2) (blanks_of_suffix h4 rfl),
      bind_run (hV room v depth src _ _ hv hdepth h5 (numberEnd_fieldsTail fs r) (by
        simp only [List.length_cons, List.length_append] at hlen; omega))]
    rw [hO room fs depth [(k, v)] src _ r hfs hdepth (suffix_append h5) (by
      simp only [List.length_cons, List.length_append] at hlen; omega)]
    simp only [List.reverse_cons, List.reverse_nil, List.append_assoc, List.cons_append,
      List.nil_append, List.length_cons, List.length_append]
    congr 2
    omega

theorem valueReads_succ (hI : FirstItemsReads F) (hO : FirstFieldsReads F) :
    ValueReads (F + 1) := by
  intro room j depth src i r hj hdepth h hr hlen
  cases j with
  | null => exact value_null h
  | bool b => exact value_bool b h
  | num n =>
    cases n with
    | nat n => exact value_nat (by simpa [plainIn] using hj) h hr
    | negInt _ => simp [plainIn] at hj
    | float _ => simp [plainIn] at hj
    | float32 _ => simp [plainIn] at hj
  | str s => exact value_str (by simpa [plainIn] using hj) h
  | arr xs =>
    cases room with
    | zero => simp [plainIn] at hj
    | succ room =>
      simp only [plainIn] at hj
      rw [bytesOf_compact_arr] at h hlen ⊢
      simp only [List.cons_append, List.append_assoc] at h
      have h1 := suffix_succ h
      rw [value_of_bracket (blanks_of_suffix h rfl) (by simp only [depthLimit] at hdepth ⊢; omega),
        bind_run (hI room xs (depth + 1) src (i + 1) r hj (by omega) h1 (by
          simp only [List.length_cons, List.length_append] at hlen; omega)),
        bind_run (closeArray_of_suffix (suffix_append h1))]
      simp only [List.length_cons, List.length_append, List.length_nil]
      show Except.ok _ = _
      congr 2
      omega
  | obj fs =>
    cases room with
    | zero => simp [plainIn] at hj
    | succ room =>
      simp only [plainIn] at hj
      rw [bytesOf_compact_obj] at h hlen ⊢
      simp only [List.cons_append, List.append_assoc] at h
      have h1 := suffix_succ h
      rw [value_of_brace (blanks_of_suffix h rfl) (by simp only [depthLimit] at hdepth ⊢; omega),
        bind_run (hO room fs (depth + 1) src (i + 1) r hj (by omega) h1 (by
          simp only [List.length_cons, List.length_append] at hlen; omega)),
        bind_run (closeObject_of_suffix (suffix_append h1))]
      simp only [List.length_cons, List.length_append, List.length_nil]
      show Except.ok _ = _
      congr 2
      omega

end Steps


/-- Every fuel reads every plain value, items and fields whose text is short enough. -/
theorem reads_of_fuel (F : Nat) :
    ValueReads F ∧ ItemsReads F ∧ FirstItemsReads F ∧ FieldsReads F ∧ FirstFieldsReads F := by
  induction F with
  | zero =>
    refine ⟨?_, ?_, ?_, ?_, ?_⟩ <;>
      simp only [ValueReads, ItemsReads, FirstItemsReads, FieldsReads, FirstFieldsReads] <;>
      intros <;> omega
  | succ F ih =>
    obtain ⟨hV, hI, hI1, hO, hO1⟩ := ih
    exact ⟨valueReads_succ hI1 hO1, itemsReads_succ hV hI, firstItemsReads_succ hV hI,
      fieldsReads_succ hV hO, firstFieldsReads_succ hV hO⟩

/-! ### Documents -/

theorem skipBlanks_spaces {src : ByteArray} :
    ∀ (m fuel i : Nat), suffix src i = List.replicate m 32 → m < fuel →
      skipBlanks fuel src i = .ok (none, i + m)
  | 0, fuel, i, h, _ => by
    cases fuel with
    | zero => exact peek_of_suffix_nil h
    | succ fuel =>
      rw [skipBlanks, bind_run (peek_of_suffix_nil h)]
      rfl
  | m + 1, fuel + 1, i, h, hm => by
    rw [List.replicate_succ] at h
    rw [skipBlanks, bind_run (peek_of_suffix h)]
    show (eat >>= fun _ => skipBlanks fuel) src i = _
    rw [bind_run (eat_eq src i), skipBlanks_spaces m fuel (i + 1) (suffix_succ h) (by omega)]
    rw [Nat.add_assoc, Nat.add_comm 1]

theorem numberEnd_spaces (m : Nat) : NumberEnd (List.replicate m 32) := by
  intro b r h
  cases m with
  | zero => cases h
  | succ m =>
    rw [List.replicate_succ, List.cons.injEq] at h
    rw [← h.1]
    rfl

/-- The compact text of a plain value, padded with spaces, reads back as the value. -/
theorem parseBytesAsWritten_compact {room : Nat} {j : Json} (hj : plainIn room j = true)
    (hroom : room < depthLimit) (pad : Nat) :
    parseBytesAsWritten ⟨(bytesOf (compact j) ++ List.replicate pad 32).toArray⟩ = .ok j := by
  let src : ByteArray := ⟨(bytesOf (compact j) ++ List.replicate pad 32).toArray⟩
  have h0 : suffix src 0 = bytesOf (compact j) ++ List.replicate pad 32 := by
    simp [suffix, src]
  have hsize : src.size = (bytesOf (compact j)).length + pad := by
    simp [src, ByteArray.size]
  have hv := (reads_of_fuel (src.size + 2)).1 room j 0 src 0 _ hj (by omega) h0
    (numberEnd_spaces pad) (by rw [hsize]; omega)
  have hfin : finish src (0 + (bytesOf (compact j)).length) = .ok ((), src.size) := by
    have hb : blanks src (0 + (bytesOf (compact j)).length) = .ok (none, src.size) := by
      rw [blanks_eq, skipBlanks_spaces pad _ _ (suffix_append h0) (by rw [hsize]; omega), hsize]
      rw [Nat.zero_add]
    rw [finish, bind_run hb]
    rfl
  show ((document src 0).map (·.1)) = _
  rw [document, bind_run (read_eq src 0), bind_run hv, bind_run hfin]
  rfl

end LowRankTuner.Json
