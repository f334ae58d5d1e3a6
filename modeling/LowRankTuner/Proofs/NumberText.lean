import Mathlib
import LowRankTuner.Proofs.JsonRoundTrip
/-!
# Number texts read in place

A number stands in a document between other text: its digits, then a comma, a newline or
the end.  This module shows that the reader makes the same thing of a number's text wherever
it stands, as long as what follows it cannot continue a number (`NumberEnd`): it consumes the
whole text, and what it then gives (a number, or a fault) depends on the text alone.

The reader's loops are taken one at a time, each stated on the digits it meets: the integer
digits (`number.go`, and `longInteger` past 64 bits), the fraction (`fractionPart.go`, which
stops taking digits into the significand once it would pass 64 bits), the exponent
(`exponentDigits.more`, which stops at the 32-bit bound), and the digits skipped after either
stops (`skipDigits`).  What is left at the end of the text is a *settled* reading
(`Settled`): the conversion of significand and exponent to a float, a fixed value, or a
fault, none of which looks at the text.

Main statements:
* `number_reads` — the reader reads every number text (`NumberChars`) in full and then
  settles;
* `value_reads_numberText` — every number the writer prints, floats of either width, naturals
  and negative integers, reads in place as its text read alone does.
-/

namespace LowRankTuner.Json

/-! ### Settled readings -/

/-- A reading that neither consumes nor looks at the text: it gives one value at every
offset of every text, or fails at every one. -/
def Settled {α : Type} (x : ReadM α) : Prop :=
  (∃ v, ∀ src i, x src i = .ok (v, i)) ∨ ∀ src i, ∃ e, x src i = .error e

section Settled

variable {α β : Type}

theorem settled_pure (v : α) : Settled (pure v : ReadM α) := .inl ⟨v, fun _ _ => rfl⟩

theorem settled_fail (code : ErrorCode) : Settled (fail code : ReadM α) :=
  .inr fun _ _ => ⟨_, rfl⟩

/-- A step that fails ends the reading with its fault. -/
theorem bind_run_error {src : ByteArray} {i : Nat} {x : ReadM α} {f : α → ReadM β} {e : Error}
    (h : x src i = .error e) : (x >>= f) src i = .error e := by
  show (do let (a, s) ← x src i; f a src s) = _
  rw [h]; rfl

/-- Two readings that reach the same outcome go on alike. -/
theorem bind_run_congr {src src' : ByteArray} {i i' : Nat} {x y : ReadM α} {f : α → ReadM β}
    (h : x src i = y src' i') (hs : src = src') : (x >>= f) src i = (y >>= f) src' i' := by
  subst hs
  show (do let (a, s) ← x src i; f a src s) = (do let (a, s) ← y src i'; f a src s)
  rw [h]

theorem Settled.bind {x : ReadM α} {f : α → ReadM β} (hx : Settled x)
    (hf : ∀ a, Settled (f a)) : Settled (x >>= f) := by
  rcases hx with ⟨v, hv⟩ | hx
  · rcases hf v with ⟨w, hw⟩ | hfv
    · exact .inl ⟨w, fun src i => by rw [bind_run (hv src i), hw]⟩
    · exact .inr fun src i => by rw [bind_run (hv src i)]; exact hfv src i
  · refine .inr fun src i => ?_
    obtain ⟨e, he⟩ := hx src i
    exact ⟨e, bind_run_error he⟩

end Settled

/-! ### Runs of digits -/

/-- Characters that are all decimal digits. -/
def AllDigits (cs : List Char) : Prop := ∀ c ∈ cs, c.isDigit = true

/-- What follows a run of digits: the end of the text, or a byte that is no digit. -/
def DigitsEnd (r : List UInt8) : Prop := ∀ b r', r = b :: r' → digitOf? (some b) = none

theorem AllDigits.tail {c : Char} {cs : List Char} (h : AllDigits (c :: cs)) : AllDigits cs :=
  fun x hx => h x (List.mem_cons_of_mem _ hx)

theorem NumberEnd.digitsEnd {r : List UInt8} (h : NumberEnd r) : DigitsEnd r := by
  intro b r' hr
  have hb := h b r' hr
  simp only [stopsNumber, Bool.and_eq_true, Bool.not_eq_true', bne_iff_ne, ne_eq] at hb
  simp [digitOf?, hb.1.1.1]

theorem digitsEnd_cons {b : UInt8} (r : List UInt8) (hb : ¬ (48 ≤ b ∧ b ≤ 57)) :
    DigitsEnd (b :: r) := by
  intro b' r' h
  rw [List.cons.injEq] at h
  rw [← h.1]
  simp only [digitOf?, Bool.and_eq_true, decide_eq_true_eq]
  rw [if_neg hb]

theorem peek_of_digitsEnd {src : ByteArray} {i : Nat} (h : DigitsEnd (suffix src i)) :
    ∃ x, peek src i = .ok (x, i) ∧ digitOf? x = none := by
  cases hs : suffix src i with
  | nil => exact ⟨none, peek_of_suffix_nil hs, rfl⟩
  | cons b r => exact ⟨some b, peek_of_suffix hs, h b r hs⟩

/-- The value of a digit character. -/
theorem digit_lt {c : Char} (h : c.isDigit = true) : c.toNat - 48 < 10 := by
  simp only [Char.isDigit, Bool.and_eq_true, decide_eq_true_eq] at h
  have : c.toNat ≤ 57 := h.2
  omega

/-- A fuel that exceeds a run of digits still exceeds it one digit on. -/
theorem suffix_fuel {src : ByteArray} {i : Nat} {l r : List UInt8} (h : suffix src i = l ++ r) :
    l.length < src.size + 1 := by
  have := congrArg List.length h
  rw [suffix_length, List.length_append] at this
  omega

/-- The fuel of a loop, one more than the text's length, exceeds the characters ahead. -/
theorem chars_lt_fuel {src : ByteArray} {i : Nat} {cs : List Char} {r : List UInt8}
    (h : suffix src i = cs.map digitByte ++ r) : cs.length < src.size + 1 := by
  have := suffix_fuel h
  rwa [List.length_map] at this

section Loops

variable {src : ByteArray} {i : Nat} {r : List UInt8}

theorem skipDigits_digits (hr : DigitsEnd r) :
    ∀ (cs : List Char) (n i : Nat), AllDigits cs → suffix src i = cs.map digitByte ++ r →
      cs.length < n → skipDigits n src i = .ok ((), i + cs.length) := by
  intro cs
  induction cs with
  | nil =>
    intro n i _ hs hn
    obtain ⟨n, rfl⟩ : ∃ m, n = m + 1 := ⟨n - 1, by simp at hn; omega⟩
    rw [List.map_nil, List.nil_append] at hs
    obtain ⟨x, hx, hd⟩ := peek_of_digitsEnd (hs ▸ hr)
    rw [skipDigits, bind_run hx, hd]
    rfl
  | cons c cs ih =>
    intro n i hd hs hn
    rw [List.length_cons] at hn
    obtain ⟨n, rfl⟩ : ∃ m, n = m + 1 := ⟨n - 1, by omega⟩
    rw [skipDigits, bind_run (peek_of_suffix hs), digitOf?_digitByte (hd c (List.mem_cons_self ..))]
    show (eat >>= fun _ => skipDigits n) src i = _
    rw [bind_run (eat_eq src i), ih n (i + 1) hd.tail (suffix_succ hs) (by omega),
      List.length_cons, Nat.add_assoc, Nat.add_comm 1]

/-- The fraction loop takes digits into the significand, one place further right each, until
one would pass 64 bits; it stops there (the flag) or at the end of the digits. -/
theorem fractionPart_go_digits :
    ∀ (cs : List Char) (s : Nat) (e : Int), AllDigits cs →
      ∃ s' k ov, k ≤ cs.length ∧ (ov = false → k = cs.length) ∧
        ∀ n src i r, DigitsEnd r → suffix src i = cs.map digitByte ++ r → cs.length < n →
          fractionPart.go n s e src i = .ok ((s', e - k, ov), i + k) := by
  intro cs
  induction cs with
  | nil =>
    intro s e _
    refine ⟨s, 0, false, le_rfl, fun _ => rfl, fun n src i r hr hs hn => ?_⟩
    obtain ⟨n, rfl⟩ : ∃ m, n = m + 1 := ⟨n - 1, by simp at hn; omega⟩
    rw [List.map_nil, List.nil_append] at hs
    obtain ⟨x, hx, hd⟩ := peek_of_digitsEnd (hs ▸ hr)
    rw [fractionPart.go, bind_run hx, hd, Nat.cast_zero, sub_zero]
    rfl
  | cons c cs ih =>
    intro s e hd
    have hc := hd c (List.mem_cons_self ..)
    by_cases hover : s * 10 + (c.toNat - 48) > u64Max
    · -- the first digit would overflow: nothing is taken
      refine ⟨s, 0, true, Nat.zero_le _, nofun, fun n src i r _ hs hn => ?_⟩
      rw [List.length_cons] at hn
      obtain ⟨n, rfl⟩ : ∃ m, n = m + 1 := ⟨n - 1, by omega⟩
      rw [fractionPart.go, bind_run (peek_of_suffix hs), digitOf?_digitByte hc]
      dsimp only
      rw [if_pos hover, Nat.cast_zero, sub_zero]
      rfl
    · obtain ⟨s', k, ov, hk, hov, hrun⟩ := ih (s * 10 + (c.toNat - 48)) (e - 1) hd.tail
      refine ⟨s', k + 1, ov, by simpa using hk, fun h => by simp [hov h], ?_⟩
      intro n src i r hr hs hn
      rw [List.length_cons] at hn
      obtain ⟨n, rfl⟩ : ∃ m, n = m + 1 := ⟨n - 1, by omega⟩
      rw [fractionPart.go, bind_run (peek_of_suffix hs), digitOf?_digitByte hc]
      dsimp only
      rw [if_neg hover]
      show (eat >>= fun _ => fractionPart.go n _ _) src i = _
      rw [bind_run (eat_eq src i), hrun n src (i + 1) r hr (suffix_succ hs) (by omega)]
      have he : e - 1 - (k : Int) = e - ((k + 1 : Nat) : Int) := by push_cast; ring
      rw [he, Nat.add_assoc, Nat.add_comm 1]

/-- The exponent loop takes digits while the exponent stays within 32 bits; the digit that
would pass the bound is consumed and ends the loop with no exponent. -/
theorem exponentDigits_more_digits :
    ∀ (cs : List Char) (e : Int), AllDigits cs →
      ∃ res k, k ≤ cs.length ∧ (res.isSome → k = cs.length) ∧
        ∀ n src i r, DigitsEnd r → suffix src i = cs.map digitByte ++ r → cs.length < n →
          exponentDigits.more n e src i = .ok (res, i + k) := by
  intro cs
  induction cs with
  | nil =>
    intro e _
    refine ⟨some e, 0, le_rfl, fun _ => rfl, fun n src i r hr hs hn => ?_⟩
    obtain ⟨n, rfl⟩ : ∃ m, n = m + 1 := ⟨n - 1, by simp at hn; omega⟩
    rw [List.map_nil, List.nil_append] at hs
    obtain ⟨x, hx, hd⟩ := peek_of_digitsEnd (hs ▸ hr)
    rw [exponentDigits.more, bind_run hx, hd]
    rfl
  | cons c cs ih =>
    intro e hd
    have hc := hd c (List.mem_cons_self ..)
    by_cases hover : e * 10 + ((c.toNat - 48 : Nat) : Int) > i32Max
    · refine ⟨none, 1, by simp, nofun, fun n src i r _ hs hn => ?_⟩
      rw [List.length_cons] at hn
      obtain ⟨n, rfl⟩ : ∃ m, n = m + 1 := ⟨n - 1, by omega⟩
      rw [exponentDigits.more, bind_run (peek_of_suffix hs), digitOf?_digitByte hc]
      dsimp only
      rw [bind_run (eat_eq src i), if_pos hover]
      rfl
    · obtain ⟨res, k, hk, hsome, hrun⟩ := ih (e * 10 + ((c.toNat - 48 : Nat) : Int)) hd.tail
      refine ⟨res, k + 1, by simpa using hk, fun h => by simp [hsome h], ?_⟩
      intro n src i r hr hs hn
      rw [List.length_cons] at hn
      obtain ⟨n, rfl⟩ : ∃ m, n = m + 1 := ⟨n - 1, by omega⟩
      rw [exponentDigits.more, bind_run (peek_of_suffix hs), digitOf?_digitByte hc]
      dsimp only
      rw [bind_run (eat_eq src i), if_neg hover, hrun n src (i + 1) r hr (suffix_succ hs) (by omega),
        Nat.add_assoc, Nat.add_comm 1]

end Loops

/-! ### Significand and exponent to a float -/

theorem fromParts_go_settled : ∀ (fuel : Nat) (f : Float) (e : Int), Settled (fromParts.go fuel f e)
  | 0, f, _ => settled_pure f
  | fuel + 1, f, e => by
    rw [fromParts.go]
    split
    · split
      · dsimp only
        split
        · exact settled_fail _
        · exact settled_pure _
      · exact settled_pure _
    · split
      · exact settled_pure _
      · split
        · exact settled_fail _
        · exact fromParts_go_settled fuel _ _

/-- The conversion of significand and exponent depends on nothing else. -/
theorem fromParts_settled (positive : Bool) (sig : Nat) (exp : Int) :
    Settled (fromParts positive sig exp) :=
  (fromParts_go_settled _ _ _).bind fun _ => settled_pure _

end LowRankTuner.Json

namespace LowRankTuner.Json


/-- A run of one digit or more. -/
def IsDigits (cs : List Char) : Prop := cs ≠ [] ∧ AllDigits cs

/-- The exponent of a number's text: `e`, a minus sign when it is negative, its digits. -/
def expChars (neg : Bool) (ds : List Char) : List Char :=
  'e' :: (if neg then ['-'] else []) ++ ds

/-- The end of a number's text after a run of digits: nothing, or an exponent. -/
inductive ExpTail : List Char → Prop
  | stop : ExpTail []
  | exp (neg : Bool) {ds : List Char} : IsDigits ds → ExpTail (expChars neg ds)

/-- What follows the integer digits of a number's text: an exponent or nothing, or a point,
digits, and then an exponent or nothing. -/
inductive AfterInt : List Char → Prop
  | tail {t : List Char} : ExpTail t → AfterInt t
  | frac {fs t : List Char} : IsDigits fs → ExpTail t → AfterInt ('.' :: fs ++ t)

/-- The text of a number after its sign: integer digits, then what may follow them. -/
inductive NumberChars : List Char → Prop
  | mk {ds t : List Char} : IsDigits ds → AfterInt t → NumberChars (ds ++ t)

/-- `x` reads the whole of the characters `t` wherever they stand before something that
cannot continue a number: to one value at every such place, or to a fault at every one. -/
def ReadsNumber {α : Type} (x : ReadM α) (t : List Char) : Prop :=
  (∃ v, ∀ src i r, NumberEnd r → suffix src i = t.map digitByte ++ r →
    x src i = .ok (v, i + t.length)) ∨
  ∀ src i r, NumberEnd r → suffix src i = t.map digitByte ++ r → ∃ e, x src i = .error e

/-- The same for a loop that is given its fuel: with any fuel above the length of `t`. -/
def LoopReadsNumber {α : Type} (x : Nat → ReadM α) (t : List Char) : Prop :=
  (∃ v, ∀ n src i r, t.length < n → NumberEnd r → suffix src i = t.map digitByte ++ r →
    x n src i = .ok (v, i + t.length)) ∨
  ∀ n src i r, t.length < n → NumberEnd r → suffix src i = t.map digitByte ++ r →
    ∃ e, x n src i = .error e

section Reads

variable {α β : Type} {x y : ReadM α} {t u : List Char}

theorem suffix_after {src : ByteArray} {i : Nat} {r : List UInt8}
    (h : suffix src i = (u ++ t).map digitByte ++ r) :
    suffix src (i + u.length) = t.map digitByte ++ r := by
  have := suffix_append (l := u.map digitByte) (r := t.map digitByte ++ r)
    (by rw [h, List.map_append, List.append_assoc])
  rwa [List.length_map] at this

theorem suffix_drop {src : ByteArray} {i : Nat} {r : List UInt8} {cs : List Char}
    (h : suffix src i = cs.map digitByte ++ r) {k : Nat} (hk : k ≤ cs.length) :
    suffix src (i + k) = (cs.drop k).map digitByte ++ r := by
  have h' := suffix_after (u := cs.take k) (t := cs.drop k) (by rwa [List.take_append_drop])
  rwa [List.length_take, Nat.min_eq_left hk] at h'

/-- A reading that ends in a settled one reads its text. -/
theorem ReadsNumber.of_settled (hy : Settled y)
    (h : ∀ src i r, NumberEnd r → suffix src i = t.map digitByte ++ r →
      x src i = y src (i + t.length)) : ReadsNumber x t := by
  rcases hy with ⟨v, hv⟩ | hy
  · exact .inl ⟨v, fun src i r hr hs => by rw [h src i r hr hs, hv]⟩
  · exact .inr fun src i r hr hs => by rw [h src i r hr hs]; exact hy src _

/-- A reading that passes over `u` and goes on as `y` reads `u` and then what `y` reads. -/
theorem ReadsNumber.of_eq (hy : ReadsNumber y t)
    (h : ∀ src i r, NumberEnd r → suffix src i = (u ++ t).map digitByte ++ r →
      x src i = y src (i + u.length)) : ReadsNumber x (u ++ t) := by
  rcases hy with ⟨v, hv⟩ | hy
  · refine .inl ⟨v, fun src i r hr hs => ?_⟩
    rw [h src i r hr hs, hv src _ r hr (suffix_after hs), List.length_append, Nat.add_assoc]
  · exact .inr fun src i r hr hs => by
      rw [h src i r hr hs]
      exact hy src _ r hr (suffix_after hs)

theorem ReadsNumber.bind {f : α → ReadM β} (hx : ReadsNumber x t) (hf : ∀ a, Settled (f a)) :
    ReadsNumber (x >>= f) t := by
  rcases hx with ⟨v, hv⟩ | hx
  · exact ReadsNumber.of_settled (hf v) fun src i r hr hs => bind_run (hv src i r hr hs)
  · refine .inr fun src i r hr hs => ?_
    obtain ⟨e, he⟩ := hx src i r hr hs
    exact ⟨e, bind_run_error he⟩

/-- A loop run with the fuel of the whole text. -/
theorem LoopReadsNumber.reads {x : Nat → ReadM α} (h : LoopReadsNumber x t) :
    ReadsNumber (fun src => x (src.size + 1) src) t := by
  rcases h with ⟨v, hv⟩ | h
  · exact .inl ⟨v, fun src i r hr hs => hv _ src i r (chars_lt_fuel hs) hr hs⟩
  · exact .inr fun src i r hr hs => h _ src i r (chars_lt_fuel hs) hr hs

/-- A loop that, given any fuel, goes on as `y`. -/
theorem LoopReadsNumber.of_reads {x : Nat → ReadM α} (hy : ReadsNumber y t)
    (h : ∀ n src i r, t.length < n → NumberEnd r → suffix src i = t.map digitByte ++ r →
      x n src i = y src i) : LoopReadsNumber x t := by
  rcases hy with ⟨v, hv⟩ | hy
  · exact .inl ⟨v, fun n src i r hn hr hs => by rw [h n src i r hn hr hs, hv src i r hr hs]⟩
  · exact .inr fun n src i r hn hr hs => by rw [h n src i r hn hr hs]; exact hy src i r hr hs

/-- A loop that passes over one character with one unit of fuel. -/
theorem LoopReadsNumber.cons {x x' : Nat → ReadM α} {c : Char} (hx : LoopReadsNumber x' t)
    (h : ∀ n src i r, t.length < n → NumberEnd r → suffix src i = (c :: t).map digitByte ++ r →
      x (n + 1) src i = x' n src (i + 1)) : LoopReadsNumber x (c :: t) := by
  have hfuel : ∀ n, (c :: t).length < n → ∃ m, n = m + 1 ∧ t.length < m := fun n hn =>
    ⟨n - 1, by rw [List.length_cons] at hn; omega, by rw [List.length_cons] at hn; omega⟩
  rcases hx with ⟨v, hv⟩ | hx
  · refine .inl ⟨v, fun n src i r hn hr hs => ?_⟩
    obtain ⟨m, rfl, hm⟩ := hfuel n hn
    rw [h m src i r hm hr hs, hv m src (i + 1) r hm hr (suffix_succ hs), List.length_cons,
      Nat.add_assoc, Nat.add_comm 1]
  · refine .inr fun n src i r hn hr hs => ?_
    obtain ⟨m, rfl, hm⟩ := hfuel n hn
    rw [h m src i r hm hr hs]
    exact hx m src (i + 1) r hm hr (suffix_succ hs)

end Reads

/-! ### The exponent -/

theorem digitByte_toNat {c : Char} (h : c.isDigit = true) : (digitByte c).toNat = c.toNat := by
  have := digit_lt h
  simp only [digitByte, Nat.toUInt8]
  exact Nat.mod_eq_of_lt (by omega)

/-- A digit's byte is none of the bytes that a reader tests for beside the digits. -/
theorem digitByte_ne {c : Char} (h : c.isDigit = true) {v : UInt8} (hv : v.toNat < 48 ∨ 57 < v.toNat) :
    digitByte c ≠ v := by
  obtain ⟨hlo, hhi⟩ := digitByte_range h
  intro e
  rw [e] at hlo hhi
  omega

theorem isBlankByte_digitByte {c : Char} (h : c.isDigit = true) : isBlankByte (digitByte c) = false := by
  simp only [isBlankByte, Bool.or_eq_false_iff, beq_eq_false_iff_ne]
  exact ⟨⟨⟨digitByte_ne h (by decide), digitByte_ne h (by decide)⟩, digitByte_ne h (by decide)⟩,
    digitByte_ne h (by decide)⟩

theorem exponentDigits_reads (p : Bool) (sig : Nat) (start : Int) (pe : Bool) {ds : List Char}
    (hds : IsDigits ds) :
    ReadsNumber (fun src => exponentDigits p sig start pe (src.size + 1) src) ds := by
  obtain ⟨d, rest, rfl⟩ := List.exists_cons_of_ne_nil hds.1
  have hd := hds.2 d (List.mem_cons_self ..)
  obtain ⟨res, k, hk, hsome, hmore⟩ :=
    exponentDigits_more_digits rest ((d.toNat - 48 : Nat) : Int) hds.2.tail
  have hfuel : ∀ {src : ByteArray} {i : Nat} {r : List UInt8},
      suffix src i = (d :: rest).map digitByte ++ r → rest.length < src.size + 1 := fun hs => by
    have := chars_lt_fuel hs
    rw [List.length_cons] at this
    omega
  rcases res with _ | e
  · by_cases hbig : (sig != 0 && pe) = true
    · -- an exponent past 32 bits on a non-zero significand, positive: out of range
      refine .inr fun src i r hr hs => ?_
      have hs' := hs
      rw [List.map_cons, List.cons_append] at hs'
      show ∃ e, exponentDigits p sig start pe (src.size + 1) src i = .error e
      unfold exponentDigits
      rw [bind_run (next_of_suffix hs')]
      dsimp only
      rw [digitOf?_digitByte hd]
      dsimp only
      rw [bind_run (hmore _ src (i + 1) r hr.digitsEnd (suffix_succ hs') (hfuel hs))]
      dsimp only
      rw [if_pos hbig]
      exact ⟨_, rfl⟩
    · -- otherwise zero, once the remaining digits are skipped
      refine .inl ⟨if p then 0.0 else -0.0, fun src i r hr hs => ?_⟩
      have hs' := hs
      rw [List.map_cons, List.cons_append] at hs'
      show exponentDigits p sig start pe (src.size + 1) src i = _
      unfold exponentDigits
      rw [bind_run (next_of_suffix hs')]
      dsimp only
      rw [digitOf?_digitByte hd]
      dsimp only
      rw [bind_run (hmore _ src (i + 1) r hr.digitsEnd (suffix_succ hs') (hfuel hs))]
      dsimp only
      rw [if_neg hbig, bind_run (skipDigits_digits hr.digitsEnd (rest.drop k) _ _
        (fun c hc => hds.2.tail c (List.mem_of_mem_drop hc)) (suffix_drop (suffix_succ hs') hk)
        (by have := hfuel hs; simp only [List.length_drop]; omega))]
      show Except.ok (_, i + 1 + k + (rest.drop k).length) = _
      rw [List.length_drop, List.length_cons]
      congr 2
      omega
  · -- the exponent is read whole, and the float is made from it
    have hk' : k = rest.length := hsome rfl
    subst hk'
    refine ReadsNumber.of_settled (fromParts_settled p sig
      (if pe then min (start + e) i32Max else max (start - e) (-i32Max - 1)))
      fun src i r hr hs => ?_
    have hs' := hs
    rw [List.map_cons, List.cons_append] at hs'
    show exponentDigits p sig start pe (src.size + 1) src i = _
    unfold exponentDigits
    rw [bind_run (next_of_suffix hs')]
    dsimp only
    rw [digitOf?_digitByte hd]
    dsimp only
    rw [bind_run (hmore _ src (i + 1) r hr.digitsEnd (suffix_succ hs') (hfuel hs)),
      List.length_cons, Nat.add_assoc, Nat.add_comm 1]

theorem exponentPart_reads (p : Bool) (sig : Nat) (start : Int) (neg : Bool) {ds : List Char}
    (hds : IsDigits ds) : ReadsNumber (exponentPart p sig start) (expChars neg ds) := by
  obtain ⟨d, rest, rfl⟩ := List.exists_cons_of_ne_nil hds.1
  have hd := hds.2 d (List.mem_cons_self ..)
  cases neg with
  | false =>
    show ReadsNumber _ (['e'] ++ d :: rest)
    refine (exponentDigits_reads p sig start true hds).of_eq fun src i r _ hs => ?_
    simp only [List.map_cons, List.cons_append] at hs
    unfold exponentPart
    rw [bind_run (read_eq src i), bind_run (eat_eq src i), bind_run (peek_of_suffix (suffix_succ hs))]
    refine run_of_eq ?_
    -- a digit is no sign
    split
    next heq => exact absurd (Option.some.inj heq) (digitByte_ne hd (by decide))
    next heq => exact absurd (Option.some.inj heq) (digitByte_ne hd (by decide))
    next => rfl
  | true =>
    show ReadsNumber _ (['e', '-'] ++ d :: rest)
    refine (exponentDigits_reads p sig start false hds).of_eq fun src i r _ hs => ?_
    simp only [List.map_cons, List.cons_append] at hs
    unfold exponentPart
    rw [bind_run (read_eq src i), bind_run (eat_eq src i), bind_run (peek_of_suffix (suffix_succ hs))]
    show (eat >>= fun _ => exponentDigits p sig start false (src.size + 1)) src (i + 1) = _
    rw [bind_run (eat_eq src _)]
    rfl

/-! ### Fractions and the end of a number -/

theorem fractionEnd_reads (p : Bool) (sig : Nat) (exp : Int) {t : List Char} (ht : ExpTail t) :
    ReadsNumber (fractionEnd p sig exp) t := by
  cases ht with
  | stop =>
    refine ReadsNumber.of_settled (fromParts_settled p sig exp) fun src i r hr hs => ?_
    rw [List.map_nil, List.nil_append] at hs
    obtain ⟨x, hx, -, -, h101, h69⟩ := peek_of_numberEnd (hs ▸ hr)
    unfold fractionEnd
    rw [bind_run hx]
    refine run_of_eq ?_
    -- the byte after the digits is no exponent mark
    split <;> simp_all
  | exp neg hds =>
    refine (exponentPart_reads p sig exp neg hds).of_eq (u := []) fun src i r _ hs => ?_
    have hs' : suffix src i = 101 :: _ := hs
    unfold fractionEnd
    rw [bind_run (peek_of_suffix hs')]
    rfl

/-- A run of digits followed by an exponent or nothing ends a run of digits. -/
theorem ExpTail.digitsEnd {t : List Char} (ht : ExpTail t) {r : List UInt8} (hr : NumberEnd r) :
    DigitsEnd (t.map digitByte ++ r) := by
  cases ht with
  | stop => exact hr.digitsEnd
  | exp neg hds => exact digitsEnd_cons _ (by decide)

theorem fractionPart_reads (p : Bool) (sig : Nat) (before : Int) {fs t : List Char}
    (hfs : IsDigits fs) (ht : ExpTail t) :
    ReadsNumber (fractionPart p sig before) ('.' :: fs ++ t) := by
  obtain ⟨s', k, ov, hk, hov, hgo⟩ := fractionPart_go_digits fs sig 0 hfs.2
  refine (fractionEnd_reads p s' (before + (0 - k)) ht).of_eq (u := '.' :: fs)
    fun src i r hr hs => ?_
  have hs1 : suffix src (i + 1) = fs.map digitByte ++ (t.map digitByte ++ r) := by
    have := suffix_succ (r := (fs ++ t).map digitByte ++ r) hs
    rwa [List.map_append, List.append_assoc] at this
  have hfuel : fs.length < src.size + 1 := by
    have := chars_lt_fuel hs
    simp only [List.length_cons, List.length_append] at this
    omega
  unfold fractionPart
  rw [bind_run (read_eq src i), bind_run (eat_eq src i),
    bind_run (hgo _ src (i + 1) _ (ht.digitsEnd hr) hs1 hfuel)]
  dsimp only
  cases ov with
  | true =>
    -- the significand is full: the rest of the fraction is skipped
    rw [if_pos rfl, bind_run (skipDigits_digits (ht.digitsEnd hr) (fs.drop k) _ _
      (fun c hc => hfs.2 c (List.mem_of_mem_drop hc)) (suffix_drop hs1 hk)
      (by simp only [List.length_drop]; omega))]
    congr 1
    simp only [List.length_drop, List.length_cons]
    omega
  | false =>
    -- every digit went into the significand, so the exponent moved by their count
    obtain rfl := hov rfl
    have hpos : 0 < fs.length := List.length_pos_of_ne_nil hfs.1
    rw [if_neg (by decide), if_neg (by simp only [beq_iff_eq]; omega), List.length_cons,
      Nat.add_assoc, Nat.add_comm 1]

theorem numberTail_reads (p : Bool) (sig : Nat) {t : List Char} (ht : AfterInt t) :
    ReadsNumber (numberTail p sig) t := by
  cases ht with
  | tail ht =>
    cases ht with
    | stop =>
      refine ReadsNumber.of_settled (y := if p then pure (.nat sig)
        else if sig == 0 || sig > Nat.pow 2 63 then pure (.float (-(floatOfRatio false sig 1)))
        else pure (.negInt (-(sig : Int)))) ?_ fun src i r hr hs => ?_
      · split_ifs <;> exact settled_pure _
      · rw [List.map_nil, List.nil_append] at hs
        obtain ⟨x, hx, -, h46, h101, h69⟩ := peek_of_numberEnd (hs ▸ hr)
        unfold numberTail
        rw [bind_run hx]
        refine run_of_eq ?_
        -- the byte after the digits is neither a point nor an exponent mark
        split <;> simp_all
    | exp neg hds =>
      refine ((exponentPart_reads p sig 0 neg hds).bind fun f => settled_pure (JsonNumber.float f)).of_eq
        (u := []) fun src i r _ hs => ?_
      have hs' : suffix src i = 101 :: _ := hs
      unfold numberTail
      rw [bind_run (peek_of_suffix hs')]
      rfl
  | frac hfs ht =>
    refine ((fractionPart_reads p sig 0 hfs ht).bind fun f => settled_pure (JsonNumber.float f)).of_eq
      (u := []) fun src i r _ hs => ?_
    have hs' : suffix src i = 46 :: _ := hs
    unfold numberTail
    rw [bind_run (peek_of_suffix hs')]
    rfl

/-! ### Integer digits -/

/-- What follows the integer digits never continues them. -/
theorem AfterInt.digitsEnd {t : List Char} (ht : AfterInt t) {r : List UInt8} (hr : NumberEnd r) :
    DigitsEnd (t.map digitByte ++ r) := by
  cases ht with
  | tail ht => exact ht.digitsEnd hr
  | frac _ _ => exact digitsEnd_cons _ (by decide)

/-- Digits past 64 bits only raise the exponent; what follows them is read as after any
integer digits. -/
theorem longInteger_go_reads (p : Bool) (sig : Nat) {t : List Char} (ht : AfterInt t) :
    ∀ (cs : List Char) (e : Int), AllDigits cs →
      LoopReadsNumber (fun n => longInteger.go p sig n e) (cs ++ t) := by
  intro cs
  induction cs with
  | nil =>
    intro e _
    cases ht with
    | tail ht =>
      cases ht with
      | stop =>
        refine LoopReadsNumber.of_reads (y := JsonNumber.float <$> fromParts p sig e)
          (ReadsNumber.of_settled ((fromParts_settled p sig e).bind fun f => settled_pure _)
            fun src i r _ _ => rfl) fun n src i r hn hr hs => ?_
        obtain ⟨n, rfl⟩ : ∃ m, n = m + 1 := ⟨n - 1, by simp at hn; omega⟩
        rw [List.nil_append, List.map_nil, List.nil_append] at hs
        obtain ⟨x, hx, hd, h46, h101, h69⟩ := peek_of_numberEnd (hs ▸ hr)
        rw [longInteger.go, bind_run hx]
        refine run_of_app ?_
        -- the byte after the digits is neither a point, nor an exponent mark, nor a digit
        split
        next => exact absurd rfl h46
        next => exact absurd rfl h101
        next => exact absurd rfl h69
        next =>
          dsimp only
          rw [hd]
          rfl
      | exp neg hds =>
        refine LoopReadsNumber.of_reads ((exponentPart_reads p sig e neg hds).bind fun f =>
          settled_pure (JsonNumber.float f)) fun n src i r hn _ hs => ?_
        obtain ⟨n, rfl⟩ : ∃ m, n = m + 1 := ⟨n - 1, by simp at hn; omega⟩
        have hs' : suffix src i = 101 :: _ := hs
        rw [longInteger.go, bind_run (peek_of_suffix hs')]
        rfl
    | frac hfs ht =>
      refine LoopReadsNumber.of_reads ((fractionPart_reads p sig e hfs ht).bind fun f =>
        settled_pure (JsonNumber.float f)) fun n src i r hn _ hs => ?_
      obtain ⟨n, rfl⟩ : ∃ m, n = m + 1 := ⟨n - 1, by simp at hn; omega⟩
      have hs' : suffix src i = 46 :: _ := hs
      rw [longInteger.go, bind_run (peek_of_suffix hs')]
      rfl
  | cons c cs ih =>
    intro e hd
    have hc := hd c (List.mem_cons_self ..)
    refine (ih (e + 1) hd.tail).cons fun n src i r _ _ hs => ?_
    rw [List.map_cons, List.cons_append] at hs
    rw [longInteger.go, bind_run (peek_of_suffix hs)]
    refine run_of_app ?_
    -- a digit is neither a point nor an exponent mark
    split
    next heq => exact absurd (Option.some.inj heq) (digitByte_ne hc (by decide))
    next heq => exact absurd (Option.some.inj heq) (digitByte_ne hc (by decide))
    next heq => exact absurd (Option.some.inj heq) (digitByte_ne hc (by decide))
    next =>
      rw [digitOf?_digitByte hc]
      dsimp only
      rw [bind_run (eat_eq src i)]

theorem longInteger_reads (p : Bool) (sig : Nat) {cs t : List Char} (hcs : AllDigits cs)
    (ht : AfterInt t) : ReadsNumber (longInteger p sig) (cs ++ t) :=
  (longInteger_go_reads p sig ht cs 0 hcs).reads

/-- The integer digits go into the significand until it would pass 64 bits, and the reading
goes on from there. -/
theorem number_go_reads (p : Bool) {t : List Char} (ht : AfterInt t) :
    ∀ (cs : List Char) (s : Nat), AllDigits cs →
      LoopReadsNumber (fun n => number.go p n s) (cs ++ t) := by
  intro cs
  induction cs with
  | nil =>
    intro s _
    refine LoopReadsNumber.of_reads (numberTail_reads p s ht) fun n src i r hn hr hs => ?_
    obtain ⟨n, rfl⟩ : ∃ m, n = m + 1 := ⟨n - 1, by simp at hn; omega⟩
    rw [List.nil_append] at hs
    obtain ⟨x, hx, hd⟩ := peek_of_digitsEnd (hs ▸ ht.digitsEnd hr)
    rw [number.go, bind_run hx, hd]
  | cons c cs ih =>
    intro s hd
    have hc := hd c (List.mem_cons_self ..)
    by_cases hover : s * 10 + (c.toNat - 48) > u64Max
    · -- the significand is full: the digits left only raise the exponent
      refine LoopReadsNumber.of_reads (longInteger_reads p s hd ht) fun n src i r hn _ hs => ?_
      obtain ⟨n, rfl⟩ : ∃ m, n = m + 1 := ⟨n - 1, by simp at hn; omega⟩
      rw [List.cons_append, List.map_cons, List.cons_append] at hs
      rw [number.go, bind_run (peek_of_suffix hs), digitOf?_digitByte hc]
      dsimp only
      rw [if_pos hover]
    · refine (ih (s * 10 + (c.toNat - 48)) hd.tail).cons fun n src i r _ _ hs => ?_
      rw [List.map_cons, List.cons_append] at hs
      rw [number.go, bind_run (peek_of_suffix hs), digitOf?_digitByte hc]
      dsimp only
      rw [if_neg hover, bind_run (eat_eq src i)]

/-- The reader reads every number text in full, wherever it stands, and then settles. -/
theorem number_reads (p : Bool) {t : List Char} (ht : NumberChars t) : ReadsNumber (number p) t := by
  obtain ⟨hds, ha⟩ := ht
  rename_i ds a
  obtain ⟨c, rest, rfl⟩ := List.exists_cons_of_ne_nil hds.1
  have hc := hds.2 c (List.mem_cons_self ..)
  by_cases h0 : c = '0'
  · subst h0
    cases rest with
    | nil =>
      -- a lone zero, then what follows it
      refine (numberTail_reads p 0 ha).of_eq (u := ['0']) fun src i r hr hs => ?_
      have hs' : suffix src i = 48 :: (a.map digitByte ++ r) := hs
      obtain ⟨x, hx, hd⟩ := peek_of_digitsEnd (suffix_succ hs' ▸ ha.digitsEnd hr)
      unfold number
      rw [bind_run (read_eq src i), bind_run (next_of_suffix hs')]
      simp only
      rw [bind_run hx, hd]
      rfl
    | cons c' rest =>
      -- a zero followed by a digit is refused
      have hc' := hds.2 c' (List.mem_cons_of_mem _ (List.mem_cons_self ..))
      refine .inr fun src i r _ hs => ?_
      have hs' : suffix src i = 48 :: (digitByte c' :: ((rest ++ a).map digitByte ++ r)) := by
        rw [hs]
        simp only [List.cons_append, List.map_cons, List.map_append, List.append_assoc]
        rfl
      unfold number
      rw [bind_run (read_eq src i), bind_run (next_of_suffix hs')]
      simp only
      rw [bind_run (peek_of_suffix (suffix_succ hs')), digitOf?_digitByte hc']
      exact ⟨_, rfl⟩
  · -- a leading digit other than zero starts the significand
    refine ((number_go_reads p ha rest (c.toNat - 48) hds.2.tail).reads).of_eq (u := [c])
      fun src i r _ hs => ?_
    have hs' : suffix src i = digitByte c :: ((rest ++ a).map digitByte ++ r) := hs
    have h48 : digitByte c ≠ 48 := fun e => h0 (Char.toNat_inj.1 (by
      have ht := digitByte_toNat hc
      rw [e] at ht
      exact ht.symm))
    unfold number
    rw [bind_run (read_eq src i), bind_run (next_of_suffix hs')]
    refine run_of_eq ?_
    split
    next heq => cases heq
    next heq => exact absurd (Option.some.inj heq) h48
    next _ _ heq => rw [← Option.some.inj heq, digitOf?_digitByte hc]

/-! ### The texts the writer gives numbers -/

theorem isDigits_toDigits (n : Nat) : IsDigits (Nat.toDigits 10 n) := by
  obtain ⟨c, cs, hcs, -⟩ := toDigits_ten_cons n
  exact ⟨by simp [hcs], fun x hx => Nat.isDigit_of_mem_toDigits (by decide) (by decide) hx⟩

theorem IsDigits.append {a b : List Char} (ha : IsDigits a) (hb : AllDigits b) :
    IsDigits (a ++ b) :=
  ⟨by simp [ha.1], fun c hc => (List.mem_append.1 hc).elim (ha.2 c) (hb c)⟩

theorem allDigits_zeros (k : Nat) : AllDigits (List.replicate k '0') := fun c hc => by
  rw [List.eq_of_mem_replicate hc]
  rfl

theorem NumberChars.of_point {is fs : List Char} (his : IsDigits is) (hfs : IsDigits fs) :
    NumberChars (is ++ '.' :: fs) := by
  have := NumberChars.mk his (AfterInt.frac hfs ExpTail.stop)
  rwa [List.append_nil] at this

/-- Positional notation: digits, zeros and `.0`, or digits with a point among them, or `0.`,
zeros and the digits. -/
theorem numberChars_positional (d : Nat) (k : Int) :
    NumberChars (Decimal.positionalText true d k).toList := by
  have hds := isDigits_toDigits d
  unfold Decimal.positionalText Decimal.digitChars
  dsimp only
  generalize Nat.toDigits 10 d = ds at hds
  by_cases hk : 0 ≤ k
  · rw [if_pos hk]
    have h := NumberChars.of_point (hds.append (allDigits_zeros k.toNat))
      (show IsDigits ['0'] from ⟨by simp, allDigits_zeros 1⟩)
    simpa using h
  rw [if_neg hk]
  by_cases hw : 0 < (ds.length : Int) + k
  · -- the point falls inside the digits
    rw [if_pos hw]
    have hw' : 0 < ((ds.length : Int) + k).toNat := by omega
    have hw'' : ((ds.length : Int) + k).toNat < ds.length := by omega
    have h := NumberChars.of_point
      (show IsDigits (ds.take ((ds.length : Int) + k).toNat) from
        ⟨by simp [hds.1]; omega, fun c hc => hds.2 c (List.mem_of_mem_take hc)⟩)
      (show IsDigits (ds.drop ((ds.length : Int) + k).toNat) from
        ⟨by simp; omega, fun c hc => hds.2 c (List.mem_of_mem_drop hc)⟩)
    simpa using h
  · -- the point falls before the digits
    rw [if_neg hw]
    have h := NumberChars.of_point (show IsDigits ['0'] from ⟨by simp, allDigits_zeros 1⟩)
      (show IsDigits (List.replicate (-((ds.length : Int) + k)).toNat '0' ++ ds) from
        ⟨by simp [hds.1], fun c hc => (List.mem_append.1 hc).elim (allDigits_zeros _ c) (hds.2 c)⟩)
    simpa using h

theorem NumberChars.of_exp {is ds : List Char} (his : IsDigits is) (neg : Bool)
    (hds : IsDigits ds) : NumberChars (is ++ expChars neg ds) :=
  .mk his (.tail (.exp neg hds))

theorem NumberChars.of_point_exp {is fs ds : List Char} (his : IsDigits is) (hfs : IsDigits fs)
    (neg : Bool) (hds : IsDigits ds) : NumberChars (is ++ ('.' :: fs ++ expChars neg ds)) :=
  .mk his (.frac hfs (.exp neg hds))

/-- Scientific notation: one digit, the others after a point, then the exponent. -/
theorem numberChars_scientific (d : Nat) (k : Int) :
    NumberChars (Decimal.scientificText d k).toList := by
  unfold Decimal.scientificText Decimal.digitChars
  dsimp only
  generalize (((Nat.toDigits 10 d).length : Int) + k - 1) = e
  have hds := isDigits_toDigits d
  have hE := isDigits_toDigits e.natAbs
  generalize Nat.toDigits 10 d = ds at hds
  -- the sign of the exponent is a minus or nothing
  obtain ⟨neg, hneg⟩ : ∃ neg : Bool, (if e < 0 then "-" else "").toList = if neg then ['-'] else [] :=
    ⟨decide (e < 0), by by_cases he : e < 0 <;> simp [he]⟩
  rcases ds with _ | ⟨c, _ | ⟨c', rest⟩⟩
  · exact absurd rfl hds.1
  · have h := NumberChars.of_exp (show IsDigits [c] from ⟨by simp, hds.2⟩) neg hE
    simpa [expChars, hneg] using h
  · have h := NumberChars.of_point_exp
      (show IsDigits [c] from ⟨by simp, fun x hx => hds.2 x (by simp at hx; simp [hx])⟩)
      (show IsDigits (c' :: rest) from ⟨by simp, hds.2.tail⟩) neg hE
    simpa [expChars, hneg] using h

theorem numberChars_digits (d : Nat) (k : Int) :
    NumberChars (Decimal.Layout.json.digits d k).toList := by
  unfold Decimal.Layout.digits
  dsimp only [Decimal.Layout.json]
  split_ifs
  · exact numberChars_positional d k
  · exact numberChars_scientific d k

/-- A finite float is written as a minus sign or nothing, then a number text. -/
theorem numberChars_render (f : FloatFormat) (neg : Bool) (m : Nat) (q : Int) :
    ∃ u, NumberChars u ∧
      (Decimal.Layout.json.render f (.finite neg m q)).toList = (if neg then ['-'] else []) ++ u := by
  unfold Decimal.Layout.render
  dsimp only
  generalize (if (m == 0) = true then (0, 0) else Decimal.shortest f m q) = dk
  obtain ⟨d, k⟩ := dk
  refine ⟨_, numberChars_digits d k, ?_⟩
  cases neg <;> simp

/-- Every number is written as `null` (a float that is not finite), or as a minus sign or
nothing followed by a number text. -/
theorem numberText_chars (n : JsonNumber) :
    numberText n = "null" ∨
      ∃ (neg : Bool) (u : List Char), NumberChars u ∧ (numberText n).toList = (if neg then ['-'] else []) ++ u := by
  have hnat : ∀ m : Nat, ∃ u, NumberChars u ∧ (toString m).toList = u := fun m =>
    ⟨_, by simpa using NumberChars.mk (isDigits_toDigits m) (.tail .stop), toList_toString m⟩
  cases n with
  | nat m =>
    obtain ⟨u, hu, he⟩ := hnat m
    exact .inr ⟨false, u, hu, he⟩
  | negInt i =>
    cases i with
    | ofNat m =>
      obtain ⟨u, hu, he⟩ := hnat m
      exact .inr ⟨false, u, hu, he⟩
    | negSucc m =>
      obtain ⟨u, hu, he⟩ := hnat (m + 1)
      refine .inr ⟨true, u, hu, ?_⟩
      show ("-" ++ toString (m + 1)).toList = _
      rw [String.toList_append, he]
      rfl
  | float x =>
    rw [numberText]
    split
    · next neg m q hx =>
      obtain ⟨u, hu, he⟩ := numberChars_render FloatFormat.double neg m q
      refine .inr ⟨neg, u, hu, ?_⟩
      rw [Decimal.Layout.text64, hx, he]
    · exact .inl rfl
  | float32 x =>
    rw [numberText]
    split
    · next neg m q hx =>
      obtain ⟨u, hu, he⟩ := numberChars_render FloatFormat.single neg m q
      refine .inr ⟨neg, u, hu, ?_⟩
      rw [Decimal.Layout.text32, hx, he]
    · exact .inl rfl

/-! ### Numbers as values -/

theorem AllDigits.ascii {cs : List Char} (h : AllDigits cs) : ∀ c ∈ cs, c.toNat < 128 :=
  fun c hc => by have := digit_lt (h c hc); omega

theorem ExpTail.ascii {t : List Char} (h : ExpTail t) : ∀ c ∈ t, c.toNat < 128 := by
  cases h with
  | stop => nofun
  | exp neg hds =>
    intro c hc
    simp only [expChars, List.mem_cons, List.mem_append] at hc
    rcases hc with (rfl | hc) | hc
    · decide
    · cases neg <;> simp at hc
      subst hc
      decide
    · exact hds.2.ascii c hc

theorem NumberChars.ascii {t : List Char} (h : NumberChars t) : ∀ c ∈ t, c.toNat < 128 := by
  obtain ⟨hds, ha⟩ := h
  intro c hc
  rcases List.mem_append.1 hc with hc | hc
  · exact hds.2.ascii c hc
  · cases ha with
    | tail ht => exact ht.ascii c hc
    | frac hfs ht =>
      simp only [List.cons_append, List.mem_cons, List.mem_append] at hc
      rcases hc with rfl | hc | hc
      · decide
      · exact hfs.2.ascii c hc
      · exact ht.ascii c hc

/-- A number's text starts with a digit. -/
theorem NumberChars.head {t : List Char} (h : NumberChars t) :
    ∃ c t', t = c :: t' ∧ c.isDigit = true := by
  obtain ⟨hds, -⟩ := h
  obtain ⟨c, cs, hcs⟩ := List.exists_cons_of_ne_nil hds.1
  exact ⟨c, cs ++ _, by rw [hcs, List.cons_append], hds.2 c (hcs ▸ List.mem_cons_self ..)⟩

section Values

variable {src : ByteArray} {i F depth : Nat} {r : List UInt8}

/-- A value that starts with a minus sign or a digit is read as a number. -/
theorem value_of_numberChars {neg : Bool} {u : List Char} (hu : NumberChars u)
    (hs : suffix src i = ((if neg then ['-'] else []) ++ u).map digitByte ++ r) :
    value (F + 1) depth src i =
      (number (!neg) >>= fun m => pure (Json.num m)) src (i + (if neg then ['-'] else []).length) := by
  cases neg with
  | true =>
    have hs' : suffix src i = 45 :: (u.map digitByte ++ r) := hs
    rw [value.eq_2, bind_run (blanks_of_suffix hs' rfl)]
    simp only
    rw [bind_run (eat_eq src i)]
    rfl
  | false =>
    obtain ⟨c, u', rfl, hc⟩ := hu.head
    obtain ⟨hlo, hhi⟩ := digitByte_range hc
    have hs' : suffix src i = digitByte c :: (u'.map digitByte ++ r) := hs
    exact value_of_digit (blanks_of_suffix hs' (isBlankByte_digitByte hc)) hlo hhi

end Values

/-! ### Runs that end as an option says -/

/-- A run ends as `res` says: with that value and the offset `j` after it, or with a fault. -/
def Yields {α : Type} (run : Except Error (α × Nat)) (res : Option α) (j : Nat) : Prop :=
  match res with
  | some v => run = .ok (v, j)
  | none => ∃ e, run = .error e

section Yields

variable {α β : Type} {src : ByteArray} {i j k : Nat}

theorem Yields.bind {x : ReadM α} {f : α → ReadM β} {res : Option α} {g : α → Option β}
    (hx : Yields (x src i) res j) (hf : ∀ v, res = some v → Yields (f v src j) (g v) k) :
    Yields ((x >>= f) src i) (res.bind g) k := by
  cases res with
  | none =>
    obtain ⟨e, he⟩ := hx
    exact ⟨e, bind_run_error he⟩
  | some v =>
    show Yields _ (g v) k
    rw [bind_run hx]
    exact hf v rfl

/-- A run that goes on, after a value, to a step that cannot fail. -/
theorem Yields.map {x : ReadM α} {f : α → ReadM β} {res : Option α} {g : α → β}
    (hx : Yields (x src i) res j) (hf : ∀ v, f v src j = .ok (g v, k)) :
    Yields ((x >>= f) src i) (res.map g) k := by
  rw [Option.map_eq_bind]
  exact hx.bind fun v _ => hf v

end Yields

/-- The text of `j` reads, wherever it stands before something that cannot continue a number,
as `res` says: to that value, or to a fault. -/
def ReadsInPlace (j : Json) (res : Option Json) : Prop :=
  ∀ F depth src i r, NumberEnd r → suffix src i = bytesOf (compact j) ++ r →
    Yields (value (F + 1) depth src i) res (i + (bytesOf (compact j)).length)

/-- The bytes of a number's text: those of `null`, or of a sign and a number. -/
theorem bytesOf_compact_num (n : JsonNumber) :
    numberText n = "null" ∨ ∃ (neg : Bool) (u : List Char), NumberChars u ∧
      bytesOf (compact (.num n)) = ((if neg then ['-'] else []) ++ u).map digitByte := by
  refine (numberText_chars n).imp_right fun ⟨neg, u, hu, hchars⟩ => ⟨neg, u, hu, ?_⟩
  have hascii : ∀ c ∈ (compact (.num n)).toList, c.toNat < 128 := by
    intro c hc
    rw [show compact (.num n) = numberText n from rfl, hchars] at hc
    rcases List.mem_append.1 hc with hc | hc
    · cases neg <;> simp at hc
      subst hc
      decide
    · exact hu.ascii c hc
  rw [bytesOf_of_ascii hascii, show compact (.num n) = numberText n from rfl, hchars]
  rfl

/-- Every number the writer prints reads the same wherever it stands. -/
theorem readsInPlace_num (n : JsonNumber) : ∃ res, ReadsInPlace (.num n) res := by
  rcases bytesOf_compact_num n with hnull | ⟨neg, u, hu, hbytes⟩
  · -- a float that is not finite, written `null`
    refine ⟨some .null, fun F depth src i r _ hs => ?_⟩
    have hc : compact (.num n) = compact .null := hnull
    rw [hc] at hs ⊢
    exact value_null hs
  · -- the number after the sign reads its text and settles
    have hnum : ReadsNumber (number (!neg) >>= fun m => pure (Json.num m)) u :=
      (number_reads (!neg) hu).bind fun m => settled_pure _
    have hlen : (bytesOf (compact (.num n))).length = (if neg then ['-'] else []).length + u.length := by
      rw [hbytes, List.length_map, List.length_append]
    rcases hnum with ⟨v, hv⟩ | hnum
    · refine ⟨some v, fun F depth src i r hr hs => ?_⟩
      rw [hbytes] at hs
      show value (F + 1) depth src i = _
      rw [value_of_numberChars hu hs, hv _ _ r hr (suffix_after hs), hlen, Nat.add_assoc]
    · refine ⟨none, fun F depth src i r hr hs => ?_⟩
      rw [hbytes] at hs
      show ∃ e, value (F + 1) depth src i = _
      rw [value_of_numberChars hu hs]
      exact hnum _ _ r hr (suffix_after hs)

/-! ### Read alone and read in place -/

/-- What the compact text of a value reads as when it is the whole document. -/
def readAlone? (j : Json) : Option Json := (parseBytesAsWritten (compact j).toUTF8).toOption

/-- A document whose value reads to the end of its bytes reads as that value. -/
theorem document_of_yields {src : ByteArray} {res : Option Json}
    (h : Yields (value (src.size + 2) 0 src 0) res src.size) :
    ((document src 0).map (·.1)).toOption = res := by
  cases res with
  | some v =>
    -- nothing but the end follows the value
    have hfin : finish src src.size = .ok ((), src.size) := by
      have hend : suffix src src.size = [] := by
        rw [suffix, List.drop_eq_nil_iff, Array.length_toList]
        rfl
      have hb : blanks src src.size = .ok (none, src.size + 0) := by
        rw [blanks_eq]
        exact skipBlanks_spaces 0 _ _ hend (by omega)
      rw [finish, bind_run hb]
      rfl
    rw [document, bind_run (read_eq src 0), bind_run h, bind_run hfin]
    rfl
  | none =>
    obtain ⟨e, he⟩ := h
    rw [document, bind_run (read_eq src 0), bind_run_error he]
    rfl

/-- A text that reads the same wherever it stands reads so as a document of its own. -/
theorem ReadsInPlace.readAlone {j : Json} {res : Option Json} (h : ReadsInPlace j res) :
    readAlone? j = res := by
  let src := (compact j).toUTF8
  have h0 : suffix src 0 = bytesOf (compact j) ++ [] := by simp [suffix, src, bytesOf]
  have hsize : src.size = (bytesOf (compact j)).length := by rw [bytesOf, Array.length_toList]; rfl
  have hv := h (src.size + 1) 0 src 0 [] numberEnd_nil h0
  rw [Nat.zero_add, ← hsize] at hv
  exact document_of_yields hv

/-- A text that reads the same wherever it stands reads there as it reads alone. -/
theorem ReadsInPlace.alone {j : Json} {res : Option Json} (h : ReadsInPlace j res) :
    ReadsInPlace j (readAlone? j) := by
  rwa [h.readAlone]

theorem readsInPlace_null : ReadsInPlace .null (some .null) :=
  fun _ _ _ _ _ _ hs => value_null hs

theorem readsInPlace_bool (b : Bool) : ReadsInPlace (.bool b) (some (.bool b)) :=
  fun _ _ _ _ _ _ hs => value_bool b hs

theorem readsInPlace_nat {n : Nat} (hn : n ≤ u64Max) : ReadsInPlace (.num (.nat n)) (some (.num (.nat n))) :=
  fun _ _ _ _ _ hr h => value_nat hn h hr

theorem readsInPlace_str {s : String} (hs : s.toList.all plainChar = true) :
    ReadsInPlace (.str s) (some (.str s)) :=
  fun _ _ _ _ _ _ h => value_str hs h

/-- A number reads in place as its text reads alone. -/
theorem readsInPlace_num_readAlone (n : JsonNumber) : ReadsInPlace (.num n) (readAlone? (.num n)) :=
  (readsInPlace_num n).choose_spec.alone

end LowRankTuner.Json
