import Mathlib
import LowRankTuner.Tensor.Element
/-!
# Single-precision facts behind the loss

Lean's `Float32` has a logical model: a float unpacks into a NaN, a signed infinity, a signed
zero, or a finite sign, mantissa and exponent, and every arithmetic operation is the operation
on unpacked values, rounded, then packed.  This module proves what the training loss needs of
that model.

* A NaN absorbs every sum and product it enters, and negative infinity less anything is negative
  infinity or NaN.
* A product with zero is a zero exactly when the other factor is finite, and NaN otherwise: a
  masked term vanishes only when its log-probability is finite.
* Counting by adding one from zero gives zero exactly when nothing was counted.  A float of at
  least one stays at least one when zero or one is added to it (`AtLeastOne`); rounding a sum of
  at least one never reaches zero.
-/

open Float.Model Float.Model.UnpackedFloat

namespace LowRankTuner.SinglePrecision

/-- The unpacked value of a single-precision float. -/
def unpacked (x : Float32) : UnpackedFloat := x.toModel.unpack

/-- An unpacked result as it reads back once packed into single precision. -/
def repack (u : UnpackedFloat) : UnpackedFloat := (Float32.Model.pack u).unpack

theorem unpacked_add (x y : Float32) :
    unpacked (x + y) = repack (UnpackedFloat.add .binary32 (unpacked x) (unpacked y)) := rfl

theorem unpacked_sub (x y : Float32) :
    unpacked (x - y) = repack (UnpackedFloat.sub .binary32 (unpacked x) (unpacked y)) := rfl

theorem unpacked_mul (x y : Float32) :
    unpacked (x * y) = repack (UnpackedFloat.mul .binary32 (unpacked x) (unpacked y)) := rfl

@[simp] theorem unpacked_zero : unpacked 0 = .zero .positive := rfl

@[simp] theorem unpacked_one : unpacked 1 = .finite .positive (2 ^ 23) (-23) (Nat.two_pow_pos 23) :=
  rfl

@[simp] theorem repack_notANumber : repack .notANumber = .notANumber := rfl

@[simp] theorem repack_infinity (s : Sign) : repack (.infinity s) = .infinity s := by
  cases s <;> rfl

@[simp] theorem repack_zero (s : Sign) : repack (.zero s) = .zero s := by
  cases s <;> rfl

theorem isNaN_iff (x : Float32) : x.isNaN = true ↔ unpacked x = .notANumber := by
  change (unpacked x).isNaN = true ↔ _
  cases unpacked x <;> simp [UnpackedFloat.isNaN]

theorem isFinite_eq (x : Float32) : x.isFinite = (unpacked x).isFinite := rfl

/-! ## NaN and infinity -/

theorem isNaN_add_left {x : Float32} (y : Float32) (hx : x.isNaN = true) :
    (x + y).isNaN = true := by
  rw [isNaN_iff] at hx ⊢
  rw [unpacked_add, hx]
  simp only [UnpackedFloat.add, repack_notANumber]

theorem isNaN_add_right (x : Float32) {y : Float32} (hy : y.isNaN = true) :
    (x + y).isNaN = true := by
  rw [isNaN_iff] at hy ⊢
  rw [unpacked_add, hy]
  cases unpacked x <;> simp only [UnpackedFloat.add, repack_notANumber]

theorem isNaN_mul_left {x : Float32} (y : Float32) (hx : x.isNaN = true) :
    (x * y).isNaN = true := by
  rw [isNaN_iff] at hx ⊢
  rw [unpacked_mul, hx]
  simp only [UnpackedFloat.mul, repack_notANumber]

/-- Negative infinity less anything is negative infinity, or NaN when the other operand is
NaN or negative infinity itself. -/
theorem sub_of_negInfinity {x : Float32} (hx : unpacked x = .infinity .negative) (y : Float32) :
    unpacked (x - y) = .infinity .negative ∨ unpacked (x - y) = .notANumber := by
  rw [unpacked_sub, hx]
  cases unpacked y with
  | notANumber => exact .inr (by simp only [UnpackedFloat.sub, repack_notANumber])
  | infinity s =>
    cases s with
    | negative =>
      -- `-∞ - -∞` has no value
      have hne : (Sign.negative == -Sign.negative) = false := rfl
      exact .inr (by simp [UnpackedFloat.sub, hne])
    | positive =>
      have heq : (Sign.negative == -Sign.positive) = true := rfl
      exact .inl (by simp [UnpackedFloat.sub, heq])
  | zero s => exact .inl (by simp only [UnpackedFloat.sub, repack_infinity])
  | finite s m e h => exact .inl (by simp only [UnpackedFloat.sub, repack_infinity])

theorem isFinite_sub_of_negInfinity {x : Float32} (hx : unpacked x = .infinity .negative)
    (y : Float32) : (x - y).isFinite = false := by
  rw [isFinite_eq]
  rcases sub_of_negInfinity hx y with h | h <;> rw [h] <;> rfl

/-! ## Products with zero -/

/-- A product with zero is a zero exactly when the other factor is finite. -/
theorem mul_zero_beq_zero (x : Float32) : (x * 0 == 0) = x.isFinite := by
  change UnpackedFloat.beq (unpacked (x * 0)) (unpacked 0) = (unpacked x).isFinite
  rw [unpacked_mul, unpacked_zero]
  cases unpacked x with
  | notANumber => rfl
  | infinity s => simp only [UnpackedFloat.mul, repack_notANumber]; rfl
  | zero s => cases s <;> rfl
  | finite s m e h => simp only [UnpackedFloat.mul, repack_zero]; rfl

/-- A product with zero is NaN exactly when the other factor is infinite or NaN. -/
theorem isNaN_mul_zero (x : Float32) : (x * 0).isNaN = !x.isFinite := by
  change (unpacked (x * 0)).isNaN = !(unpacked x).isFinite
  rw [unpacked_mul, unpacked_zero]
  cases unpacked x with
  | notANumber => rfl
  | infinity s => simp only [UnpackedFloat.mul, repack_notANumber]; rfl
  | zero s => cases s <;> rfl
  | finite s m e h => simp only [UnpackedFloat.mul, repack_zero]; rfl

/-! ## Rounding a normal mantissa -/

theorem shift_mantissa (em : ExtendedMantissa) (k : Nat) :
    (em >>> k).mantissa = em.mantissa / 2 ^ k := by
  induction k generalizing em with
  | zero => simp [HShiftRight.hShiftRight, Nat.repeat]
  | succ k ih =>
    change ((em >>> k).mantissa / 2) = _
    rw [ih, Nat.div_div_eq_div_mul, Nat.pow_succ]

theorem roundedMantissa_bounds (em : ExtendedMantissa) :
    em.mantissa ≤ em.roundedMantissa ∧ em.roundedMantissa ≤ em.mantissa + 1 := by
  rcases em with ⟨m, r, s⟩
  -- a tie adds the mantissa's last bit; the other cases add nothing or one
  cases r <;> cases s <;>
    (simp only [ExtendedMantissa.roundedMantissa, ExtendedMantissa.accuracy,
      Accuracy.roundToNearestEven]; omega)

/-- Exactly aligning a mantissa of `24 + k` bits drops its `k` lowest bits. -/
theorem shiftToTarget_of_normal (M : Nat) (E : Int) (hM : 2 ^ 23 ≤ M) (hE : -149 ≤ E) :
    shiftToTargetExponent .binary32 M E .exact =
      (ExtendedMantissa.mk M false false >>> (M.log2 - 23), E + (M.log2 - 23 : Nat)) := by
  have hlog : 23 ≤ M.log2 := (Nat.le_log2 (by omega)).mpr hM
  have htarget : Format.binary32.targetExponent (totalExponent M E) = E + (M.log2 - 23 : Nat) := by
    simp only [Format.targetExponent, totalExponent, Format.mantissaBits, Format.minExponent]
    omega
  simp only [shiftToTargetExponent, shiftToExponent, htarget,
    ExtendedMantissa.ofMantissaAndAccuracy]
  congr 2 <;> omega

/-- The mantissa of `24 + k` bits, less its `k` lowest bits, has 24 bits. -/
theorem div_log2_bounds (M : Nat) (hM : 2 ^ 23 ≤ M) :
    2 ^ 23 ≤ M / 2 ^ (M.log2 - 23) ∧ M / 2 ^ (M.log2 - 23) < 2 ^ 24 := by
  have hlog : 23 ≤ M.log2 := (Nat.le_log2 (by omega)).mpr hM
  constructor
  · rw [Nat.le_div_iff_mul_le (Nat.two_pow_pos _), ← Nat.pow_add,
      show 23 + (M.log2 - 23) = M.log2 by omega]
    exact Nat.log2_self_le (by omega)
  · rw [Nat.div_lt_iff_lt_mul (Nat.two_pow_pos _), ← Nat.pow_add,
      show 24 + (M.log2 - 23) = M.log2 + 1 by omega]
    exact Nat.lt_log2_self

/-- Aligning a mantissa of 24 or 25 bits keeps 24 of them. -/
theorem shiftToTarget_bounds (r : Nat) (E : Int) (hr : 2 ^ 23 ≤ r) (hE : -149 ≤ E) :
    2 ^ 23 ≤ (shiftToTargetExponent .binary32 r E .exact).1.mantissa ∧
      (shiftToTargetExponent .binary32 r E .exact).1.mantissa < 2 ^ 24 ∧
      E ≤ (shiftToTargetExponent .binary32 r E .exact).2 := by
  rw [shiftToTarget_of_normal r E hr hE, shift_mantissa]
  have hb := div_log2_bounds r hr
  exact ⟨hb.1, hb.2, by omega⟩

/-- Rounding a positive mantissa of at least 24 bits at an exponent above the subnormal floor
gives a normal positive float, never zero, whose exponent is at least the given one. -/
theorem roundWithAccuracy_normal (M : Nat) (E : Int) (hM : 2 ^ 23 ≤ M) (hE : -149 ≤ E) :
    ∃ fm fe h, roundWithAccuracy .binary32 .positive M E .exact = .finite .positive fm fe h ∧
      2 ^ 23 ≤ fm ∧ fm < 2 ^ 24 ∧ E ≤ fe := by
  have hq := div_log2_bounds M hM
  have hr := roundedMantissa_bounds (ExtendedMantissa.mk M false false >>> (M.log2 - 23))
  rw [shift_mantissa] at hr
  -- the first alignment drops the low bits; rounding them up may carry into a 25th bit,
  -- which the second alignment drops again
  have hfinal := shiftToTarget_bounds
    (ExtendedMantissa.mk M false false >>> (M.log2 - 23)).roundedMantissa
    (E + (M.log2 - 23 : Nat)) (by simp only at hr; omega) (by omega)
  simp only [roundWithAccuracy, shiftToTarget_of_normal M E hM hE]
  split
  · omega
  · exact ⟨_, _, Nat.lt_of_lt_of_le (Nat.two_pow_pos 23) hfinal.1, rfl, hfinal.1, hfinal.2.1,
      by omega⟩

/-- Rounding a positive integer of at least 24 bits keeps it normal and nonzero. -/
theorem round_normal (M : Nat) (E : Int) (hM : 2 ^ 23 ≤ M) (hE : -149 ≤ E) :
    ∃ fm fe h, UnpackedFloat.round .binary32 .positive M E = .finite .positive fm fe h ∧
      2 ^ 23 ≤ fm ∧ fm < 2 ^ 24 ∧ E ≤ fe := by
  have hlog : 23 ≤ M.log2 := (Nat.le_log2 (by omega)).mpr hM
  have htarget : (E - Format.binary32.targetExponent (totalExponent M E)).toNat = 0 := by
    simp only [Format.targetExponent, totalExponent, Format.mantissaBits, Format.minExponent]
    omega
  simp only [UnpackedFloat.round, UnpackedFloat.decreaseExponent, htarget, Nat.shiftLeft_zero,
    Int.cast_ofNat_Int, Int.sub_zero]
  exact roundWithAccuracy_normal M E hM hE

theorem unpackSign_packComponents (s : Sign) (e : BitVec 8) (m : BitVec 23) :
    unpackSign (packComponents .binary32 s e m) = s.toBitVec := by
  ext i hi
  obtain rfl : i = 0 := by omega
  cases s <;> simp [unpackSign, packComponents, Sign.toBitVec] <;>
    rw [BitVec.getLsbD_append, BitVec.getLsbD_append] <;> simp

theorem repack_eq (u : UnpackedFloat) : repack u = UnpackedFloat.unpack .binary32 (UnpackedFloat.pack .binary32 u) := by
  simp [repack, Float32.Model.pack, Float32.Model.unpack]

/-- A normal float in range packs and unpacks to itself. -/
theorem repack_normal (s : Sign) (m : Nat) (e : Int) (h : 0 < m) (hm : 2 ^ 23 ≤ m)
    (hm' : m < 2 ^ 24) (he : -149 ≤ e) (he' : e ≤ 104) :
    repack (.finite s m e h) = .finite s m e h := by
  have hlog : m.log2 = 23 := (Nat.log2_eq_iff (by omega)).mpr ⟨hm, hm'⟩
  rw [repack_eq]
  simp only [UnpackedFloat.pack, hlog, Format.exponentBias, Format.mantissaBits, Nat.reducePow,
    Nat.reduceSub, Nat.reduceAdd]
  rw [if_neg (by omega), if_pos trivial]
  have hexp : (BitVec.ofNat 8 (e + ((127 : Nat) : Int) + ((23 : Nat) : Int)).toNat).toNat = (e + 150).toNat := by
    rw [BitVec.toNat_ofNat]
    omega
  have hman : (BitVec.ofNat 23 m).toNat = m - 2 ^ 23 := by
    rw [BitVec.toNat_ofNat]
    omega
  have hne1 : BitVec.ofNat 8 (e + ((127 : Nat) : Int) + ((23 : Nat) : Int)).toNat ≠ -1#8 := by
    intro heq
    have := congrArg BitVec.toNat heq
    simp only [hexp, BitVec.toNat_neg, BitVec.toNat_ofNat] at this
    omega
  have hne0 : BitVec.ofNat 8 (e + ((127 : Nat) : Int) + ((23 : Nat) : Int)).toNat ≠ 0#8 := by
    intro heq
    have := congrArg BitVec.toNat heq
    simp only [hexp, BitVec.toNat_ofNat] at this
    omega
  have hsign : Sign.ofBitVec s.toBitVec = s := by cases s <;> rfl
  have hmant : (1#1 ++ BitVec.ofNat 23 m).toNat = m := by
    rw [BitVec.toNat_append, hman, ← Nat.shiftLeft_add_eq_or_of_lt (by omega)]
    simp only [BitVec.toNat_ofNat, Nat.shiftLeft_eq]
    omega
  have hexp' : ((BitVec.ofNat 8 (e + ((127 : Nat) : Int) + ((23 : Nat) : Int)).toNat).toNat : Int) -
      (Format.binary32.exponentBias + ((23 : Nat) : Int)) = e := by
    rw [hexp]
    simp only [Format.exponentBias, Nat.reducePow, Nat.reduceSub]
    omega
  simp only [UnpackedFloat.unpack, unpackExponent_packComponents, unpackMantissa_packComponents,
    unpackSign_packComponents, hsign]
  rw [if_neg hne1, if_neg hne0]
  simp only [hmant, hexp']

/-- A normal float past the largest exponent packs to an infinity. -/
theorem repack_overflow (s : Sign) (m : Nat) (e : Int) (h : 0 < m) (he : 105 ≤ e) :
    repack (.finite s m e h) = .infinity s := by
  have hover : 2 ^ Format.binary32.exponentBits ≤ (e + ↑Format.binary32.exponentBias +
      ↑Format.binary32.mantissaBitsWithoutImplicit).toNat + 1 := by
    show 256 ≤ (e + 127 + 23).toNat + 1
    omega
  rw [repack_eq]
  simp only [UnpackedFloat.pack, if_pos hover]
  cases s <;> rfl

/-! ## Counting by ones -/

/-- At least one: a normal positive float whose exponent is at least that of one, or positive
infinity. -/
def AtLeastOne (u : UnpackedFloat) : Prop :=
  u = .infinity .positive ∨
    ∃ m e h, u = .finite .positive m e h ∧ 2 ^ 23 ≤ m ∧ m < 2 ^ 24 ∧ -23 ≤ e ∧ e ≤ 104

theorem atLeastOne_one : AtLeastOne (unpacked 1) :=
  .inr ⟨_, _, _, unpacked_one, Nat.le_refl _, Nat.pow_lt_pow_right (by decide) (by decide),
    Int.le_refl _, by decide⟩

/-- A normal positive float of exponent at least that of one reads back at least one, whether
it fits or overflows. -/
theorem atLeastOne_repack (m : Nat) (e : Int) (h : 0 < m) (hm : 2 ^ 23 ≤ m) (hm' : m < 2 ^ 24)
    (he : -23 ≤ e) : AtLeastOne (repack (.finite .positive m e h)) := by
  by_cases hbig : 105 ≤ e
  · exact .inl (repack_overflow .positive m e h hbig)
  · rw [repack_normal .positive m e h hm hm' (by omega) (by omega)]
    exact .inr ⟨m, e, h, rfl, hm, hm', he, by omega⟩

/-- Adding one to a normal positive float of exponent at least `-23` adds its mantissa, shifted
to the exponent of one, to the mantissa of one, and rounds. -/
theorem add_finite_one (m : Nat) (e : Int) (h : 0 < m) (he : -23 ≤ e) :
    UnpackedFloat.add .binary32 (.finite .positive m e h) (unpacked 1) =
      UnpackedFloat.round .binary32 .positive (m * 2 ^ (e + 23).toNat + 2 ^ 23) (-23) := by
  have hmin : min e (-23) = -23 := by omega
  have hpos : (0 : Int) < ↑(m * 2 ^ (e + 23).toNat) + ↑(2 ^ 23 : Nat) := by omega
  simp only [unpacked_one, UnpackedFloat.add, UnpackedFloat.decreaseExponent,
    UnpackedFloat.normalize, Sign.apply, hmin,
    Int.sub_self, Int.toNat_zero, Nat.shiftLeft_eq, show e - -23 = e + 23 by omega]
  rw [Int.compare_eq_gt.mpr (by simpa using hpos)]
  congr 1

theorem AtLeastOne.add_zero {x : Float32} (hx : AtLeastOne (unpacked x)) :
    AtLeastOne (unpacked (x + 0)) := by
  rw [unpacked_add, unpacked_zero]
  rcases hx with hinf | ⟨m, e, h, hu, hm, hm', he, he'⟩
  · rw [hinf]
    exact .inl (by simp only [UnpackedFloat.add, repack_infinity])
  · rw [hu]
    -- adding a zero leaves a finite float as it is
    have hsum : UnpackedFloat.add .binary32 (.finite .positive m e h) (.zero .positive) =
        .finite .positive m e h := by simp only [UnpackedFloat.add]
    rw [hsum]
    exact atLeastOne_repack m e h hm hm' he

theorem AtLeastOne.add_one {x : Float32} (hx : AtLeastOne (unpacked x)) :
    AtLeastOne (unpacked (x + 1)) := by
  rw [unpacked_add]
  rcases hx with hinf | ⟨m, e, h, hu, hm, -, he, -⟩
  · rw [hinf]
    exact .inl (by simp only [unpacked_one, UnpackedFloat.add, repack_infinity])
  · rw [hu, add_finite_one m e h he]
    obtain ⟨fm, fe, hf, hround, hfm, hfm', hfe⟩ :=
      round_normal (m * 2 ^ (e + 23).toNat + 2 ^ 23) (-23) (by omega) (by omega)
    rw [hround]
    exact atLeastOne_repack fm fe hf hfm hfm' hfe

theorem AtLeastOne.beq_zero {x : Float32} (hx : AtLeastOne (unpacked x)) : (x == 0) = false := by
  change UnpackedFloat.beq (unpacked x) (unpacked 0) = false
  rcases hx with hinf | ⟨m, e, h, hu, -⟩
  · rw [hinf]
    rfl
  · rw [hu]
    rfl

/-- One step of counting set flags in single precision. -/
def countStep (acc : Float32) (k : Bool) : Float32 := acc + if k then 1 else 0

theorem AtLeastOne.foldl_countStep {a : Float32} (ha : AtLeastOne (unpacked a)) (ks : List Bool) :
    AtLeastOne (unpacked (ks.foldl countStep a)) := by
  induction ks generalizing a with
  | nil => exact ha
  | cons k ks ih =>
    cases k with
    | true => exact ih ha.add_one
    | false => exact ih ha.add_zero

/-- Counting set flags in single precision from zero gives zero exactly when no flag is set, how
many flags there are notwithstanding. -/
theorem foldl_countStep_beq_zero (ks : List Bool) :
    (ks.foldl countStep 0 == 0) = !ks.contains true := by
  induction ks with
  | nil => rfl
  | cons k ks ih =>
    cases k with
    | false =>
      have hzero : countStep 0 false = 0 := rfl
      simpa only [List.foldl_cons, hzero, List.contains_cons, Bool.true_beq, Bool.false_or]
        using ih
    | true =>
      have hone : countStep 0 true = 1 := rfl
      simp only [List.foldl_cons, hone, List.contains_cons, Bool.true_beq, Bool.true_or]
      rw [(atLeastOne_one.foldl_countStep ks).beq_zero]
      rfl

end LowRankTuner.SinglePrecision
