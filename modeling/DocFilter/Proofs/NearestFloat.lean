import DocFilter.Proofs.FloatValue

/-!
# Integers as floats

A float has 53 binary digits, so an integer of more digits is rounded when it becomes one. The
rounding is that of `roundedQuotient`: what is cut off is less than half, half or more than half of
a unit, and half goes to the even side. `nearestNat` cuts a natural number off after its first 53
digits. It keeps the order (`nearestNat_mono`) and leaves alone what has no more digits
(`nearestNat_mul_pow`).

The model of floats gets there in three steps, and `IsNormal` is what each of them hands on to the
next: a mantissa of 53 digits, an exponent that is not too small, and the number that they make.
Rounding makes such a float (`isNormal_roundWithAccuracy`), a product with one leaves it as it is
(`IsNormal.mul_one`), and packing forgets nothing of it (`IsNormal.unpack_pack`).

> `floatValue?_ofInt`: an integer is turned into the float that is `nearestInt` of it.

> `nearestInt_nearest`: no other float is nearer to the integer.
-/

namespace DocFilter

/-! ## Rounding to a multiple of a power of two -/

/-- `n / 2 ^ bits` as an integer: the nearest one, and of two that are as near the even one. -/
def roundedQuotient (n bits : Nat) : Nat :=
  n / 2 ^ bits +
    match compare (2 * (n % 2 ^ bits)) (2 ^ bits) with
    | .lt => 0
    | .eq => n / 2 ^ bits % 2
    | .gt => 1

theorem roundedQuotient_of_lt {n bits : Nat} (h : 2 * (n % 2 ^ bits) < 2 ^ bits) :
    roundedQuotient n bits = n / 2 ^ bits := by
  rw [roundedQuotient, Nat.compare_eq_lt.mpr h, Nat.add_zero]

theorem roundedQuotient_of_eq {n bits : Nat} (h : 2 * (n % 2 ^ bits) = 2 ^ bits) :
    roundedQuotient n bits = n / 2 ^ bits + n / 2 ^ bits % 2 := by
  rw [roundedQuotient, Nat.compare_eq_eq.mpr h]

theorem roundedQuotient_of_gt {n bits : Nat} (h : 2 ^ bits < 2 * (n % 2 ^ bits)) :
    roundedQuotient n bits = n / 2 ^ bits + 1 := by
  rw [roundedQuotient, Nat.compare_eq_gt.mpr h]

/-- A multiple is divided without rounding. -/
theorem roundedQuotient_mul (n bits : Nat) : roundedQuotient (n * 2 ^ bits) bits = n := by
  have hpos : 0 < 2 ^ bits := Nat.two_pow_pos bits
  rw [roundedQuotient_of_lt (by rw [Nat.mul_mod_left]; exact hpos), Nat.mul_div_cancel _ hpos]

theorem roundedQuotient_zero (n : Nat) : roundedQuotient n 0 = n := by
  have h := roundedQuotient_mul n 0
  rwa [Nat.pow_zero, Nat.mul_one] at h

/-- What both sides have in common makes no difference. -/
theorem roundedQuotient_mul_add (n bits more : Nat) :
    roundedQuotient (n * 2 ^ more) (bits + more) = roundedQuotient n bits := by
  have hpos : 0 < 2 ^ more := Nat.two_pow_pos more
  have hdiv : n * 2 ^ more / 2 ^ (bits + more) = n / 2 ^ bits := by
    rw [Nat.pow_add, Nat.mul_div_mul_right _ _ hpos]
  have hmod : 2 * (n * 2 ^ more % 2 ^ (bits + more)) = 2 * (n % 2 ^ bits) * 2 ^ more := by
    rw [Nat.pow_add, Nat.mul_mod_mul_right, Nat.mul_assoc]
  rcases Nat.lt_trichotomy (2 * (n % 2 ^ bits)) (2 ^ bits) with hlt | heq | hgt
  · rw [roundedQuotient_of_lt hlt, roundedQuotient_of_lt, hdiv]
    rw [hmod, Nat.pow_add]
    exact Nat.mul_lt_mul_of_pos_right hlt hpos
  · rw [roundedQuotient_of_eq heq, roundedQuotient_of_eq, hdiv]
    rw [hmod, Nat.pow_add, heq]
  · rw [roundedQuotient_of_gt hgt, roundedQuotient_of_gt, hdiv]
    rw [hmod, Nat.pow_add]
    exact Nat.mul_lt_mul_of_pos_right hgt hpos

theorem div_le_roundedQuotient (n bits : Nat) : n / 2 ^ bits ≤ roundedQuotient n bits :=
  Nat.le_add_right _ _

theorem roundedQuotient_le (n bits : Nat) : roundedQuotient n bits ≤ n / 2 ^ bits + 1 := by
  have hbit : n / 2 ^ bits % 2 ≤ 1 := Nat.le_of_lt_succ (Nat.mod_lt _ Nat.two_pos)
  rw [roundedQuotient]
  refine Nat.add_le_add_left ?_ _
  split
  · exact Nat.zero_le 1
  · exact hbit
  · exact Nat.le_refl 1

/-- Rounding keeps the order. -/
theorem roundedQuotient_mono {m n : Nat} (bits : Nat) (h : m ≤ n) :
    roundedQuotient m bits ≤ roundedQuotient n bits := by
  rcases Nat.lt_or_eq_of_le (Nat.div_le_div_right (c := 2 ^ bits) h) with hlt | heq
  · exact (roundedQuotient_le m bits).trans (Nat.le_trans hlt (div_le_roundedQuotient n bits))
  · -- with the same quotient, the greater number has the greater remainder
    have hm := Nat.div_add_mod m (2 ^ bits)
    have hn := Nat.div_add_mod n (2 ^ bits)
    rw [heq] at hm
    have hrest : m % 2 ^ bits ≤ n % 2 ^ bits := by omega
    rcases Nat.lt_trichotomy (2 * (m % 2 ^ bits)) (2 ^ bits) with hlt | hhalf | hgt
    · rw [roundedQuotient_of_lt hlt, heq]
      exact div_le_roundedQuotient n bits
    · rw [roundedQuotient_of_eq hhalf, heq]
      rcases Nat.lt_or_eq_of_le hrest with hless | hsame
      · rw [roundedQuotient_of_gt (n := n) (by omega)]
        omega
      · rw [roundedQuotient_of_eq (n := n) (by omega)]
    · rw [roundedQuotient_of_gt hgt, roundedQuotient_of_gt (n := n) (by omega), heq]

/-- A rounded quotient is off by half at most. -/
theorem two_mul_roundedQuotient_le (n bits : Nat) :
    2 * (roundedQuotient n bits * 2 ^ bits) ≤ 2 * n + 2 ^ bits ∧
      2 * n ≤ 2 * (roundedQuotient n bits * 2 ^ bits) + 2 ^ bits := by
  have hn := Nat.div_add_mod n (2 ^ bits)
  rw [Nat.mul_comm] at hn
  rcases Nat.lt_trichotomy (2 * (n % 2 ^ bits)) (2 ^ bits) with hlt | heq | hgt
  · rw [roundedQuotient_of_lt hlt]
    omega
  · rw [roundedQuotient_of_eq heq, Nat.add_mul]
    rcases Nat.mod_two_eq_zero_or_one (n / 2 ^ bits) with h | h <;> rw [h] <;> omega
  · have hlt := Nat.mod_lt n (Nat.two_pow_pos bits)
    rw [roundedQuotient_of_gt hgt, Nat.add_mul]
    omega

/-- No multiple is nearer. -/
theorem roundedQuotient_nearest (n bits k : Nat) :
    ((n : Int) - (roundedQuotient n bits * 2 ^ bits : Nat)).natAbs ≤
      ((n : Int) - (k * 2 ^ bits : Nat)).natAbs := by
  obtain ⟨hbelow, habove⟩ := two_mul_roundedQuotient_le n bits
  rcases Nat.lt_trichotomy k (roundedQuotient n bits) with hlt | rfl | hgt
  · have hstep := Nat.mul_le_mul_right (2 ^ bits) (Nat.succ_le_of_lt hlt)
    rw [Nat.succ_mul] at hstep
    omega
  · exact Nat.le_refl _
  · have hstep := Nat.mul_le_mul_right (2 ^ bits) (Nat.succ_le_of_lt hgt)
    rw [Nat.succ_mul] at hstep
    omega

/-! ## Rounding to 53 digits -/

theorem log2_mul_pow {n : Nat} (hne : n ≠ 0) (bits : Nat) :
    (n * 2 ^ bits).log2 = n.log2 + bits := by
  have hpos := Nat.two_pow_pos bits
  refine (Nat.log2_eq_iff (Nat.mul_ne_zero hne (Nat.ne_of_gt hpos))).mpr ⟨?_, ?_⟩
  · rw [Nat.pow_add]
    exact Nat.mul_le_mul_right _ (Nat.log2_self_le hne)
  · rw [Nat.add_right_comm, Nat.pow_add]
    exact Nat.mul_lt_mul_of_pos_right Nat.lt_log2_self hpos

theorem log2_of_full {n : Nat} (hle : 2 ^ 52 ≤ n) (hlt : n < 2 ^ 53) : n.log2 = 52 :=
  (Nat.log2_eq_iff (by omega)).mpr ⟨hle, hlt⟩

section
variable {n bits : Nat} (h : n.log2 = 52 + bits)
include h

theorem le_roundedQuotient_of_log2 : 2 ^ 52 ≤ roundedQuotient n bits := by
  have hne : n ≠ 0 := fun h0 => by
    rw [h0, Nat.log2_zero] at h
    omega
  refine Nat.le_trans ?_ (div_le_roundedQuotient n bits)
  rw [Nat.le_div_iff_mul_le (Nat.two_pow_pos bits), ← Nat.pow_add, ← h]
  exact Nat.log2_self_le hne

theorem roundedQuotient_le_of_log2 : roundedQuotient n bits ≤ 2 ^ 53 := by
  refine Nat.le_trans (roundedQuotient_le n bits) ?_
  rw [Nat.succ_le_iff, Nat.div_lt_iff_lt_mul (Nat.two_pow_pos bits), ← Nat.pow_add,
    show 53 + bits = n.log2 + 1 by omega]
  exact Nat.lt_log2_self

end

/-- `n` rounded to its first 53 binary digits. -/
def nearestNat (n : Nat) : Nat :=
  roundedQuotient n (n.log2 - 52) * 2 ^ (n.log2 - 52)

/-- What has 53 digits and then zeros is not rounded. -/
theorem nearestNat_mul_pow {m : Nat} (h : m < 2 ^ 53) (e : Nat) :
    nearestNat (m * 2 ^ e) = m * 2 ^ e := by
  obtain ⟨bits, hbits⟩ : ∃ bits, bits = (m * 2 ^ e).log2 - 52 := ⟨_, rfl⟩
  have hle : bits ≤ e := by
    rcases Nat.eq_zero_or_pos m with rfl | hpos
    · rw [Nat.zero_mul, Nat.log2_zero] at hbits
      omega
    · have hlog := (Nat.log2_lt (by omega)).mpr h
      rw [log2_mul_pow (by omega)] at hbits
      omega
  have hsplit : m * 2 ^ e = m * 2 ^ (e - bits) * 2 ^ bits := by
    rw [Nat.mul_assoc, ← Nat.pow_add, Nat.sub_add_cancel hle]
  rw [nearestNat, ← hbits, hsplit, roundedQuotient_mul]

theorem nearestNat_of_le {n : Nat} (h : n ≤ 2 ^ 53) : nearestNat n = n := by
  rcases Nat.lt_or_eq_of_le h with hlt | rfl
  · have hexact := nearestNat_mul_pow hlt 0
    rwa [Nat.pow_zero, Nat.mul_one] at hexact
  · exact nearestNat_mul_pow (m := 1) (by decide) 53

theorem pow_log2_le_nearestNat {n : Nat} (hne : n ≠ 0) : 2 ^ n.log2 ≤ nearestNat n := by
  rcases Nat.lt_or_ge n.log2 52 with hlt | hge
  · have hle : n ≤ 2 ^ 53 := Nat.le_of_lt ((Nat.log2_lt hne).mp (by omega))
    rw [nearestNat_of_le hle]
    exact Nat.log2_self_le hne
  · obtain ⟨bits, hbits⟩ := Nat.exists_eq_add_of_le hge
    rw [nearestNat, hbits, Nat.add_sub_cancel_left, Nat.pow_add]
    exact Nat.mul_le_mul_right _ (le_roundedQuotient_of_log2 hbits)

theorem nearestNat_le_pow_log2 (n : Nat) : nearestNat n ≤ 2 ^ (n.log2 + 1) := by
  rcases Nat.lt_or_ge n.log2 52 with hlt | hge
  · have hlt' : n < 2 ^ (n.log2 + 1) := Nat.lt_log2_self
    have hpow : 2 ^ (n.log2 + 1) ≤ 2 ^ 53 := Nat.pow_le_pow_right Nat.two_pos (by omega)
    rw [nearestNat_of_le (by omega)]
    exact Nat.le_of_lt hlt'
  · obtain ⟨bits, hbits⟩ := Nat.exists_eq_add_of_le hge
    rw [nearestNat, hbits, Nat.add_sub_cancel_left, show 52 + bits + 1 = 53 + bits by omega,
      Nat.pow_add 2 53]
    exact Nat.mul_le_mul_right _ (roundedQuotient_le_of_log2 hbits)

/-- **Rounding keeps the order.** -/
theorem nearestNat_mono {m n : Nat} (h : m ≤ n) : nearestNat m ≤ nearestNat n := by
  rcases Nat.eq_zero_or_pos m with rfl | hm
  · exact Nat.zero_le _
  have hne : n ≠ 0 := by omega
  have hlog : m.log2 ≤ n.log2 :=
    (Nat.le_log2 hne).mpr (Nat.le_trans (Nat.log2_self_le (by omega)) h)
  rcases Nat.lt_or_eq_of_le hlog with hlt | heq
  · -- a power of two lies between numbers of different lengths, and between what they become
    exact (nearestNat_le_pow_log2 m).trans
      (Nat.le_trans (Nat.pow_le_pow_right Nat.two_pos hlt) (pow_log2_le_nearestNat hne))
  · rw [nearestNat, nearestNat, heq]
    exact Nat.mul_le_mul_right _ (roundedQuotient_mono _ h)

/-- **No number of 53 digits is nearer.** -/
theorem nearestNat_nearest (n : Nat) {m : Nat} (hm : m < 2 ^ 53) (e : Nat) :
    ((n : Int) - nearestNat n).natAbs ≤ ((n : Int) - (m * 2 ^ e : Nat)).natAbs := by
  rcases Nat.lt_or_ge n (2 ^ 52) with hlt | hge
  · rw [nearestNat_of_le (by omega), Int.sub_self]
    exact Nat.zero_le _
  have hne : n ≠ 0 := by omega
  obtain ⟨bits, hbits⟩ := Nat.exists_eq_add_of_le ((Nat.le_log2 hne).mpr hge)
  rw [nearestNat, hbits, Nat.add_sub_cancel_left]
  rcases Nat.lt_or_ge e bits with hless | hmore
  · -- what has finer digits is below the least number of this length, which is a multiple
    have hleast := roundedQuotient_nearest n bits (2 ^ 52)
    have hbelow : m * 2 ^ e ≤ 2 ^ 52 * 2 ^ bits := by
      calc m * 2 ^ e ≤ 2 ^ 53 * 2 ^ e := Nat.mul_le_mul_right _ (Nat.le_of_lt hm)
        _ = 2 ^ 52 * 2 ^ (e + 1) := by ring
        _ ≤ 2 ^ 52 * 2 ^ bits := Nat.mul_le_mul_left _ (Nat.pow_le_pow_right Nat.two_pos hless)
    have habove : 2 ^ 52 * 2 ^ bits ≤ n := by
      rw [← Nat.pow_add, ← hbits]
      exact Nat.log2_self_le hne
    omega
  · have hmultiple : m * 2 ^ e = m * 2 ^ (e - bits) * 2 ^ bits := by
      rw [Nat.mul_assoc, ← Nat.pow_add, Nat.sub_add_cancel hmore]
    rw [hmultiple]
    exact roundedQuotient_nearest n bits _

/-! ## Rounding in the model of floats -/

section
open Float.Model (UnpackedFloat Format totalExponent)
open Float.Model.UnpackedFloat (Sign ExtendedMantissa shiftToExponent shiftToTargetExponent
  roundWithAccuracy packComponents)

/-- What is left of an exact mantissa after a shift: the quotient, whether the rest is half or
more, and whether it is neither half nor nothing. -/
theorem shiftRight_exact (n bits : Nat) :
    (ExtendedMantissa.ofMantissaAndAccuracy n .exact) >>> bits =
      ⟨n / 2 ^ bits, decide (2 ^ bits ≤ 2 * (n % 2 ^ bits)),
        decide (2 * (n % 2 ^ bits) ≠ 0 ∧ 2 * (n % 2 ^ bits) ≠ 2 ^ bits)⟩ := by
  induction bits with
  | zero =>
    rw [Nat.pow_zero, Nat.div_one, Nat.mod_one]
    rfl
  | succ bits ih =>
    have hstep : (ExtendedMantissa.ofMantissaAndAccuracy n .exact) >>> (bits + 1) =
        ((ExtendedMantissa.ofMantissaAndAccuracy n .exact) >>> bits).shiftRightOne := rfl
    have hrest : n % 2 ^ bits < 2 ^ bits := Nat.mod_lt n (Nat.two_pow_pos bits)
    have hmod : n % 2 ^ (bits + 1) = n % 2 ^ bits + 2 ^ bits * (n / 2 ^ bits % 2) :=
      Nat.mod_pow_succ
    rw [hstep, ih, ExtendedMantissa.shiftRightOne, ExtendedMantissa.mk.injEq, hmod, Nat.pow_succ]
    -- the digit that falls off becomes the round bit, and the sticky bit takes the old one in
    refine ⟨Nat.div_div_eq_div_mul .., ?_, ?_⟩
    · rcases Nat.mod_two_eq_zero_or_one (n / 2 ^ bits) with hbit | hbit <;> rw [hbit]
      · exact (decide_eq_false (by omega)).symm
      · exact (decide_eq_true (by omega)).symm
    · rw [← Bool.decide_or, decide_eq_decide]
      rcases Nat.mod_two_eq_zero_or_one (n / 2 ^ bits) with hbit | hbit <;> rw [hbit] <;> omega

theorem roundedMantissa_shiftRight (n bits : Nat) :
    ((ExtendedMantissa.ofMantissaAndAccuracy n .exact) >>> bits).roundedMantissa =
      roundedQuotient n bits := by
  rw [shiftRight_exact, ExtendedMantissa.roundedMantissa]
  rcases Nat.lt_trichotomy (2 * (n % 2 ^ bits)) (2 ^ bits) with hlt | heq | hgt
  · rw [roundedQuotient_of_lt hlt, decide_eq_false (Nat.not_le.mpr hlt)]
    cases decide (2 * (n % 2 ^ bits) ≠ 0 ∧ 2 * (n % 2 ^ bits) ≠ 2 ^ bits) <;> rfl
  · rw [roundedQuotient_of_eq heq, decide_eq_true (Nat.le_of_eq heq.symm),
      decide_eq_false (fun h => h.2 heq)]
    rfl
  · rw [roundedQuotient_of_gt hgt, decide_eq_true (Nat.le_of_lt hgt), decide_eq_true (by omega)]
    rfl

/-- A finite unpacked float with this sign and this size, whose mantissa is full. -/
def IsNormal (u : UnpackedFloat) (sign : Sign) (size : ℚ) : Prop :=
  ∃ mantissa exponent positive, u = .finite sign mantissa exponent positive ∧
    2 ^ 52 ≤ mantissa ∧ mantissa < 2 ^ 53 ∧ -1074 ≤ exponent ∧
      (mantissa : ℚ) * 2 ^ exponent = size

theorem targetExponent_of_le {t : Int} (h : -1021 ≤ t) :
    Format.binary64.targetExponent t = t - 53 := by
  show max (t - 53) (-1074) = t - 53
  omega

theorem shiftToTargetExponent_eq {mantissa bits : Nat} (exponent : Int)
    (hlog : mantissa.log2 = 52 + bits) (h : -1074 ≤ exponent + bits) :
    shiftToTargetExponent .binary64 mantissa exponent .exact =
      ((ExtendedMantissa.ofMantissaAndAccuracy mantissa .exact) >>> bits, exponent + bits) := by
  have hbits : (totalExponent mantissa exponent - 53 - exponent).toNat = bits := by
    rw [totalExponent, hlog]
    omega
  have htarget : -1021 ≤ totalExponent mantissa exponent := by
    rw [totalExponent, hlog]
    omega
  rw [shiftToTargetExponent, targetExponent_of_le htarget, shiftToExponent, hbits]

/-- Rounding shifts twice: to 53 digits, and once more if rounding up has made a digit more. -/
theorem roundWithAccuracy_eq {mantissa rounded : Nat} {exponent : Int} (sign : Sign)
    {first second : ExtendedMantissa × Int}
    (hfirst : shiftToTargetExponent .binary64 mantissa exponent .exact = first)
    (hrounded : first.1.roundedMantissa = rounded)
    (hsecond : shiftToTargetExponent .binary64 rounded first.2 .exact = second)
    (hpos : 0 < second.1.mantissa) :
    roundWithAccuracy .binary64 sign mantissa exponent .exact =
      .finite sign second.1.mantissa second.2 hpos := by
  subst hfirst hrounded hsecond
  exact dif_neg (Nat.ne_of_gt hpos)

/-- **Rounding makes a float with a full mantissa**, of the number that 53 digits give. -/
theorem isNormal_roundWithAccuracy {mantissa bits : Nat} (sign : Sign) (exponent : Int)
    (hlog : mantissa.log2 = 52 + bits) (h : -1074 ≤ exponent + bits) :
    IsNormal (roundWithAccuracy .binary64 sign mantissa exponent .exact) sign
      (roundedQuotient mantissa bits * 2 ^ (exponent + bits)) := by
  have hle := le_roundedQuotient_of_log2 hlog
  have hge := roundedQuotient_le_of_log2 hlog
  have hrounded := roundedMantissa_shiftRight mantissa bits
  have hfirst := shiftToTargetExponent_eq exponent hlog h
  obtain ⟨r, hr⟩ : ∃ r, r = roundedQuotient mantissa bits := ⟨_, rfl⟩
  rw [← hr] at hle hge hrounded ⊢
  rcases Nat.lt_or_eq_of_le hge with hlt | hcarry
  · have hlog' : r.log2 = 52 + 0 := log2_of_full hle hlt
    have hsecond := shiftToTargetExponent_eq (exponent + bits) hlog' (by omega)
    rw [shiftRight_exact, Nat.pow_zero, Nat.div_one, Int.natCast_zero, Int.add_zero] at hsecond
    have hpos : 0 < r := by omega
    exact ⟨r, _, _, roundWithAccuracy_eq sign hfirst hrounded hsecond hpos, hle, hlt, h, rfl⟩
  · have hlog' : r.log2 = 52 + 1 := by
      rw [hcarry]
      exact Nat.log2_two_pow
    have hsecond := shiftToTargetExponent_eq (exponent + bits) hlog' (by omega)
    rw [shiftRight_exact, hcarry] at hsecond
    refine ⟨2 ^ 52, exponent + bits + 1, by decide,
      roundWithAccuracy_eq sign hfirst (hrounded.trans hcarry) hsecond (Nat.two_pow_pos 52),
      Nat.le_refl _, by decide, by omega, ?_⟩
    rw [hcarry, zpow_add_one₀ two_ne_zero]
    push_cast
    ring

/-! ## Packing -/

/-- A float with a full mantissa is packed without its first digit. -/
theorem pack_finite {mantissa biased : Nat} {exponent : Int} (sign : Sign)
    (positive : 0 < mantissa) (hlog : mantissa.log2 = 52) (hbiased : exponent + 1075 = biased)
    (hlt : biased < 2047) :
    UnpackedFloat.pack .binary64 (.finite sign mantissa exponent positive) =
      packComponents .binary64 sign (BitVec.ofNat 11 biased) (BitVec.ofNat 52 mantissa) := by
  have htoNat : (exponent + Format.binary64.exponentBias +
      Format.binary64.mantissaBitsWithoutImplicit).toNat = biased := by
    show (exponent + (1023 : Nat) + (52 : Nat)).toNat = biased
    omega
  rw [UnpackedFloat.pack]
  simp only [htoNat, hlog]
  rw [if_neg (show ¬ 2 ^ 11 ≤ biased + 1 by omega),
    if_pos (show 52 + 1 = Format.binary64.mantissaBits from rfl)]

/-- An exponent between the least and the greatest stands for a mantissa with that digit. -/
theorem unpack_packComponents {biased : Nat} (sign : Sign) (v : BitVec 52) (hpos : 0 < biased)
    (hlt : biased < 2047) :
    UnpackedFloat.unpack .binary64 (packComponents .binary64 sign (BitVec.ofNat 11 biased) v) =
      .finite sign (v.toNat + 2 ^ 52) (biased - 1075)
        (Nat.add_pos_right _ (Nat.two_pow_pos 52)) := by
  have htoNat : (BitVec.ofNat 11 biased).toNat = biased := by
    rw [BitVec.toNat_ofNat, Nat.mod_eq_of_lt (by omega)]
  have hmax : ¬ BitVec.ofNat 11 biased = -1#11 := by
    rw [eq_neg_one_iff, htoNat]
    omega
  have hzero : ¬ BitVec.ofNat 11 biased = 0#11 := by
    rw [BitVec.toNat_eq, htoNat]
    exact Nat.ne_of_gt hpos
  rw [UnpackedFloat.unpack]
  simp only [UnpackedFloat.unpackExponent_packComponents,
    UnpackedFloat.unpackMantissa_packComponents, UnpackedFloat.unpackSign_packComponents,
    Sign.ofBitVec_toBitVec, htoNat, toNat_append_implicit]
  rw [if_neg hmax, if_neg hzero]
  rfl

/-- The size of a float in range bounds its exponent, so that packing forgets nothing. -/
theorem IsNormal.unpack_pack {u : UnpackedFloat} {sign : Sign} {size : ℚ}
    (h : IsNormal u sign size) (hsize : size < 2 ^ 1024) : (Float.Model.pack u).unpack = u := by
  obtain ⟨mantissa, exponent, positive, rfl, hle, hlt, hleast, rfl⟩ := h
  have hgreatest : exponent ≤ 971 := by
    have hmantissa : (2 ^ 52 : ℚ) ≤ mantissa := by exact_mod_cast hle
    have hpower : (2 : ℚ) ^ (52 + exponent) < 2 ^ (1024 : Int) := by
      calc (2 : ℚ) ^ (52 + exponent) = 2 ^ 52 * 2 ^ exponent := by
            rw [zpow_add₀ two_ne_zero]
            norm_num
        _ ≤ mantissa * 2 ^ exponent := by gcongr
        _ < 2 ^ (1024 : Int) := by exact_mod_cast hsize
    have hlt := (zpow_lt_zpow_iff_right₀ one_lt_two).mp hpower
    omega
  obtain ⟨biased, hbiased⟩ : ∃ biased : Nat, exponent + 1075 = biased :=
    ⟨(exponent + 1075).toNat, by omega⟩
  have hmantissa : (BitVec.ofNat 52 mantissa).toNat + 2 ^ 52 = mantissa := by
    rw [BitVec.toNat_ofNat]
    omega
  show UnpackedFloat.unpack .binary64 (UnpackedFloat.pack .binary64 _) = _
  rw [pack_finite sign positive (log2_of_full hle hlt) hbiased (by omega),
    unpack_packComponents sign _ (by omega) (by omega)]
  simp only [hmantissa, ← hbiased, Int.add_sub_cancel]

/-- The number that an unpacked float is. -/
theorem IsNormal.parts {u : UnpackedFloat} {sign : Sign} {size : ℚ} (h : IsNormal u sign size) :
    (unpackedParts? u).map Scaled.value =
      some (if sign == .negative then -size else size) := by
  obtain ⟨mantissa, exponent, positive, rfl, -, -, -, rfl⟩ := h
  rfl

theorem IsNormal.neg {u : UnpackedFloat} {sign : Sign} {size : ℚ} (h : IsNormal u sign size) :
    IsNormal u.neg (-sign) size := by
  obtain ⟨mantissa, exponent, positive, rfl, hrest⟩ := h
  exact ⟨mantissa, exponent, positive, rfl, hrest⟩

/-- A product with one has only its exponent moved and back. -/
theorem IsNormal.mul_one {u : UnpackedFloat} {sign : Sign} {size : ℚ} (h : IsNormal u sign size) :
    IsNormal (UnpackedFloat.mul .binary64 u (.finite .positive (2 ^ 52) (-52) (by decide)))
      (sign * .positive) size := by
  obtain ⟨mantissa, exponent, positive, rfl, hle, hlt, hleast, rfl⟩ := h
  have hlog : (mantissa * 2 ^ 52).log2 = 52 + 52 := by
    rw [log2_mul_pow (by omega), log2_of_full hle hlt]
  have hround := isNormal_roundWithAccuracy (sign * .positive) (exponent + -52) hlog (by omega)
  rwa [roundedQuotient_mul, show exponent + -52 + (52 : Nat) = exponent by omega] at hround

theorem isNormal_ofNat {n : Nat} (hpos : 0 < n) (hlt : n < 2 ^ 53) :
    IsNormal (UnpackedFloat.ofNat .binary64 n) .positive n := by
  have hlog : n.log2 < 53 := (Nat.log2_lt (by omega)).mpr hlt
  obtain ⟨bits, hbits⟩ : ∃ bits, n.log2 + bits = 52 := ⟨52 - n.log2, by omega⟩
  have hround : UnpackedFloat.ofNat .binary64 n =
      roundWithAccuracy .binary64 .positive (n * 2 ^ bits) (-bits) .exact := by
    have htarget : Format.binary64.targetExponent (totalExponent n 0) = -bits := by
      rw [totalExponent, targetExponent_of_le (by omega)]
      omega
    have hcompare : compare (n : Int) 0 = .gt := Int.compare_eq_gt.mpr (by omega)
    rw [UnpackedFloat.ofNat, UnpackedFloat.ofInt, UnpackedFloat.normalize, hcompare]
    show UnpackedFloat.round .binary64 .positive n 0 = _
    rw [UnpackedFloat.round, htarget, UnpackedFloat.decreaseExponent,
      show (0 - -(bits : Int)).toNat = bits by omega, Nat.shiftLeft_eq, Int.zero_sub]
  have hlog' : (n * 2 ^ bits).log2 = 52 + 0 := by
    rw [log2_mul_pow (by omega), hbits]
  have h := isNormal_roundWithAccuracy .positive (-bits) hlog' (by omega)
  rw [roundedQuotient_zero, Int.natCast_zero, Int.add_zero] at h
  rw [hround]
  have hvalue : ((n * 2 ^ bits : Nat) : ℚ) * 2 ^ (-(bits : Int)) = n := by
    rw [zpow_neg, zpow_natCast]
    push_cast
    exact mul_inv_cancel_right₀ (by positivity) _
  rwa [hvalue] at h

theorem isNormal_ofScientific {n : Nat} (h : 2 ^ 53 ≤ n) :
    IsNormal (UnpackedFloat.ofScientific .binary64 n 0) .positive (nearestNat n) := by
  have hne : n ≠ 0 := by omega
  have hlog : 53 ≤ n.log2 := (Nat.le_log2 hne).mpr h
  obtain ⟨bits, hbits⟩ : ∃ bits, n.log2 = 52 + bits := ⟨n.log2 - 52, by omega⟩
  have hround : UnpackedFloat.ofScientific .binary64 n 0 =
      roundWithAccuracy .binary64 .positive (n * 2 ^ 53) (-53) .exact := by
    rw [UnpackedFloat.ofScientific, dif_neg hne, if_neg (by decide),
      if_neg (show ¬ (0 : Int) < -(2 ^ 11 + n.log2) by omega), if_pos (Int.le_refl 0)]
    rw [UnpackedFloat.mul, Int.toNat_zero, Nat.pow_zero, Nat.mul_one, Nat.shiftLeft_eq]
    rfl
  have hlog' : (n * 2 ^ 53).log2 = 52 + (bits + 53) := by
    rw [log2_mul_pow hne, hbits, Nat.add_assoc]
  have h := isNormal_roundWithAccuracy .positive (-53) hlog' (by omega)
  rw [roundedQuotient_mul_add, show -53 + ((bits + 53 : Nat) : Int) = bits by omega,
    zpow_natCast] at h
  rw [hround, nearestNat, hbits, Nat.add_sub_cancel_left]
  exact_mod_cast h

/-- A natural number other than zero is turned into a float that is unpacked to it, rounded. -/
theorem unpack_ofNat {n : Nat} (hpos : 0 < n) (hrange : nearestNat n < 2 ^ 1024) :
    IsNormal (Float.ofNat n).toModel.unpack .positive (nearestNat n) := by
  have hrange' : (nearestNat n : ℚ) < 2 ^ 1024 := by exact_mod_cast hrange
  rcases Nat.lt_or_ge n (2 ^ 53) with hlt | hge
  · -- a number that fits is multiplied by a power of ten, which is one
    have hone : (Float.ofBits 0x3FF0000000000000).toModel.unpack =
        .finite .positive (2 ^ 52) (-52) (by decide) := by rfl
    have hof : (Float.ofNat n).toModel = Float.Model.mul (Float.Model.ofUInt64 n.toUInt64)
        (Float.ofBits 0x3FF0000000000000).toModel := by
      show (Float.ofScientific n false 0).toModel = _
      rw [Float.ofScientific, dif_pos ⟨hlt, Nat.zero_le 22⟩]
      rfl
    have hto : n.toUInt64.toNat = n := by
      show n % 2 ^ 64 = n
      omega
    have hfactor : IsNormal (UnpackedFloat.ofUInt64 .binary64 n.toUInt64) .positive
        (nearestNat n) := by
      rw [UnpackedFloat.ofUInt64, hto, nearestNat_of_le (Nat.le_of_lt hlt)]
      exact isNormal_ofNat hpos hlt
    have hfactor' := hfactor.unpack_pack hrange'
    have hproduct := hfactor.mul_one
    rw [hof, Float.Model.mul, hone, Float.Model.ofUInt64, hfactor', hproduct.unpack_pack hrange']
    exact hproduct
  · have hof : (Float.ofNat n).toModel = .pack (UnpackedFloat.ofScientific .binary64 n 0) := by
      show (Float.ofScientific n false 0).toModel = _
      rw [Float.ofScientific, dif_neg (fun h => by omega)]
      rfl
    have hnormal := isNormal_ofScientific hge
    rw [hof, hnormal.unpack_pack hrange']
    exact hnormal

end

/-! ## Integers -/

/-- `i` rounded to its first 53 binary digits. -/
def nearestInt : Int → Int
  | .ofNat n => nearestNat n
  | .negSucc n => -nearestNat (n + 1)

/-- **An integer is turned into the float of its first 53 digits.** -/
theorem floatValue?_ofInt {i : Int} (hrange : nearestNat i.natAbs < 2 ^ 1024) :
    floatValue? (Float.ofInt i) = some (nearestInt i : ℚ) := by
  rw [floatValue?, ofFloat?_eq]
  rcases i with n | n
  · rcases Nat.eq_zero_or_pos n with rfl | hpos
    · have hzero : (Float.ofInt (Int.ofNat 0)).toModel.unpack = .zero .positive := by rfl
      rw [hzero]
      exact congrArg some (Scaled.value_zero _ _)
    · have hparts := (unpack_ofNat hpos hrange).parts
      rw [nearestInt, Int.cast_natCast]
      exact hparts
  · have hnormal := (unpack_ofNat (Nat.succ_pos n) hrange).neg
    have hneg : (Float.ofInt (Int.negSucc n)).toModel =
        .pack (Float.ofNat n.succ).toModel.unpack.neg := rfl
    rw [hneg, hnormal.unpack_pack (by exact_mod_cast hrange), hnormal.parts, nearestInt,
      Int.cast_neg, Int.cast_natCast]
    rfl

theorem nearestInt_of_nearestNat {i : Int} (h : nearestNat i.natAbs = i.natAbs) :
    nearestInt i = i := by
  rcases i with n | n
  · exact congrArg Int.ofNat h
  · exact congrArg Int.negOfNat h

/-- The size of a finite float is that of the number that it is. -/
theorem exists_of_floatValue? {x : Float} {q : ℚ} (h : floatValue? x = some q) :
    ∃ (m : Nat) (e : Int), m < 2 ^ 53 ∧ |q| = m * 2 ^ e := by
  obtain ⟨s, hs, rfl⟩ := Option.map_eq_some_iff.mp h
  refine ⟨s.mantissa, s.exponent, (Scaled.canonical_of_ofFloat? hs).mantissa_lt, ?_⟩
  have hnonneg : (0 : ℚ) ≤ s.mantissa * 2 ^ s.exponent := by positivity
  rw [Scaled.value, Scaled.size]
  split
  · rw [abs_neg, abs_of_nonneg hnonneg]
  · rw [abs_of_nonneg hnonneg]

theorem natAbs_sub_nearestInt (i : Int) :
    (i - nearestInt i).natAbs = ((i.natAbs : Int) - nearestNat i.natAbs).natAbs := by
  rcases i with n | n
  · rfl
  · show (Int.negSucc n - -(nearestNat (n + 1) : Int)).natAbs =
      (((n + 1 : Nat) : Int) - nearestNat (n + 1)).natAbs
    omega

/-- **No float is nearer to an integer.** -/
theorem nearestInt_nearest {x : Float} {q : ℚ} (h : floatValue? x = some q) (i : Int) :
    |(i : ℚ) - nearestInt i| ≤ |(i : ℚ) - q| := by
  obtain ⟨m, e, hm, hsize⟩ := exists_of_floatValue? h
  obtain ⟨n, hn⟩ : ∃ n, n = i.natAbs := ⟨_, rfl⟩
  -- both distances are those on the side of zero on which there are natural numbers
  have hleft : |(i : ℚ) - nearestInt i| = |(n : ℚ) - nearestNat n| := by
    have hcast := congrArg (Nat.cast (R := ℚ)) (natAbs_sub_nearestInt i)
    rw [Nat.cast_natAbs, Nat.cast_natAbs, ← hn] at hcast
    push_cast at hcast
    exact hcast
  have hright : |(n : ℚ) - (m * 2 ^ e)| ≤ |(i : ℚ) - q| := by
    rw [← hsize, hn, Nat.cast_natAbs, Int.cast_abs]
    exact abs_abs_sub_abs_le _ _
  have hnearest : ∀ k f : Nat, k < 2 ^ 53 →
      |(n : ℚ) - nearestNat n| ≤ |(n : ℚ) - (k * 2 ^ f)| := by
    intro k f hk
    have hcast := Nat.cast_le (α := ℚ) |>.mpr (nearestNat_nearest n hk f)
    rw [Nat.cast_natAbs, Nat.cast_natAbs] at hcast
    push_cast at hcast
    exact hcast
  rw [hleft]
  refine le_trans ?_ hright
  rcases Int.le_total 0 e with hpos | hneg
  · obtain ⟨f, rfl⟩ := Int.eq_ofNat_of_zero_le hpos
    rw [zpow_natCast]
    exact hnearest m f hm
  · -- with fewer digits than 53 nothing is rounded, and with more the fractions are all too small
    rcases Nat.le_total n (2 ^ 53) with hless | hmore
    · rw [nearestNat_of_le hless, sub_self, abs_zero]
      exact abs_nonneg _
    · have hbelow : (m : ℚ) * 2 ^ e ≤ 1 * 2 ^ 53 := by
        have hm' : (m : ℚ) ≤ 2 ^ 53 := by exact_mod_cast Nat.le_of_lt hm
        calc (m : ℚ) * 2 ^ e ≤ 2 ^ 53 * 1 := by
              gcongr
              exact zpow_le_one_of_nonpos₀ one_le_two hneg
          _ = 1 * 2 ^ 53 := mul_comm _ _
      have habove : (1 : ℚ) * 2 ^ 53 ≤ n := by
        rw [one_mul]
        exact_mod_cast hmore
      refine (hnearest 1 53 (by decide)).trans ?_
      rw [Nat.cast_one, abs_of_nonneg (sub_nonneg.mpr habove),
        abs_of_nonneg (sub_nonneg.mpr (hbelow.trans habove))]
      exact sub_le_sub_left hbelow _

/-- An integer that is a float is its own nearest float. -/
theorem nearestInt_of_floatValue? {x : Float} {i : Int} (h : floatValue? x = some (i : ℚ)) :
    nearestInt i = i := by
  have hnearest := nearestInt_nearest h i
  rw [sub_self, abs_zero, abs_nonpos_iff, sub_eq_zero] at hnearest
  exact_mod_cast hnearest.symm

/-- **Rounding keeps the order.** -/
theorem nearestInt_mono {i j : Int} (h : i ≤ j) : nearestInt i ≤ nearestInt j := by
  rcases i with m | m <;> rcases j with n | n
  · exact Int.ofNat_le.mpr (nearestNat_mono (Int.ofNat_le.mp h))
  · exact absurd h (Int.not_le.mpr (Int.negSucc_lt_zero n |>.trans_le (Int.natCast_nonneg m)))
  · exact (neg_nonpos.mpr (Int.natCast_nonneg _)).trans (Int.natCast_nonneg _)
  · have hle : nearestNat (n + 1) ≤ nearestNat (m + 1) := nearestNat_mono (by omega)
    exact neg_le_neg (Int.ofNat_le.mpr hle)

end DocFilter
