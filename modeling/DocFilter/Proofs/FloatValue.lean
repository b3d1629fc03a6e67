import DocFilter.Decimal.Binary64
import DocFilter.Proofs.Order
import Mathlib

/-!
# The numbers that floats are

A finite float is `± mantissa · 2 ^ exponent`, and so a rational number (`floatValue?`); infinities
and NaN are none. `Scaled.ofFloat?` takes the parts out of the bits by division. The model of floats
that comparison goes by takes them out by slicing, and both find the same (`ofFloat?_eq`).

Comparison does not multiply the parts out. It puts the exponents in order first and the mantissas
after them, which is right because a mantissa is full unless the exponent is the least one
(`Scaled.Canonical`). So for finite floats the order is the order of numbers:

> `compareFloats?_eq_compare`: floats compare as the numbers that they are.
-/

namespace DocFilter

open Float.Model (UnpackedFloat Format)
open Float.Model.UnpackedFloat (Sign unpackExponent unpackMantissa unpackSign)

/-! ## The parts of a float -/

section
variable (b : BitVec Format.binary64.numBits)

theorem toNat_unpackExponent : (unpackExponent b).toNat = b.toNat / Scaled.leastFull % 2048 := by
  rw [unpackExponent, BitVec.toNat_cast, BitVec.extractLsb_toNat, Nat.shiftRight_eq_div_pow]
  rfl

theorem toNat_unpackMantissa : (unpackMantissa b).toNat = b.toNat % Scaled.leastFull := by
  rw [unpackMantissa, BitVec.toNat_cast, BitVec.extractLsb_toNat, Nat.shiftRight_zero]
  rfl

theorem toNat_unpackSign : (unpackSign b).toNat = b.toNat / Scaled.signBit := by
  rw [unpackSign, BitVec.toNat_cast, BitVec.extractLsb_toNat, Nat.shiftRight_eq_div_pow]
  have h : b.toNat < 2 ^ 64 := b.isLt
  show b.toNat / 2 ^ 63 % 2 ^ 1 = b.toNat / 2 ^ 63
  exact Nat.mod_eq_of_lt (by omega)

theorem ofBitVec_beq_negative (v : BitVec 1) : (Sign.ofBitVec v == .negative) = (v.toNat == 1) := by
  revert v
  decide

end

/-- The parts of a float as they are unpacked. -/
def unpackedParts? : UnpackedFloat → Option Scaled
  | .zero sign => some ⟨sign == .negative, 0, -1074⟩
  | .finite sign mantissa exponent _ => some ⟨sign == .negative, mantissa, exponent⟩
  | .infinity _ | .notANumber => none

theorem toNat_append_implicit (v : BitVec 52) : (1#1 ++ v).toNat = v.toNat + Scaled.leastFull := by
  rw [BitVec.toNat_append, ← Nat.shiftLeft_add_eq_or_of_lt v.isLt, Nat.add_comm]
  rfl

theorem eq_neg_one_iff (v : BitVec 11) : v = -1#11 ↔ v.toNat = 2047 := by
  rw [BitVec.toNat_eq]
  rfl

/-- **Dividing the bits gives the parts that slicing them gives.** -/
theorem ofFloat?_eq (x : Float) : Scaled.ofFloat? x = unpackedParts? x.toModel.unpack := by
  obtain ⟨b, hb⟩ : ∃ b : BitVec Format.binary64.numBits, b = x.toModel.toBits.toBitVec :=
    ⟨_, rfl⟩
  have hbits : x.toBits.toNat = b.toNat := by rw [hb]; rfl
  have hunpack : x.toModel.unpack = UnpackedFloat.unpack .binary64 b := by rw [hb]; rfl
  have hnegative : (b.toNat / Scaled.signBit == 1) =
      (Sign.ofBitVec (unpackSign b) == .negative) := by
    rw [ofBitVec_beq_negative, toNat_unpackSign]
  unfold Scaled.ofFloat?
  rw [hunpack, UnpackedFloat.unpack]
  simp only [hbits, hnegative, ← toNat_unpackExponent, ← toNat_unpackMantissa]
  by_cases hmax : unpackExponent b = -1#11
  · rw [if_pos ((eq_neg_one_iff _).mp hmax), if_pos hmax]
    split <;> rfl
  · rw [if_neg (fun h => hmax ((eq_neg_one_iff _).mpr h)), if_neg hmax]
    by_cases hzero : unpackExponent b = 0#11
    · rw [if_pos (by rw [hzero]; rfl), if_pos hzero]
      by_cases hmantissa : unpackMantissa b = 0#52
      · rw [dif_pos hmantissa, hmantissa]
        rfl
      · rw [dif_neg hmantissa, hzero]
        rfl
    · have hne : ¬ (unpackExponent b).toNat = 0 := fun h => hzero (BitVec.toNat_eq.mpr h)
      rw [if_neg hne, if_neg hzero]
      simp only [unpackedParts?, toNat_append_implicit]
      rfl

/-- The mantissa of a float has 53 binary digits, or fewer at the least exponent. -/
structure Scaled.Canonical (s : Scaled) : Prop where
  mantissa_lt : s.mantissa < 2 ^ 53
  least_le : -1074 ≤ s.exponent
  exponent_le : s.exponent ≤ 971
  full : 2 ^ 52 ≤ s.mantissa ∨ s.exponent = -1074

theorem Scaled.canonical_of_ofFloat? {x : Float} {s : Scaled} (h : Scaled.ofFloat? x = some s) :
    s.Canonical := by
  obtain ⟨bits, hbits⟩ : ∃ bits, bits = x.toBits.toNat := ⟨_, rfl⟩
  unfold ofFloat? at h
  simp only [← hbits, leastFull] at h
  by_cases hmax : bits / 0x10000000000000 % 2048 = 2047
  · rw [if_pos hmax] at h
    cases h
  · rw [if_neg hmax] at h
    by_cases hzero : bits / 0x10000000000000 % 2048 = 0
    · rw [if_pos hzero] at h
      cases h
      refine ⟨?_, Int.le_refl _, by simp, .inr rfl⟩
      show bits % 0x10000000000000 < 2 ^ 53
      omega
    · rw [if_neg hzero] at h
      cases h
      refine ⟨?_, ?_, ?_, .inl (Nat.le_add_left _ _)⟩
      · show bits % 0x10000000000000 + 0x10000000000000 < 2 ^ 53
        omega
      · show -1074 ≤ Int.ofNat (bits / 0x10000000000000 % 2048) - 1075
        rw [Int.ofNat_eq_natCast]
        omega
      · show Int.ofNat (bits / 0x10000000000000 % 2048) - 1075 ≤ 971
        rw [Int.ofNat_eq_natCast]
        omega

/-! ## The number of a float -/

/-- The number `mantissa · 2 ^ exponent`, without its sign. -/
def Scaled.size (s : Scaled) : ℚ :=
  s.mantissa * 2 ^ s.exponent

/-- The number `± mantissa · 2 ^ exponent`. -/
def Scaled.value (s : Scaled) : ℚ :=
  if s.negative then -s.size else s.size

/-- The number that a float is; infinities and NaN are none. -/
def floatValue? (x : Float) : Option ℚ :=
  (Scaled.ofFloat? x).map Scaled.value

/-- A float is a number when it is finite. -/
theorem isSome_floatValue? (x : Float) : (floatValue? x).isSome = x.isFinite := by
  rw [floatValue?, Option.isSome_map, ofFloat?_eq, Float.isFinite, Float.Model.isFinite]
  cases x.toModel.unpack <;> rfl

theorem Scaled.size_pos {s : Scaled} (h : 0 < s.mantissa) : 0 < s.size := by
  have hmantissa : (0 : ℚ) < s.mantissa := by exact_mod_cast h
  rw [size]
  positivity

theorem Scaled.value_zero (negative : Bool) (exponent : Int) :
    (⟨negative, 0, exponent⟩ : Scaled).value = 0 := by
  cases negative <;> simp [value, size]

namespace Scaled.Canonical

variable {s t : Scaled} (hs : s.Canonical) (ht : t.Canonical)
include hs ht

/-- A greater exponent makes a greater number, since the mantissa above it is full. -/
theorem size_lt_size (h : s.exponent < t.exponent ∨
    s.exponent = t.exponent ∧ s.mantissa < t.mantissa) : s.size < t.size := by
  rw [size, size]
  rcases h with hlt | ⟨heq, hlt⟩
  · have hfull : 2 ^ 52 ≤ t.mantissa :=
      ht.full.resolve_right fun h => absurd hs.least_le (by omega)
    have hmantissa : (s.mantissa : ℚ) < 2 ^ 53 := by exact_mod_cast hs.mantissa_lt
    have hmantissa' : (2 ^ 52 : ℚ) ≤ t.mantissa := by exact_mod_cast hfull
    calc (s.mantissa : ℚ) * 2 ^ s.exponent
        < 2 ^ 53 * 2 ^ s.exponent := by gcongr
      _ = 2 ^ 52 * 2 ^ (s.exponent + 1) := by rw [zpow_add_one₀ two_ne_zero]; ring
      _ ≤ 2 ^ 52 * 2 ^ t.exponent := by gcongr <;> [norm_num; omega]
      _ ≤ t.mantissa * 2 ^ t.exponent := by gcongr
  · rw [heq]
    gcongr

theorem compare_size :
    (compare s.exponent t.exponent).then (compare s.mantissa t.mantissa) =
      compare s.size t.size := by
  rcases Int.lt_trichotomy s.exponent t.exponent with hlt | heq | hgt
  · rw [Int.compare_eq_lt.mpr hlt, compare_lt_iff_lt.mpr (hs.size_lt_size ht (.inl hlt))]
    rfl
  · rw [Int.compare_eq_eq.mpr heq, Ordering.eq_then]
    rcases Nat.lt_trichotomy s.mantissa t.mantissa with hlt | hsame | hgt
    · rw [Nat.compare_eq_lt.mpr hlt,
        compare_lt_iff_lt.mpr (hs.size_lt_size ht (.inr ⟨heq, hlt⟩))]
    · rw [Nat.compare_eq_eq.mpr hsame, compare_eq_iff_eq.mpr (by rw [size, size, hsame, heq])]
    · rw [Nat.compare_eq_gt.mpr hgt,
        compare_gt_iff_gt.mpr (ht.size_lt_size hs (.inr ⟨heq.symm, hgt⟩))]
  · rw [Int.compare_eq_gt.mpr hgt, compare_gt_iff_gt.mpr (ht.size_lt_size hs (.inl hgt))]
    rfl

end Scaled.Canonical

/-! ## The order of floats -/

theorem compare_neg_neg (p q : ℚ) : compare (-p) (-q) = (compare p q).swap := by
  rcases lt_trichotomy p q with hlt | rfl | hgt
  · rw [compare_lt_iff_lt.mpr hlt, compare_gt_iff_gt.mpr (neg_lt_neg hlt)]
    rfl
  · rw [compare_eq_iff_eq.mpr rfl, compare_eq_iff_eq.mpr rfl]
    rfl
  · rw [compare_gt_iff_gt.mpr hgt, compare_lt_iff_lt.mpr (neg_lt_neg hgt)]
    rfl

/-- Parts that are unpacked are compared as the numbers that they make. -/
theorem unpackedCompare_eq {u v : UnpackedFloat} {s t : Scaled} (hu : unpackedParts? u = some s)
    (hv : unpackedParts? v = some t) (hs : s.Canonical) (ht : t.Canonical) :
    u.compare v = some (compare s.value t.value) := by
  cases u with
  | notANumber | infinity => cases hu
  | zero σ =>
    cases hu
    rw [Scaled.value_zero]
    cases v with
    | notANumber | infinity => cases hv
    | zero τ =>
      cases hv
      rw [Scaled.value_zero, compare_eq_iff_eq.mpr rfl]
      rfl
    | finite τ m e hm =>
      cases hv
      have hpos : 0 < (⟨τ == .negative, m, e⟩ : Scaled).size := Scaled.size_pos hm
      cases τ with
      | positive => exact congrArg some (compare_lt_iff_lt.mpr hpos).symm
      | negative => exact congrArg some (compare_gt_iff_gt.mpr (neg_neg_of_pos hpos)).symm
  | finite σ m e hm =>
    cases hu
    have hpos : 0 < (⟨σ == .negative, m, e⟩ : Scaled).size := Scaled.size_pos hm
    cases v with
    | notANumber | infinity => cases hv
    | zero τ =>
      cases hv
      rw [Scaled.value_zero]
      cases σ with
      | positive => exact congrArg some (compare_gt_iff_gt.mpr hpos).symm
      | negative => exact congrArg some (compare_lt_iff_lt.mpr (neg_neg_of_pos hpos)).symm
    | finite τ n f hn =>
      cases hv
      have hpos' : 0 < (⟨τ == .negative, n, f⟩ : Scaled).size := Scaled.size_pos hn
      have hsizes := hs.compare_size ht
      cases σ with
      | positive =>
        cases τ with
        | positive => exact congrArg some hsizes
        | negative =>
          exact congrArg some (compare_gt_iff_gt.mpr ((neg_neg_of_pos hpos').trans hpos)).symm
      | negative =>
        cases τ with
        | positive =>
          exact congrArg some (compare_lt_iff_lt.mpr ((neg_neg_of_pos hpos).trans hpos')).symm
        | negative =>
          exact congrArg some ((congrArg Ordering.swap hsizes).trans (compare_neg_neg _ _).symm)

/-- **Finite floats are in the order of the numbers that they are.** -/
theorem compareFloats?_eq_compare {x y : Float} {p q : ℚ} (hx : floatValue? x = some p)
    (hy : floatValue? y = some q) : compareFloats? x y = some (compare p q) := by
  obtain ⟨s, hs, rfl⟩ := Option.map_eq_some_iff.mp hx
  obtain ⟨t, ht, rfl⟩ := Option.map_eq_some_iff.mp hy
  rw [compareFloats?_eq]
  exact unpackedCompare_eq ((ofFloat?_eq x).symm.trans hs) ((ofFloat?_eq y).symm.trans ht)
    (Scaled.canonical_of_ofFloat? hs) (Scaled.canonical_of_ofFloat? ht)

end DocFilter
