import DocFilter.Proofs.Comparisons
import DocFilter.Proofs.Membership
import DocFilter.Proofs.NearestFloat

/-!
# Integers under a field

A document keeps an integer as it is written, and so does a query. A comparison does not: it looks
at numbers as floats, on both sides, whatever form they are kept in. So two integers are compared
as the floats nearest to them (`compareValues?_integers`), and equality and the bounds under a
field are those of the rounded integers:

> `Filter.matches?_integers`: a field that holds an integer is compared with another integer as
> their nearest floats are. The answer is that about the integers themselves when the two are equal
> or are rounded to different floats.

An integer of up to 53 binary digits is its own nearest float. Beyond, different integers can have
one in common, and are then equal under every operator.
-/

namespace DocFilter

variable {κ : Type}

/-! ## Integers that are kept -/

/-- The integer is kept in the form of an integer. -/
structure JsonNumber.Kept (i : Int) : Prop where
  least_le : leastInt ≤ i
  lt_bound : i < intBound

/-- A kept integer is well inside the range of floats. -/
theorem JsonNumber.Kept.nearestNat_lt {i : Int} (h : Kept i) : nearestNat i.natAbs < 2 ^ 1024 := by
  have hle : i.natAbs ≤ 1 * 2 ^ 64 := by
    have hleast := h.least_le
    have hbound := h.lt_bound
    unfold leastInt at hleast
    unfold intBound at hbound
    omega
  have hrounded := nearestNat_mono hle
  rw [nearestNat_mul_pow (by decide), Nat.one_mul] at hrounded
  exact hrounded.trans_lt (pow_lt_pow_right₀ one_lt_two (by decide))

theorem JsonNumber.Kept.floatValue? {i : Int} (h : Kept i) :
    floatValue? (Float.ofInt i) = some (nearestInt i : ℚ) :=
  floatValue?_ofInt h.nearestNat_lt

theorem compare_intCast (i j : Int) : compare (i : ℚ) j = compare i j := by
  rcases lt_trichotomy i j with hlt | rfl | hgt
  · rw [compare_lt_iff_lt.mpr hlt, compare_lt_iff_lt.mpr (Int.cast_lt.mpr hlt)]
  · rw [compare_eq_iff_eq.mpr rfl, compare_eq_iff_eq.mpr rfl]
  · rw [compare_gt_iff_gt.mpr hgt, compare_gt_iff_gt.mpr (Int.cast_lt.mpr hgt)]

section
variable {m n : Int} (hm : JsonNumber.Kept m) (hn : JsonNumber.Kept n)
include hm hn

/-- **Integers are in the order of the floats nearest to them.** -/
theorem compareValues?_integers :
    compareValues? (some (.number (.int m))) (some (.number (.int n))) =
      some (compare (nearestInt m) (nearestInt n)) := by
  rw [← compare_intCast]
  exact compareFloats?_eq_compare hm.floatValue? hn.floatValue?

/-- Integers are equal when the floats nearest to them are. -/
theorem deepEq_integers :
    deepEq (.number (.int n)) (some (.number (.int m))) =
      decide (nearestInt m = nearestInt n) := by
  rw [Bool.eq_iff_iff, decide_eq_true_eq, deepEq_scalar rfl,
    looseEq_iff_compareValues? Json.noConfusion rfl Json.noConfusion,
    compareValues?_integers hm hn, Option.some.injEq, compare_eq_iff_eq]

end

/-! ## Relations between integers -/

/-- The relation that an operator asks for, between integers. -/
def Relation.Holds : Relation → Int → Int → Prop
  | greater, m, n => m > n
  | atLeast, m, n => m ≥ n
  | less, m, n => m < n
  | atMost, m, n => m ≤ n

theorem Relation.accepts_compare (relation : Relation) (m n : Int) :
    relation.accepts (compare m n) = true ↔ relation.Holds m n := by
  rcases Int.lt_trichotomy m n with hlt | heq | hgt
  · rw [Int.compare_eq_lt.mpr hlt]
    cases relation <;> simp [accepts, Holds] <;> omega
  · rw [Int.compare_eq_eq.mpr heq]
    cases relation <;> simp [accepts, Holds] <;> omega
  · rw [Int.compare_eq_gt.mpr hgt]
    cases relation <;> simp [accepts, Holds] <;> omega

instance (relation : Relation) (m n : Int) : Decidable (relation.Holds m n) :=
  decidable_of_iff _ (relation.accepts_compare m n)

/-- Integers that are rounded apart, or are not apart at all, are related as they were. -/
theorem compare_nearestInt {m n : Int} (h : m = n ∨ nearestInt m ≠ nearestInt n) :
    compare (nearestInt m) (nearestInt n) = compare m n := by
  rcases Int.lt_trichotomy m n with hlt | rfl | hgt
  · have hapart := h.resolve_left (Int.ne_of_lt hlt)
    rw [Int.compare_eq_lt.mpr hlt, Int.compare_eq_lt.mpr]
    exact lt_of_le_of_ne (nearestInt_mono (Int.le_of_lt hlt)) hapart
  · rw [Int.compare_eq_eq.mpr rfl, Int.compare_eq_eq.mpr rfl]
  · have hapart := h.resolve_left (Int.ne_of_gt hgt)
    rw [Int.compare_eq_gt.mpr hgt, Int.compare_eq_gt.mpr]
    exact lt_of_le_of_ne (nearestInt_mono (Int.le_of_lt hgt)) hapart.symm

/-! ## Integers under a field -/

namespace Filter

/-- The query compiles, and its filter answers on the document whether `P` holds. -/
def Decides (host : Host κ) (document query : Json) (P : Prop) : Prop :=
  ∃ f : Filter κ, ofValue Registry.defaults query = .ok f ∧
    ∃ b, f.matches? host document = .ok b ∧ (b = true ↔ P)

section
variable {key : String} (hkey : (Registry.defaults : Registry κ).get? key = none)
include hkey

/-- Under a field, a scalar stands for equality with it. -/
theorem ofValue_scalar {v : Json} (hv : v.isContainer = false) :
    ofValue (Registry.defaults : Registry κ) (.object [(key, v)]) =
      ofValue Registry.defaults (.object [(key, .object [("$eq", v)])]) := by
  have hr := Registry.defaults_holdsBuiltins (κ := κ)
  have hwritten : Place.explicit? (κ := κ) .field v = some (.object [("$eq", v)]) := by
    cases v with
    | array | object => cases hv
    | _ => rfl
  rw [ofValue_field hkey, ofValue_field hkey]
  exact congrArg (Except.map _) (Registry.alike_of_explicit hr hwritten).symm

variable (host : Host κ) {document : Json} {m n : Int} (hm : JsonNumber.Kept m)
  (hn : JsonNumber.Kept n) (hdoc : Selector.resolve ⟨key⟩ document = some (.number (.int m)))
include hm hn hdoc

theorem decides_equal : Decides host document
    (.object [(key, .object [("$eq", .number (.int n))])]) (nearestInt m = nearestInt n) := by
  obtain ⟨f, hf, hanswer⟩ :=
    exists_of_literal hkey .equal rfl (v := .number (.int n)) rfl
  refine ⟨f, hf, _, hanswer host document _ rfl, ?_⟩
  rw [hdoc, deepEq_integers hm hn, decide_eq_true_eq]

theorem decides_notEqual : Decides host document
    (.object [(key, .object [("$ne", .number (.int n))])]) (nearestInt m ≠ nearestInt n) := by
  have hr := Registry.defaults_holdsBuiltins (κ := κ)
  obtain ⟨f, hf, hanswer⟩ :=
    exists_of_literal hkey .notEqual rfl (v := .number (.int n)) rfl
  have hequal : (Registry.defaults.evaluator host).equals (some (.number (.int m)))
      (.value (.number (.int n))) document = .ok (decide (nearestInt m = nearestInt n)) := by
    rw [Evaluator.equals_eq_map, Registry.evaluator_equal hr (Registry.defaults.evaluator host),
      ← deepEq_integers hm hn]
    rfl
  refine ⟨f, hf, !decide (nearestInt m = nearestInt n), hanswer host document _ ?_, ?_⟩
  · rw [hdoc]
    exact Builtin.run_notEqual hequal
  · rw [Bool.not_eq_true', decide_eq_false_iff_not]

theorem decides_ordered (relation : Relation) : Decides host document
    (.object [(key, .object [((Builtin.ordered relation).name, .number (.int n))])])
      (relation.Holds (nearestInt m) (nearestInt n)) := by
  obtain ⟨f, hf, hanswer⟩ :=
    exists_of_literal hkey (.ordered relation) rfl (v := .number (.int n)) rfl
  refine ⟨f, hf, _, hanswer host document _ rfl, ?_⟩
  rw [hdoc, compareValues?_integers hm hn, Option.any_some, relation.accepts_compare]

/-- **Integers compare as the floats nearest to them.** -/
theorem matches?_integers :
    Decides host document (.object [(key, .number (.int n))]) (nearestInt m = nearestInt n) ∧
    Decides host document (.object [(key, .object [("$ne", .number (.int n))])])
      (nearestInt m ≠ nearestInt n) ∧
    (∀ relation, Decides host document
      (.object [(key, .object [((Builtin.ordered relation).name, .number (.int n))])])
        (relation.Holds (nearestInt m) (nearestInt n))) ∧
    (m = n ∨ nearestInt m ≠ nearestInt n →
      (nearestInt m = nearestInt n ↔ m = n) ∧
        ∀ relation : Relation,
          relation.Holds (nearestInt m) (nearestInt n) ↔ relation.Holds m n) ∧
    (m.natAbs ≤ 2 ^ 53 → nearestInt m = m) := by
  refine ⟨?_, decides_notEqual hkey host hm hn hdoc, decides_ordered hkey host hm hn hdoc,
    fun h => ⟨⟨?_, congrArg nearestInt⟩, fun relation => ?_⟩, fun h => ?_⟩
  · rw [Decides, ofValue_scalar hkey rfl]
    exact decides_equal hkey host hm hn hdoc
  · exact fun hsame => h.resolve_right (not_not_intro hsame)
  · rw [← relation.accepts_compare, ← relation.accepts_compare, compare_nearestInt h]
  · exact nearestInt_of_nearestNat (nearestNat_of_le h)

end

/-- Different integers of more than 53 digits, one of which is rounded. -/
theorem matches?_integers_rounded :
    (∃ f, ofValue (Registry.defaults : Registry Empty)
        (.object [("f", .object [("$lt", .number (.int 9007199254740994))])]) = .ok f ∧
      f.matches? Host.none (.object [("f", .number (.int 9007199254740993))]) = .ok true) ∧
    ∃ f, ofValue (Registry.defaults : Registry Empty)
        (.object [("f", .number (.int 9007199254740994))]) = .ok f ∧
      f.matches? Host.none (.object [("f", .number (.int 9007199254740993))]) = .ok false := by
  have hkey : (Registry.defaults : Registry Empty).get? "f" = none := rfl
  have hm : JsonNumber.Kept 9007199254740993 := ⟨by decide, by decide⟩
  have hn : JsonNumber.Kept 9007199254740994 := ⟨by decide, by decide⟩
  have hdoc : Selector.resolve ⟨"f"⟩ (.object [("f", .number (.int 9007199254740993))]) =
      some (.number (.int 9007199254740993)) := rfl
  have hapart : nearestInt 9007199254740993 ≠ nearestInt 9007199254740994 := by decide
  obtain ⟨⟨f, hf, b, hb, hequal⟩, -, hbounds, hexact, -⟩ :=
    matches?_integers hkey Host.none hm hn hdoc
  obtain ⟨hsame, hrelated⟩ := hexact (.inr hapart)
  obtain ⟨g, hg, c, hc, hless⟩ := hbounds .less
  obtain rfl : c = true := hless.mpr ((hrelated .less).mpr (by decide))
  obtain rfl : b = false := Bool.eq_false_iff.mpr fun h => hapart (hequal.mp h)
  exact ⟨⟨g, hg, hc⟩, f, hf, hb⟩

/-- Two different integers that have one nearest float are equal. -/
theorem matches?_integers_failing :
    ∃ f, (Registry.defaults : Registry Empty).get? "f" = none ∧
      JsonNumber.Kept 9007199254740992 ∧ JsonNumber.Kept 9007199254740993 ∧
      Selector.resolve ⟨"f"⟩ (.object [("f", .number (.int 9007199254740992))]) =
        some (.number (.int 9007199254740992)) ∧
      ofValue (Registry.defaults : Registry Empty)
        (.object [("f", .number (.int 9007199254740993))]) = .ok f ∧
      f.matches? Host.none (.object [("f", .number (.int 9007199254740992))]) = .ok true ∧
      (9007199254740992 : Int) ≠ 9007199254740993 :=
  ⟨_, rfl, ⟨by decide, by decide⟩, ⟨by decide, by decide⟩, rfl, rfl, rfl, by decide⟩

end Filter

end DocFilter
