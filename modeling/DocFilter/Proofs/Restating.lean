import DocFilter.Proofs.DistinctKeys
import DocFilter.Proofs.Integers
import DocFilter.Proofs.Symmetry

/-!
# Values written in another way

One value can be written in several ways: the keys of an object come in any order, and a whole
number is an integer or a float. `Json.Restates` relates two values that differ in nothing else, at
any depth. Deep equality does not tell such values apart, from either side. It follows the relation
layer by layer, and at a number it compares two forms of one number, both turned into floats
(`JsonNumber.toFloat_beq`). An integer that is a float as well is not rounded, and an integer that
is rounded is rounded alike on both sides.

NaN is not equal to itself, and no JSON writes it. `Json.Finite` leaves it out, and every value that
is read from a query text or a document is finite (`finite_of_decodeQuery`,
`Document.finite_of_ofText`).

> `Filter.matches?_restated`: a value is equal to itself and to every other way to write it, and a
> field that holds it matches a reference to a field that holds the other.
-/

namespace DocFilter

variable {κ : Type}

/-! ## Numbers in two forms -/

namespace JsonNumber

/-- The number that is written: by an integer that is kept, or by a finite float. -/
inductive Writes : JsonNumber → ℚ → Prop
  | int {i : Int} {q : ℚ} (kept : Kept i) (value : (i : ℚ) = q) : Writes (.int i) q
  | float {x : Float} {q : ℚ} (value : floatValue? x = some q) : Writes (.float x) q

variable {a b : JsonNumber} {q : ℚ}

/-- Two forms of one number become floats of one number, which may be a rounded one. -/
theorem Writes.exists_floatValue? (ha : a.Writes q) (hb : b.Writes q) :
    ∃ p, floatValue? a.toFloat = some p ∧ floatValue? b.toFloat = some p := by
  cases ha with
  | @int i _ hi hiq =>
    cases hb with
    | @int j _ hj hjq =>
      obtain rfl : i = j := Int.cast_injective (hiq.trans hjq.symm)
      exact ⟨_, hi.floatValue?, hi.floatValue?⟩
    | float hx =>
      subst hiq
      refine ⟨_, hi.floatValue?, ?_⟩
      rw [nearestInt_of_floatValue? hx]
      exact hx
  | float hx =>
    cases hb with
    | int hj hjq =>
      subst hjq
      refine ⟨_, hx, ?_⟩
      rw [toFloat, hj.floatValue?, nearestInt_of_floatValue? hx]
    | float hy => exact ⟨q, hx, hy⟩

/-- **Two forms of one number are equal as floats.** -/
theorem toFloat_beq (ha : a.Writes q) (hb : b.Writes q) : (a.toFloat == b.toFloat) = true := by
  obtain ⟨p, hp, hp'⟩ := ha.exists_floatValue? hb
  rw [← compareFloats?_eq_some_eq, compareFloats?_eq_compare hp hp', compare_eq_iff_eq.mpr rfl]

end JsonNumber

namespace Json

/-! ## Values in two forms -/

/-- The second value is the first one with the keys of its objects in another order and its numbers
in another form, at any depth. -/
inductive Restates : Json → Json → Prop
  | plain {v : Json} (scalar : v.isContainer = false) (plain : ∀ a, v ≠ .number a) :
      Restates v v
  | number {a b : JsonNumber} {q : ℚ} (left : a.Writes q) (right : b.Writes q) :
      Restates (.number a) (.number b)
  | array {vs ws : List Json} (length : vs.length = ws.length)
      (items : ∀ (i : Nat) v w, vs[i]? = some v → ws[i]? = some w → Restates v w) :
      Restates (.array vs) (.array ws)
  | object {ms ns : Members} (keys : ms.keys.Perm ns.keys)
      (members : ∀ key v w, ms.get? key = some v → ns.get? key = some w → Restates v w) :
      Restates (.object ms) (.object ns)

/-- No number in the value is an infinity or NaN, and no integer is too great to be kept. -/
inductive Finite : Json → Prop
  | plain {v : Json} (scalar : v.isContainer = false) (plain : ∀ a, v ≠ .number a) : Finite v
  | number {a : JsonNumber} {q : ℚ} (writes : a.Writes q) : Finite (.number a)
  | array {items : List Json} (finite : ∀ item ∈ items, Finite item) : Finite (.array items)
  | object {members : Members} (finite : ∀ m ∈ members, Finite m.2) : Finite (.object members)

theorem Finite.inherited : Inherited Finite := by
  refine ⟨⟨fun h => ?_, .array⟩, fun _ => .object⟩
  cases h with
  | plain hscalar => cases hscalar
  | array hitems => exact hitems

/-- The scalars that are read are finite. -/
theorem Plain.finite {v : Json} (h : v.Plain) : v.Finite := by
  cases h with
  | null | bool | string => exact .plain rfl fun _ => Json.noConfusion
  | int least bound => exact .number (.int ⟨least, bound⟩ rfl)
  | float hfinite =>
    obtain ⟨q, hq⟩ := Option.isSome_iff_exists.mp ((isSome_floatValue? _).trans hfinite)
    exact .number (.float hq)

namespace Restates

/-- A value is a way to write itself. -/
theorem refl {v : Json} (h : v.Finite) : v.Restates v := by
  induction h with
  | plain hscalar hplain => exact .plain hscalar hplain
  | number h => exact .number h h
  | array _ ih =>
    refine .array rfl fun i v w hv hw => ?_
    obtain rfl := Option.some.inj (hv.symm.trans hw)
    exact ih v (List.mem_of_getElem? hv)
  | object _ ih =>
    refine .object (.refl _) fun key v w hv hw => ?_
    obtain rfl := Option.some.inj (hv.symm.trans hw)
    exact ih (key, v) (Members.mem_of_get? hv)

theorem symm {v w : Json} (h : v.Restates w) : w.Restates v := by
  induction h with
  | plain hscalar hplain => exact .plain hscalar hplain
  | number ha hb => exact .number hb ha
  | array length _ ih => exact .array length.symm fun i w v hw hv => ih i v w hv hw
  | object keys _ ih => exact .object keys.symm fun key w v hw hv => ih key v w hv hw

/-- What has the same keys has distinct ones when the other has. -/
theorem distinct {v w : Json} (h : v.Restates w) (hv : v.Distinct) : w.Distinct := by
  induction h with
  | plain hscalar => exact .scalar hscalar
  | number => exact .scalar rfl
  | @array vs ws length _ ih =>
    refine .array fun item hitem => ?_
    obtain ⟨i, hi⟩ := List.mem_iff_getElem?.mp hitem
    obtain ⟨v, hvi⟩ : ∃ v, vs[i]? = some v := by
      have hlt : i < vs.length := length ▸ (List.getElem?_eq_some_iff.mp hi).1
      exact ⟨_, List.getElem?_eq_getElem hlt⟩
    exact ih i v item hvi hi (hv.items v (List.mem_of_getElem? hvi))
  | @object ms ns keys _ ih =>
    have hkeys : ns.keys.Nodup := keys.nodup_iff.mp hv.keys
    refine .object hkeys fun m hm => ?_
    have hfound := (Members.get?_eq_some hkeys).mpr hm
    have hkey : m.1 ∈ ms.keys := keys.mem_iff.mpr (List.mem_map_of_mem hm)
    obtain ⟨v, hvm⟩ := Option.isSome_iff_exists.mp (Members.isSome_get?.mpr hkey)
    exact ih m.1 v m.2 hvm hfound (hv.get? hvm)

/-- **A value is equal to every way to write it.** -/
theorem deepEqual {v w : Json} (h : v.Restates w) (hv : v.Distinct) : DeepEqual (some w) v := by
  induction h with
  | @plain v hscalar hplain =>
    refine .scalar hscalar ?_
    cases v with
    | null => rfl
    | bool b => exact beq_self_eq_true b
    | string s => exact beq_self_eq_true s
    | number a => exact absurd rfl (hplain a)
    | array | object => cases hscalar
  | number ha hb => exact .scalar rfl (JsonNumber.toFloat_beq hb ha)
  | array length _ ih =>
    exact .array length.symm fun i w v hw hv' =>
      ih i v w hv' hw (hv.items v (List.mem_of_getElem? hv'))
  | object keys _ ih =>
    refine .object (fun key => keys.mem_iff.symm) fun key w v hw hv' => ?_
    have hfound := (Members.get?_eq_some hv.keys).mpr hv'
    exact ih key v w hfound hw (hv.get? hfound)

/-- Equality holds from either side. -/
theorem deepEq {v w : Json} (h : v.Restates w) (hv : v.Distinct) :
    deepEq v (some w) = true ∧ deepEq w (some v) = true :=
  ⟨deepEq_iff.mpr (h.deepEqual hv), deepEq_iff.mpr (h.symm.deepEqual (h.distinct hv))⟩

end Restates

end Json

/-! ## Values that are read -/

/-- **Every query text that can be read is finite.** -/
theorem finite_of_decodeQuery {text : String} {v : Json} (h : decodeQuery text = .ok v) :
    v.Finite :=
  inherited_of_decodeQuery Json.Finite.inherited Json.Plain.finite h

/-- **Every document that can be read is finite.** -/
theorem Document.finite_of_ofText {source text : String} {documents : List Document}
    (h : ofText source text = .ok documents) : ∀ document ∈ documents, document.value.Finite :=
  inherited_of_ofText Json.Finite.inherited Json.Plain.finite h

/-! ## Two fields that hold one value -/

/-- **Equality does not see how a value is written.** -/
theorem Filter.matches?_restated {v : Json} (hd : v.Distinct) (hv : v.Finite) :
    v.Restates v ∧ ∀ w, v.Restates w →
      deepEq v (some w) = true ∧ deepEq w (some v) = true ∧
        ∀ f g, (Registry.defaults : Registry κ).get? f = none →
          ∃ p : Filter κ, Filter.ofValue Registry.defaults
              (.object [(f, .object [("$val", .string g)])]) = .ok p ∧
            ∀ (host : Host κ) (document x y : Json), x = v ∧ y = w ∨ x = w ∧ y = v →
              Selector.resolve ⟨f⟩ document = some x → Selector.resolve ⟨g⟩ document = some y →
              p.matches? host document = .ok true := by
  refine ⟨.refl hv, fun w hw => ⟨(hw.deepEq hd).1, (hw.deepEq hd).2, fun f g hf => ?_⟩⟩
  obtain ⟨p, hp, hanswer⟩ := exists_of_bare_reference hf g
  refine ⟨p, hp, fun host document x y hxy hx hy => ?_⟩
  obtain ⟨b, hb, hequal⟩ := hanswer host document
  rw [hx, hy] at hequal
  rw [hb]
  refine congrArg Except.ok (hequal.mpr ?_)
  rcases hxy with ⟨rfl, rfl⟩ | ⟨rfl, rfl⟩
  · exact hw.symm.deepEqual (hw.distinct hd)
  · exact hw.deepEqual hd

/-- An object with a whole number in it, and the same with its keys in another order and the number
as a float. -/
theorem Filter.matches?_restated_number :
    deepEq (.object [("a", .number (.int 1)), ("b", .array [.null])])
        (some (.object [("b", .array [.null]), ("a", .number (.float 1))])) = true ∧
      ∃ p, Filter.ofValue (Registry.defaults : Registry Empty)
          (.object [("f", .object [("$val", .string "g")])]) = .ok p ∧
        p.matches? Host.none
          (.object [("f", .object [("a", .number (.int 1)), ("b", .array [.null])]),
            ("g", .object [("b", .array [.null]), ("a", .number (.float 1))])]) = .ok true := by
  have hnull : ∀ a, Json.null ≠ .number a := by simp
  have hkept : JsonNumber.Kept 1 := ⟨by decide, by decide⟩
  have hint : (JsonNumber.int 1).Writes 1 := .int hkept Int.cast_one
  have hfloat : (JsonNumber.float 1).Writes 1 := .float (hkept.floatValue?.trans (by
    rw [show nearestInt 1 = 1 by decide, Int.cast_one]))
  have hlist : (Json.array [.null]).Finite :=
    .array (List.forall_mem_singleton.mpr (.plain rfl hnull))
  have hd : (Json.object [("a", .number (.int 1)), ("b", .array [.null])]).Distinct :=
    .object (by decide) (List.forall_mem_cons.mpr ⟨.scalar rfl, List.forall_mem_singleton.mpr
      (.array (List.forall_mem_singleton.mpr (.scalar rfl)))⟩)
  have hv : (Json.object [("a", .number (.int 1)), ("b", .array [.null])]).Finite :=
    .object (List.forall_mem_cons.mpr ⟨.number hint, List.forall_mem_singleton.mpr hlist⟩)
  have hw : (Json.object [("a", .number (.int 1)), ("b", .array [.null])]).Restates
      (.object [("b", .array [.null]), ("a", .number (.float 1))]) := by
    refine .object (by decide) fun key v w hv hw => ?_
    have hmem := Members.mem_of_get? hv
    simp only [List.mem_cons, Prod.mk.injEq, List.not_mem_nil, or_false] at hmem
    obtain ⟨rfl, rfl⟩ | ⟨rfl, rfl⟩ := hmem
    · obtain rfl := Option.some.inj hw
      exact .number hint hfloat
    · obtain rfl := Option.some.inj hw
      exact .refl hlist
  obtain ⟨-, hall⟩ := Filter.matches?_restated (κ := Empty) hd hv
  obtain ⟨hequal, -, hfields⟩ := hall _ hw
  obtain ⟨p, hp, hanswer⟩ := hfields "f" "g" rfl
  exact ⟨hequal, p, hp, hanswer Host.none _ _ _ (.inl ⟨rfl, rfl⟩) rfl rfl⟩

end DocFilter
