import DocFilter.Coercion
import DocFilter.Proofs.Except
import DocFilter.Proofs.Reordering
import DocFilter.Selector.Basic

/-!
# What functions see of similar values

Nothing that operations do with values tells values apart that differ in the order of keys only.
Their texts are the same (`Json.Similar.plainText_eq`), and so are truth, emptiness, numbers and
order. Equality cannot tell them apart, on either side:

> `Json.Similar.same_eq`, `looseEq_similar`, `deepEq_similar`: whether two values are equal does
> not change when both of them are reordered.

Last, a selector finds similar values in similar documents (`Selector.resolve_similar`).

A function that descends into values is followed by induction on the first of them, one layer at a
time. Both kinds of equality that look into objects ask of every member whether it has its match
in the other object (`Members.allMatch`), which with distinct keys is asked key by key.
-/

namespace DocFilter

/-! ## Lists and options of related values -/

section
variable {R S : Json → Json → Prop}

theorem getElem?_related {xs ys : List Json} (h : List.Forall₂ R xs ys) (n : Nat) :
    Option.Rel R xs[n]? ys[n]? := by
  induction h generalizing n with
  | nil => exact .none
  | cons hxy _ ih =>
    cases n with
    | zero => exact .some hxy
    | succ n => exact ih n

variable {o o' : Option Json} (h : Option.Rel R o o')
include h

theorem isSome_related : o.isSome = o'.isSome := by
  cases h <;> rfl

theorem any_related {p q : Json → Bool} (hpq : ∀ v w, R v w → p v = q w) : o.any p = o'.any q := by
  cases h with
  | none => rfl
  | some h => exact hpq _ _ h

theorem all_related {p q : Json → Bool} (hpq : ∀ v, o = some v → ∀ w, R v w → p v = q w) :
    o.all p = o'.all q := by
  cases h with
  | none => rfl
  | some h => exact hpq _ rfl _ h

theorem bind_related {f g : Json → Option Json} (hfg : ∀ v w, R v w → Option.Rel S (f v) (g w)) :
    Option.Rel S (o.bind f) (o'.bind g) := by
  cases h with
  | none => exact .none
  | some h => exact hfg _ _ h

end

/-! ## Texts -/

namespace Json

theorem plainTexts_eq {xs ys : List Json}
    (h : List.Forall₂ (fun x y => plainText x = plainText y) xs ys) :
    plainTexts xs = plainTexts ys := by
  induction h with
  | nil => rfl
  | cons hxy _ ih => rw [plainTexts, plainTexts, hxy, ih]

namespace Similar

theorem plainText_eq {v w : Json} (h : v.Similar w) : v.plainText = w.plainText := by
  induction v using Json.induct generalizing w with
  | scalar v hv => rw [h.eq_of_scalar hv]
  | array xs ih =>
    cases h.layer with
    | scalar => rfl
    | array hitems =>
      rw [plainText, plainText, plainTexts_eq (forall₂_of_mem hitems fun x hx _ _ => ih x hx)]
  | object => cases h.layer <;> rfl

theorem orderText?_eq {v w : Json} (h : v.Similar w) : v.orderText? = w.orderText? := by
  have htext := h.plainText_eq
  cases h.layer with
  | scalar => rfl
  | array => exact congrArg some htext
  | object => rfl

end Similar

end Json

/-! ## Members that match -/

namespace Members

/-- What is asked of all members can be asked key by key. -/
theorem all_eq_true {members : Members} (h : members.keys.Nodup) (p : String → Json → Bool) :
    (members.all fun m => p m.1 m.2) = true ↔
      ∀ key, (members.get? key).all (p key) = true := by
  simp only [List.all_eq_true, Option.all_eq_true]
  refine ⟨fun hall key value hget => hall _ ((get?_eq_some h).mp hget), fun hall m hm => ?_⟩
  exact hall m.1 m.2 ((get?_eq_some h).mpr hm)

/-- Every member of one object has its match in another. -/
def allMatch (p : Json → Json → Bool) (ms ns : Members) : Bool :=
  ms.all fun m => (ns.get? m.1).any (p m.2)

theorem allMatch_cons (p : Json → Json → Bool) (m : String × Json) (ms ns : Members) :
    allMatch p (m :: ms) ns = ((ns.get? m.1).any (p m.2) && ms.allMatch p ns) :=
  List.all_cons

namespace Related

variable {R : Json → Json → Prop} {ms ms' ns ns' : Members}

theorem length_eq (h : Related R ms ms') : ms.length = ms'.length := by
  simpa only [Members.keys, List.length_map] using h.keys.length_eq

/-- A condition on keys is met alike. -/
theorem all_keys_eq (h : Related R ms ms') (p : String → Bool) :
    (ms.all fun m => p m.1) = ms'.all fun m => p m.1 := by
  have hkeys : ms.keys.all p = ms'.keys.all p := h.keys.all_eq
  rwa [Members.keys, Members.keys, List.all_map, List.all_map] at hkeys

/-- Which keys another object has is asked alike. -/
theorem all_isSome_eq (h : Related R ms ms') (h' : Related R ns ns') :
    (ns.all fun m => (ms.get? m.1).isSome) = ns'.all fun m => (ms'.get? m.1).isSome := by
  rw [h'.all_keys_eq fun key => (ms.get? key).isSome]
  exact congrArg ns'.all (funext fun m => isSome_related (h.get? m.1))

/-- Matches are found alike. -/
theorem allMatch_eq (h : Related R ms ms') (h' : Related R ns ns') (hm : ms.keys.Nodup)
    {p : Json → Json → Bool}
    (hp : ∀ m ∈ ms, ∀ {v' w w'}, R m.2 v' → R w w' → p m.2 w = p v' w') :
    ms.allMatch p ns = ms'.allMatch p ns' := by
  have hm' : ms'.keys.Nodup := h.keys.nodup_iff.mp hm
  rw [Bool.eq_iff_iff, allMatch, allMatch, all_eq_true hm fun key v => (ns.get? key).any (p v),
    all_eq_true hm' fun key v => (ns'.get? key).any (p v)]
  refine forall_congr' fun key => ?_
  rw [all_related (h.get? key)]
  intro v hv v' hvv'
  refine any_related (h'.get? key) fun w w' hww' => ?_
  exact hp _ ((get?_eq_some hm).mp hv) hvv' hww'

end Related

end Members

/-! ## Equality as values are held -/

namespace Json

theorem same_scalar_left {v w : Json} (hv : v.isContainer = false) (hw : w.isContainer = true) :
    v.same w = false := by
  cases w with
  | array | object => cases v <;> first | rfl | cases hv
  | _ => cases hw

theorem same_scalar_right {v w : Json} (hv : v.isContainer = true) (hw : w.isContainer = false) :
    v.same w = false := by
  cases v with
  | array | object => cases w <;> first | rfl | cases hw
  | _ => cases hv

theorem sameItems_eq {xs ys zs ws : List Json}
    (h : List.Forall₂ (fun x y => ∀ {z w}, Similar z w → x.same z = y.same w) xs ys)
    (h' : List.Forall₂ Similar zs ws) : sameItems xs zs = sameItems ys ws := by
  induction h generalizing zs ws with
  | nil => cases h' <;> rfl
  | cons hxy _ ih =>
    cases h' with
    | nil => rfl
    | cons hzw hrest => rw [sameItems, sameItems, hxy hzw, ih hrest]

theorem sameMembers_eq_allMatch (ms ns : Members) : sameMembers ms ns = ms.allMatch same ns := by
  induction ms with
  | nil => rfl
  | cons m ms ih =>
    rw [sameMembers, ih, Members.allMatch_cons]
    cases ns.get? m.1 <;> rfl

/-- **Equality of values as they are held cannot tell similar values apart.** -/
theorem Similar.same_eq {v v' w w' : Json} (hv : v.Similar v') (hw : w.Similar w') :
    v.same w = v'.same w' := by
  induction v using Json.induct generalizing v' w w' with
  | scalar v hscalar =>
    rw [hv.eq_of_scalar hscalar]
    cases hw.layer with
    | scalar => rfl
    | array | object => rw [same_scalar_left hscalar rfl, same_scalar_left hscalar rfl]
  | array xs ih =>
    cases hv.layer with
    | scalar hscalar => cases hscalar
    | array hxs =>
      cases hw.layer with
      | scalar hscalar => rw [same_scalar_right rfl hscalar, same_scalar_right rfl hscalar]
      | array hys =>
        exact sameItems_eq (forall₂_of_mem hxs fun x hx _ _ hxy _ _ hzw => ih x hx hxy hzw) hys
      | object => rfl
  | object ms ih =>
    cases hv.layer with
    | scalar hscalar => cases hscalar
    | object hms =>
      cases hw.layer with
      | scalar hscalar => rw [same_scalar_right rfl hscalar, same_scalar_right rfl hscalar]
      | array => rfl
      | object hns =>
        rw [same, same, sameMembers_eq_allMatch, sameMembers_eq_allMatch,
          hms.allMatch_eq hns hv.distinct.keys ih, hms.length_eq, hns.length_eq]

end Json

/-! ## Coercions -/

section
variable {o o' : Option Json} (h : Option.Rel Json.Similar o o')
include h

theorem truthy_similar : truthy o = truthy o' := by
  cases h with
  | none => rfl
  | some h => cases h.layer <;> rfl

theorem isEmptyValue_similar : isEmptyValue o = isEmptyValue o' := by
  cases h with
  | none => rfl
  | some h =>
    cases h.layer with
    | scalar => rfl
    | array hitems => cases hitems <;> rfl
    | object hmembers =>
      rw [isEmptyValue, isEmptyValue, Bool.eq_iff_iff, List.isEmpty_iff_length_eq_zero,
        List.isEmpty_iff_length_eq_zero, hmembers.length_eq]

theorem toNumber?_similar : toNumber? o = toNumber? o' := by
  cases h with
  | none => rfl
  | some h =>
    cases h.layer with
    | scalar | object => rfl
    | array hitems =>
      -- an array of one item stands for the number that the text of the item stands for
      cases hitems with
      | nil => rfl
      | cons hxy hrest =>
        cases hrest with
        | nil => exact congrArg textNumber? hxy.plainText_eq
        | cons => rfl

end

theorem isContainer_integralJson (exact : Int) (x : Float) :
    (integralJson exact x).isContainer = false := by
  unfold integralJson
  split <;> rfl

/-- A number that is computed is no container. -/
theorem isContainer_of_numberJson? {x : Float} {v : Json} (h : numberJson? x = some v) :
    v.isContainer = false := by
  unfold numberJson? at h
  split at h
  · cases h
  · split at h
    · cases h
      exact isContainer_integralJson _ _
    · cases h
      rfl

theorem Rounding.isContainer_of_apply? {rounding : Rounding} {x : Float} {v : Json}
    (h : rounding.apply? x = some v) : v.isContainer = false := by
  unfold Rounding.apply? at h
  dsimp only at h
  split at h
  · cases h
  · split at h <;> cases h <;> exact isContainer_integralJson _ _

/-- Similar values are rounded to the same number. -/
theorem Rounding.value?_similar (rounding : Rounding) {c c' : Option Json}
    (hc : Option.Rel Json.Similar c c') :
    Option.Rel Json.Similar (rounding.value? c) (rounding.value? c') := by
  have hnumber : rounding.value? c = rounding.value? c' := by
    rw [Rounding.value?, Rounding.value?, toNumber?_similar hc]
  rw [hnumber]
  refine Json.Similar.rel_refl fun v hv => .scalar ?_
  obtain ⟨x, -, hx⟩ := Option.bind_eq_some_iff.mp hv
  exact Rounding.isContainer_of_apply? hx

/-- A scalar meets a container as its text. -/
theorem looseEq_scalar_left {v w w' : Json} (hv : v.isContainer = false) (hw : w.Similar w') :
    looseEq (some v) (some w) = looseEq (some v) (some w') := by
  have htext := hw.plainText_eq
  cases hw.layer with
  | scalar => rfl
  | array | object =>
    cases v with
    | array | object => cases hv
    | null => rfl
    | _ => simp only [looseEq, Json.isContainer, htext]

theorem looseEq_scalar_right {v v' w : Json} (hv : v.Similar v') (hw : w.isContainer = false) :
    looseEq (some v) (some w) = looseEq (some v') (some w) := by
  have htext := hv.plainText_eq
  cases hv.layer with
  | scalar => rfl
  | array | object =>
    cases w with
    | array | object => cases hw
    | null => rfl
    | _ => simp only [looseEq, Json.isContainer, htext]

section
variable {o o' p p' : Option Json} (ho : Option.Rel Json.Similar o o')
  (hp : Option.Rel Json.Similar p p')
include ho hp

theorem compareValues?_similar : compareValues? o p = compareValues? o' p' := by
  have hnumber := toNumber?_similar ho
  have hnumber' := toNumber?_similar hp
  cases ho with
  | none => rfl
  | some hv =>
    cases hp with
    | none => rfl
    | some hw => simp only [compareValues?, hv.orderText?_eq, hw.orderText?_eq, hnumber, hnumber']

/-- **Loose equality cannot tell similar values apart.** -/
theorem looseEq_similar : looseEq o p = looseEq o' p' := by
  cases ho with
  | none =>
    cases hp with
    | none => rfl
    | some hw => cases hw.layer <;> rfl
  | some hv =>
    cases hp with
    | none => cases hv.layer <;> rfl
    | some hw =>
      have hsame := hv.same_eq hw
      cases hv.layer with
      | scalar hscalar => exact looseEq_scalar_left hscalar hw
      | array | object =>
        cases hw.layer with
        | scalar hscalar => exact looseEq_scalar_right hv hscalar
        | array | object => exact hsame

end

/-! ## Deep equality -/

theorem deepEqItems_eq {xs ys zs ws : List Json}
    (h : List.Forall₂ (fun x y => ∀ {z w}, Json.Similar z w →
      deepEq x (some z) = deepEq y (some w)) xs ys)
    (h' : List.Forall₂ Json.Similar zs ws) : deepEqItems xs zs = deepEqItems ys ws := by
  induction h generalizing zs ws with
  | nil => cases h' <;> rfl
  | cons hxy _ ih =>
    cases h' with
    | nil => rfl
    | cons hzw hrest => rw [deepEqItems, deepEqItems, hxy hzw, ih hrest]

theorem deepEqMembers_eq_allMatch (ms ns : Members) :
    deepEqMembers ms ns = ms.allMatch (fun expected value => deepEq expected (some value)) ns := by
  induction ms with
  | nil => rfl
  | cons m ms ih =>
    rw [deepEqMembers, ih, Members.allMatch_cons]
    cases ns.get? m.1 <;> rfl

theorem deepEq_array_scalar {v : Json} (hv : v.isContainer = false) (xs : List Json) :
    deepEq (.array xs) (some v) = false := by
  cases v with
  | array | object => cases hv
  | _ => rfl

theorem deepEq_object_scalar {v : Json} (hv : v.isContainer = false) (ms : Members) :
    deepEq (.object ms) (some v) = false := by
  cases v with
  | array | object => cases hv
  | _ => rfl

theorem deepEq_scalar {e : Json} (he : e.isContainer = false) (o : Option Json) :
    deepEq e o = looseEq o (some e) := by
  cases e with
  | array | object => cases he
  | _ => rfl

/-- **Deep equality cannot tell similar values apart**, neither as what is expected nor as what is
there. -/
theorem deepEq_similar {e e' : Json} (he : e.Similar e') {o o' : Option Json}
    (ho : Option.Rel Json.Similar o o') : deepEq e o = deepEq e' o' := by
  induction e using Json.induct generalizing e' o o' with
  | scalar e hscalar =>
    rw [he.eq_of_scalar hscalar, deepEq_scalar hscalar, deepEq_scalar hscalar]
    exact looseEq_similar ho (.some (.of_scalar hscalar))
  | array xs ih =>
    cases he.layer with
    | scalar hscalar => cases hscalar
    | array hxs =>
      cases ho with
      | none => rfl
      | some hv =>
        cases hv.layer with
        | scalar hscalar => rw [deepEq_array_scalar hscalar, deepEq_array_scalar hscalar]
        | array hys =>
          have hitems := deepEqItems_eq (forall₂_of_mem hxs fun x hx _ _ hxy _ _ hzw =>
            ih x hx hxy (.some hzw)) hys
          rw [deepEq, deepEq, hitems, hxs.length_eq, hys.length_eq]
        | object => rfl
  | object ms ih =>
    cases he.layer with
    | scalar hscalar => cases hscalar
    | object hms =>
      cases ho with
      | none => rfl
      | some hv =>
        cases hv.layer with
        | scalar hscalar => rw [deepEq_object_scalar hscalar, deepEq_object_scalar hscalar]
        | array => rfl
        | object hns =>
          have hmatch := hms.allMatch_eq hns he.distinct.keys
            (p := fun expected value => deepEq expected (some value))
            fun m hm _ _ _ h h' => ih m hm h (.some h')
          rw [deepEq, deepEq, deepEqMembers_eq_allMatch, deepEqMembers_eq_allMatch, hmatch,
            hms.all_isSome_eq hns]

/-! ## Selectors -/

namespace Selector

/-- One key selects similar values. -/
theorem child?_similar {v w : Json} (h : v.Similar w) (key : String) :
    Option.Rel Json.Similar (child? v key) (child? w key) := by
  cases h.layer with
  | scalar hscalar =>
    cases v with
    | array | object => cases hscalar
    | _ => exact .none
  | array hitems =>
    rw [child?, child?]
    cases position? key with
    | none => exact .none
    | some n => exact getElem?_related hitems n
  | object hmembers => exact hmembers.get? key

theorem follow_similar (keys : List String) {v w : Json} (h : v.Similar w) :
    Option.Rel Json.Similar (follow keys v) (follow keys w) := by
  induction keys generalizing v w with
  | nil => exact .some h
  | cons key keys ih => exact bind_related (child?_similar h key) fun _ _ hchild => ih hchild

/-- **A selector finds similar values in similar documents**, or nothing in either. -/
theorem resolve_similar (s : Selector) {d d' : Json} (h : d.Similar d') :
    Option.Rel Json.Similar (s.resolve d) (s.resolve d') := by
  unfold resolve
  cases s.segments with
  | nil => exact .none
  | cons key keys => exact follow_similar (key :: keys) h

end Selector

end DocFilter
