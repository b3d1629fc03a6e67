import DocFilter.Proofs.Comparisons

/-!
# Deep equality from either side

Equality of two values looks symmetric, and between two values of one shape it is. But `deepEq` goes
by the shape of what is expected: a container is a container's equal only, while a scalar that is
expected is equal to a container whose text it is. So a list of one number is equal to the number,
and the number is not equal to the list.

Equality goes through two values together, and `Json.Meets` says what it finds opposite each other
on the way. What comes between the two sides is then just that:

> `DeepEqual.swap_iff`: a value that is equal to an expected one is itself what can be expected of
> it, exactly when nowhere a container of it meets a scalar.

For filters that refer to each other's field it follows that they answer alike unless, somewhere, a
container on one side meets a scalar on the other that is equal to its text
(`Filter.matches?_symmetric`).
-/

namespace DocFilter

variable {κ : Type}

/-! ## Where two values meet -/

/-- Going through `v` and `w` together, one comes to `x` in the one and to `y` in the other. -/
inductive Json.Meets : Json → Json → Json → Json → Prop
  | here (v w : Json) : Meets v w v w
  | item {vs ws : List Json} {v w x y : Json} (i : Nat) (hv : vs[i]? = some v) (hw : ws[i]? = some w)
      (h : Meets v w x y) : Meets (.array vs) (.array ws) x y
  | member {ms ns : Members} {v w x y : Json} (key : String) (hv : ms.get? key = some v)
      (hw : ns.get? key = some w) (h : Meets v w x y) : Meets (.object ms) (.object ns) x y

/-- Where one value meets another, the other meets the one. -/
theorem Json.Meets.swap {v w x y : Json} (h : v.Meets w x y) : w.Meets v y x := by
  induction h with
  | here v w => exact .here w v
  | item i hv hw _ ih => exact .item i hw hv ih
  | member key hv hw _ ih => exact .member key hw hv ih

/-- A container whose text is loosely equal to a scalar. -/
structure Json.ReadsAs (x y : Json) : Prop where
  container : x.isContainer = true
  scalar : y.isContainer = false
  equal : looseEq (some x) (some y) = true

/-! ## Deep equality -/

/-- Loose equality of two scalars can be asked from either side. -/
theorem looseEq_scalar_comm {a b : Json} (ha : a.isContainer = false) (hb : b.isContainer = false) :
    looseEq (some a) (some b) = looseEq (some b) (some a) := by
  by_cases hanull : a = .null
  · subst hanull
    cases b <;> rfl
  by_cases hbnull : b = .null
  · subst hbnull
    cases a <;> rfl
  -- both have an order then, and of equal values it is the same from either side
  rw [Bool.eq_iff_iff, looseEq_iff_compareValues? hanull hb hbnull,
    looseEq_iff_compareValues? hbnull ha hanull, compareValues?_swap (some a) (some b),
    map_swap_eq_some]
  rfl

/-- An absent value is equal to what `null` is equal to. -/
theorem deepEq_getD (expected : Json) (value : Option Json) :
    deepEq expected value = deepEq expected (some (value.getD .null)) := by
  cases value with
  | some v => rfl
  | none => cases expected <;> rfl

namespace DeepEqual

/-- Only containers are equal to containers. -/
theorem isContainer {v e : Json} (h : DeepEqual (some v) e) (he : e.isContainer = true) :
    v.isContainer = true := by
  cases h with
  | scalar hscalar => exact absurd he (by rw [hscalar]; exact Bool.false_ne_true)
  | array | object => rfl

/-- Values that are equal are equal wherever they meet. -/
theorem of_meets {v e x y : Json} (hmeets : v.Meets e x y) (h : DeepEqual (some v) e) :
    DeepEqual (some x) y := by
  induction hmeets with
  | here => exact h
  | item i hv hw _ ih =>
    cases h with
    | scalar hscalar => cases hscalar
    | array _ items => exact ih (items i _ _ hv hw)
  | member key hv hw _ ih =>
    cases h with
    | scalar hscalar => cases hscalar
    | object _ members => exact ih (members key _ _ hv (Members.mem_of_get? hw))

/-- What is equal to an expected value is expected of it, if no container of it meets a scalar. -/
theorem swap {e : Json} (hdistinct : e.Distinct) {v : Json} (hv : v.Distinct)
    (hmeets : ∀ x y, v.Meets e x y → x.isContainer = true → y.isContainer = true)
    (h : DeepEqual (some v) e) : DeepEqual (some e) v := by
  induction e using Json.induct generalizing v with
  | scalar e hscalar =>
    have hplain : v.isContainer = false := by
      cases hcontainer : v.isContainer with
      | false => rfl
      | true => exact absurd (hmeets v e (.here v e) hcontainer) (by rw [hscalar]; decide)
    refine .scalar hplain ?_
    rw [looseEq_scalar_comm hscalar hplain]
    cases h with
    | scalar _ equal => exact equal
    | array | object => cases hscalar
  | array es ih =>
    cases h with
    | scalar hscalar => cases hscalar
    | array length items =>
      refine .array length.symm fun i e v he hv' => ?_
      have hmem := List.mem_of_getElem? he
      exact ih e hmem (hdistinct.items e hmem) (hv.items v (List.mem_of_getElem? hv'))
        (fun x y hxy => hmeets x y (.item i hv' he hxy)) (items i v e hv' he)
  | object es ih =>
    cases h with
    | scalar hscalar => cases hscalar
    | object keys members =>
      refine .object (fun key => (keys key).symm) fun key e v he hv' => ?_
      -- no key is there twice, so a member is what is found under its key
      have hfound := (Members.get?_eq_some hv.keys).mpr hv'
      have hmem := (Members.get?_eq_some hdistinct.keys).mp he
      exact ih (key, e) hmem (hdistinct.get? he) (hv.get? hfound)
        (fun x y hxy => hmeets x y (.member key hfound he hxy)) (members key v e hfound hmem)

/-- **When equality can be turned round.** -/
theorem swap_iff {v e : Json} (hv : v.Distinct) (he : e.Distinct) (h : DeepEqual (some v) e) :
    DeepEqual (some e) v ↔
      ∀ x y, v.Meets e x y → x.isContainer = true → y.isContainer = true := by
  refine ⟨fun hswap x y hmeets hx => ?_, fun hmeets => h.swap he hv hmeets⟩
  have hmet : DeepEqual (some y) x := of_meets hmeets.swap hswap
  exact hmet.isContainer hx

/-- Equality can be turned round when no container meets a scalar that it reads as. -/
theorem swap_of_not_readsAs {v e : Json} (hv : v.Distinct) (he : e.Distinct)
    (hreads : ∀ x y, v.Meets e x y → ¬ x.ReadsAs y) (h : DeepEqual (some v) e) :
    DeepEqual (some e) v := by
  refine (swap_iff hv he h).mpr fun x y hmeets hx => ?_
  have hmet : DeepEqual (some x) y := of_meets hmeets h
  cases hy : y.isContainer with
  | true => rfl
  | false =>
    cases hmet with
    | scalar _ equal => exact absurd ⟨hx, hy, equal⟩ (hreads x y hmeets)
    | array | object => cases hy

end DeepEqual

/-! ## Fields that refer to each other -/

/-- What a selector finds in a document without repeated keys has none either. -/
theorem Selector.distinct_resolve (s : Selector) {document : Json} (hd : document.Distinct) :
    ((s.resolve document).getD .null).Distinct := by
  have hsimilar := s.resolve_similar (Json.Similar.refl hd)
  cases hfound : s.resolve document with
  | none => exact .scalar rfl
  | some v =>
    rw [hfound] at hsimilar
    cases hsimilar with
    | some h => exact h.distinct

/-- A bare reference under a field answers whether the field is equal to what is referred to. -/
theorem Filter.exists_of_bare_reference {key : String}
    (hkey : (Registry.defaults : Registry κ).get? key = none) (other : String) :
    ∃ f : Filter κ, Filter.ofValue Registry.defaults
        (.object [(key, .object [("$val", .string other)])]) = .ok f ∧
      ∀ (host : Host κ) (document : Json), ∃ b, f.matches? host document = .ok b ∧
        (b = true ↔ DeepEqual (some ((Selector.resolve ⟨key⟩ document).getD .null))
          ((Selector.resolve ⟨other⟩ document).getD .null)) := by
  have hr := Registry.defaults_holdsBuiltins (κ := κ)
  obtain ⟨f, hf, hanswer⟩ := exists_of_reference hkey .equal rfl none other
  have hbare : Filter.ofValue (Registry.defaults : Registry κ)
      (.object [(key, .object [("$val", .string other)])]) = .ok f := by
    rw [ofValue_field hkey] at hf ⊢
    rw [← hf]
    exact congrArg (Except.map _) (Registry.boundOf_reference hr none other)
  refine ⟨f, hbare, fun host document => ⟨_, hanswer host document _
    (Builtin.run_equal_getD _ _ _ document), ?_⟩⟩
  rw [deepEq_getD, deepEq_iff]
  rfl

/-- **When two fields refer to each other, they agree on whether they are equal**, unless somewhere
a container on one side meets a scalar on the other that it reads as. A field in which a container
meets a scalar is not what the other one is equal to. -/
theorem Filter.matches?_symmetric {f g : String}
    (hf : (Registry.defaults : Registry κ).get? f = none)
    (hg : (Registry.defaults : Registry κ).get? g = none) :
    ∃ p q : Filter κ,
      Filter.ofValue Registry.defaults (.object [(f, .object [("$val", .string g)])]) = .ok p ∧
      Filter.ofValue Registry.defaults (.object [(g, .object [("$val", .string f)])]) = .ok q ∧
      ∀ (host : Host κ) (document v w : Json), document.Distinct →
        v = (Selector.resolve ⟨f⟩ document).getD .null →
        w = (Selector.resolve ⟨g⟩ document).getD .null →
        ∃ b c, p.matches? host document = .ok b ∧ q.matches? host document = .ok c ∧
          ((∀ x y, v.Meets w x y → ¬ x.ReadsAs y ∧ ¬ y.ReadsAs x) → b = c) ∧
          (∀ x y, v.Meets w x y → x.isContainer = true → y.isContainer = false → c = false) ∧
          (∀ x y, v.Meets w x y → y.isContainer = true → x.isContainer = false → b = false) := by
  obtain ⟨p, hp, hanswer⟩ := exists_of_bare_reference hf g
  obtain ⟨q, hq, hconverse⟩ := exists_of_bare_reference hg f
  refine ⟨p, q, hp, hq, fun host document v w hd hv hw => ?_⟩
  obtain ⟨b, hb, hequal⟩ := hanswer host document
  obtain ⟨c, hc, hequal'⟩ := hconverse host document
  have hdv : v.Distinct := hv ▸ Selector.distinct_resolve ⟨f⟩ hd
  have hdw : w.Distinct := hw ▸ Selector.distinct_resolve ⟨g⟩ hd
  rw [← hv, ← hw] at hequal hequal'
  refine ⟨b, c, hb, hc, fun hreads => ?_, fun x y hmeets hx hy => ?_, fun x y hmeets hy hx => ?_⟩
  · rw [Bool.eq_iff_iff, hequal, hequal']
    exact ⟨DeepEqual.swap_of_not_readsAs hdv hdw fun x y h => (hreads x y h).1,
      DeepEqual.swap_of_not_readsAs hdw hdv fun x y h => (hreads y x h.swap).2⟩
  · refine Bool.eq_false_iff.mpr fun h => ?_
    have hmet : DeepEqual (some y) x := DeepEqual.of_meets hmeets.swap (hequal'.mp h)
    exact Bool.false_ne_true (hy.symm.trans (hmet.isContainer hx))
  · refine Bool.eq_false_iff.mpr fun h => ?_
    have hmet : DeepEqual (some x) y := DeepEqual.of_meets hmeets (hequal.mp h)
    exact Bool.false_ne_true (hx.symm.trans (hmet.isContainer hy))

/-- Two lists, whose items are equal as numbers. -/
theorem Filter.matches?_symmetric_lists :
    ∃ p q, Filter.ofValue (Registry.defaults : Registry Empty)
        (.object [("f", .object [("$val", .string "g")])]) = .ok p ∧
      Filter.ofValue (Registry.defaults : Registry Empty)
        (.object [("g", .object [("$val", .string "f")])]) = .ok q ∧
      p.matches? Host.none (.object [("f", .array [.bool true]), ("g", .array [.string "1"])]) =
        .ok true ∧
      q.matches? Host.none (.object [("f", .array [.bool true]), ("g", .array [.string "1"])]) =
        .ok true := by
  have hf : (Registry.defaults : Registry Empty).get? "f" = none := rfl
  have hg : (Registry.defaults : Registry Empty).get? "g" = none := rfl
  have hdistinct : (Json.object [("f", .array [.bool true]), ("g", .array [.string "1"])]).Distinct := by
    refine .object (by decide) fun m hm => ?_
    simp only [List.mem_cons, List.not_mem_nil, or_false] at hm
    rcases hm with rfl | rfl
    · exact .array fun item hitem => .scalar (by rw [List.mem_singleton.mp hitem]; rfl)
    · exact .array fun item hitem => .scalar (by rw [List.mem_singleton.mp hitem]; rfl)
  have hreads : ∀ x y, (Json.array [.bool true]).Meets (.array [.string "1"]) x y →
      ¬ x.ReadsAs y ∧ ¬ y.ReadsAs x := by
    intro x y hmeets
    cases hmeets with
    | here => exact ⟨fun h => Bool.noConfusion h.scalar, fun h => Bool.noConfusion h.scalar⟩
    | item i hv hw h =>
      cases i with
      | succ i => cases hv
      | zero =>
        cases hv
        cases hw
        cases h
        exact ⟨fun h => Bool.noConfusion h.container, fun h => Bool.noConfusion h.container⟩
  obtain ⟨p, q, hp, hq, hanswer⟩ := Filter.matches?_symmetric hf hg
  obtain ⟨b, c, hb, hc, hsame, -, -⟩ := hanswer Host.none
    (.object [("f", .array [.bool true]), ("g", .array [.string "1"])]) _ _ hdistinct rfl rfl
  obtain ⟨p', hp', htrue⟩ : ∃ p', Filter.ofValue (Registry.defaults : Registry Empty)
      (.object [("f", .object [("$val", .string "g")])]) = .ok p' ∧ p'.matches? Host.none
        (.object [("f", .array [.bool true]), ("g", .array [.string "1"])]) = .ok true :=
    ⟨_, rfl, rfl⟩
  obtain rfl := Except.ok.inj (hp'.symm.trans hp)
  obtain rfl := Except.ok.inj (htrue.symm.trans hb)
  obtain rfl := hsame hreads
  exact ⟨p', q, hp, hq, hb, hc⟩

/-- A number is not equal to a list of it, which is equal to the number. -/
theorem Filter.matches?_symmetric_failing :
    ∃ p q, (Registry.defaults : Registry Empty).get? "f" = none ∧
      (Registry.defaults : Registry Empty).get? "g" = none ∧
      Filter.ofValue (Registry.defaults : Registry Empty)
        (.object [("f", .object [("$val", .string "g")])]) = .ok p ∧
      Filter.ofValue (Registry.defaults : Registry Empty)
        (.object [("g", .object [("$val", .string "f")])]) = .ok q ∧
      p.matches? Host.none (.object [("f", .number (.int 5)), ("g", .array [.number (.int 5)])]) =
        .ok false ∧
      q.matches? Host.none (.object [("f", .number (.int 5)), ("g", .array [.number (.int 5)])]) =
        .ok true :=
  ⟨_, _, rfl, rfl, rfl, rfl, rfl, rfl⟩

end DocFilter
