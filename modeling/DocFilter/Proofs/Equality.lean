import DocFilter.Proofs.ExplicitForms
import DocFilter.Proofs.Renaming
import DocFilter.Proofs.RightHanded
import DocFilter.Proofs.Similar

/-!
# Equality with what is expected

`deepEq` goes through an expected value and looks for each part of it in a value. What it decides is
a relation that does not know of this (`DeepEqual`): arrays of one length are equal place by place,
objects with the same keys key by key, and scalars loosely, where an absent value counts as `null`.

> `deepEq_iff`: deep equality is what `deepEq` decides.

In a query not every value can be expected. An operand of `$eq` is compiled like any other value,
and a container that is compiled is a filter. A filter that is not right-handed is no literal, and
this shows only on a document. What can be expected are scalars, and through a reference whatever
another field holds.

> `Filter.matches?_equal`: under a field, `$eq` decides deep equality with a scalar and with what a
> reference refers to, and fails on a container.
-/

namespace DocFilter

variable {κ : Type}

/-! ## Deep equality as a relation -/

/-- A value, which may be absent, is equal to an expected one. -/
inductive DeepEqual : Option Json → Json → Prop
  | scalar {value : Option Json} {expected : Json} (scalar : expected.isContainer = false)
      (equal : looseEq value (some expected) = true) : DeepEqual value expected
  | array {actual expected : List Json} (length : actual.length = expected.length)
      (items : ∀ (i : Nat) a e, actual[i]? = some a → expected[i]? = some e → DeepEqual (some a) e) :
      DeepEqual (some (.array actual)) (.array expected)
  | object {actual expected : Members} (keys : ∀ key, key ∈ actual.keys ↔ key ∈ expected.keys)
      (members : ∀ key a e, actual.get? key = some a → (key, e) ∈ expected →
        DeepEqual (some a) e) :
      DeepEqual (some (.object actual)) (.object expected)

/-- The keys of an object are those that it has values for. -/
theorem Members.isSome_get? {members : Members} {key : String} :
    (members.get? key).isSome = true ↔ key ∈ members.keys := by
  induction members with
  | nil => simp [Members.get?, Members.keys]
  | cons m rest ih =>
    obtain ⟨k, v⟩ := m
    rw [Members.keys_cons, List.mem_cons, Members.get?]
    split
    case isTrue h => simp [h]
    case isFalse h => rw [ih, or_iff_right fun h' => h h'.symm]

/-- What is found under a key is a member. -/
theorem Members.mem_of_get? {members : Members} {key : String} {value : Json}
    (h : members.get? key = some value) : (key, value) ∈ members := by
  induction members with
  | nil => cases h
  | cons m rest ih =>
    obtain ⟨k, v⟩ := m
    rw [Members.get?] at h
    split at h
    case isTrue hk =>
      cases h
      rw [hk]
      exact List.mem_cons_self
    case isFalse => exact List.mem_cons_of_mem _ (ih h)

/-- Items are compared place by place. -/
theorem deepEqItems_iff {expected actual : List Json} :
    deepEqItems expected actual = true ↔ ∀ (i : Nat) a e, actual[i]? = some a →
      expected[i]? = some e → deepEq e (some a) = true := by
  induction expected generalizing actual with
  | nil => exact ⟨fun _ i a e _ h => absurd h (by simp), fun _ => by cases actual <;> rfl⟩
  | cons first rest ih =>
    cases actual with
    | nil => exact ⟨fun _ i a e h => absurd h (by simp), fun _ => rfl⟩
    | cons other others =>
      rw [deepEqItems, Bool.and_eq_true, ih]
      refine ⟨?_, fun h => ⟨h 0 other first rfl rfl, fun i => h (i + 1)⟩⟩
      rintro ⟨hfirst, hrest⟩ (_ | i) a e ha he
      · obtain rfl := Option.some.inj ha
        obtain rfl := Option.some.inj he
        exact hfirst
      · exact hrest i a e ha he

/-- Members are looked up one by one. -/
theorem deepEqMembers_iff {expected actual : Members} :
    deepEqMembers expected actual = true ↔
      ∀ m ∈ expected, ∃ a, actual.get? m.1 = some a ∧ deepEq m.2 (some a) = true := by
  simp only [deepEqMembers_eq_allMatch, Members.allMatch, List.all_eq_true, Option.any_eq_true]

/-- Objects are compared by their keys and then key by key. -/
theorem deepEq_object_iff {expected actual : Members} :
    deepEq (.object expected) (some (.object actual)) = true ↔
      (∀ key, key ∈ actual.keys ↔ key ∈ expected.keys) ∧
        ∀ key a e, actual.get? key = some a → (key, e) ∈ expected → deepEq e (some a) = true := by
  rw [deepEq, Bool.and_eq_true, deepEqMembers_iff, List.all_eq_true]
  refine ⟨?_, ?_⟩
  · rintro ⟨hkeys, hmembers⟩
    refine ⟨fun key => ⟨fun h => ?_, fun h => ?_⟩, fun key a e ha he => ?_⟩
    · obtain ⟨m, hm, rfl⟩ := List.mem_map.mp h
      exact Members.isSome_get?.mp (hkeys m hm)
    · obtain ⟨m, hm, rfl⟩ := List.mem_map.mp h
      obtain ⟨a, ha, -⟩ := hmembers m hm
      exact Members.isSome_get?.mp (Option.isSome_of_eq_some ha)
    · obtain ⟨a', ha', hequal⟩ := hmembers _ he
      obtain rfl := Option.some.inj (ha.symm.trans ha')
      exact hequal
  · rintro ⟨hkeys, hmembers⟩
    refine ⟨fun m hm => Members.isSome_get?.mpr ((hkeys m.1).mp (List.mem_map_of_mem hm)), ?_⟩
    intro m hm
    have hsome := Members.isSome_get?.mpr ((hkeys m.1).mpr (List.mem_map_of_mem hm))
    obtain ⟨a, ha⟩ := Option.isSome_iff_exists.mp hsome
    exact ⟨a, ha, hmembers m.1 a m.2 ha hm⟩

/-- **Deep equality is what `deepEq` decides.** -/
theorem deepEq_iff {expected : Json} {value : Option Json} :
    deepEq expected value = true ↔ DeepEqual value expected := by
  induction expected using Json.induct generalizing value with
  | scalar expected hscalar =>
    rw [deepEq_scalar hscalar]
    refine ⟨.scalar hscalar, fun h => ?_⟩
    cases h with
    | scalar _ equal => exact equal
    | array | object => cases hscalar
  | array expected ih =>
    have hitem : ∀ (i : Nat) a e, expected[i]? = some e →
        (deepEq e (some a) = true ↔ DeepEqual (some a) e) := fun i a e he =>
      ih e (List.mem_of_getElem? he)
    refine ⟨fun h => ?_, fun h => ?_⟩
    · obtain ⟨actual, rfl⟩ : ∃ actual, value = some (.array actual) := by
        cases value with
        | none => cases h
        | some v =>
          cases v with
          | array actual => exact ⟨actual, rfl⟩
          | _ => cases h
      rw [deepEq, Bool.and_eq_true, deepEqItems_iff] at h
      exact .array (beq_iff_eq.mp h.1) fun i a e ha he => (hitem i a e he).mp (h.2 i a e ha he)
    · cases h with
      | scalar hscalar => cases hscalar
      | array length items =>
        rw [deepEq, Bool.and_eq_true, deepEqItems_iff]
        exact ⟨beq_iff_eq.mpr length, fun i a e ha he => (hitem i a e he).mpr (items i a e ha he)⟩
  | object expected ih =>
    refine ⟨fun h => ?_, fun h => ?_⟩
    · obtain ⟨actual, rfl⟩ : ∃ actual, value = some (.object actual) := by
        cases value with
        | none => cases h
        | some v =>
          cases v with
          | object actual => exact ⟨actual, rfl⟩
          | _ => cases h
      obtain ⟨hkeys, hmembers⟩ := deepEq_object_iff.mp h
      exact .object hkeys fun key a e ha he => (ih _ he).mp (hmembers key a e ha he)
    · cases h with
      | scalar hscalar => cases hscalar
      | object keys members =>
        exact deepEq_object_iff.mpr
          ⟨keys, fun key a e ha he => (ih _ he).mpr (members key a e ha he)⟩

/-- To be equal to nothing is to be equal to `null`. -/
theorem looseEq_absent (value : Option Json) : looseEq value none = looseEq value (some .null) := by
  cases value with
  | none => rfl
  | some v => cases v <;> rfl

/-- Equality with a value that may be absent. -/
theorem Builtin.run_equal_getD (ev : Evaluator κ MatchError) (c w : Option Json) (document : Json) :
    equal.run ev c (.ofValue w) document = answer (deepEq (w.getD .null) c) := by
  cases w with
  | some v => rfl
  | none =>
    -- nothing is handed over then, and equality with nothing has its own branch
    rw [Option.getD_none, deepEq_scalar rfl, ← looseEq_absent]
    rfl

/-! ## What is compiled under an equality -/

namespace Registry

/-- A container that an operator of values is given is a filter. -/
theorem operandOf_container {r : Registry κ} (hr : r.HoldsBuiltins) {op : Operator κ}
    (hkind : op.kind = .value) {v : Json} (hv : v.isContainer = true) (selected : Bool) :
    r.operandOf v op selected = (r.nodeOf v false).map .node := by
  have hobject : ∀ members, r.operandOf (.object members) op selected =
      (r.nodeOf (.object members) false).map .node := by
    intro members
    rw [operandOf_object, hkind, ← bind_ok_eq_map]
  cases v with
  | object members => exact hobject members
  | array items =>
    have hwritten : (Place.operand op).explicit? (.array items) =
        some (.object [("$or", .array items)]) := by
      simp only [Place.explicit?, hkind]
      rfl
    rw [← alike_of_explicit hr hwritten selected, hobject, nodeOf_explicitFilter hr,
      nodeOf_array hr]
  | _ => cases hv

/-- A filter in which no key is an operator is not right-handed. -/
theorem rightHanded_of_unregistered {v : Json}
    (hkeys : ∀ key ∈ v.allKeys, (defaults : Registry κ).get? key = none) {n : Node κ}
    (h : defaults.nodeOf v false = .ok n) : n.operator.rightHanded = false := by
  have hr := defaults_holdsBuiltins (κ := κ)
  cases hright : n.operator.rightHanded with
  | false => rfl
  | true =>
    cases v with
    | array items =>
      rw [nodeOf_array hr, listNode] at h
      obtain ⟨x, -, rfl⟩ := map_eq_ok.mp h
      cases hright
    | object members =>
      -- its one member is a field, and what stands under the field is a negation
      obtain ⟨⟨key, raw⟩, rfl⟩ := exists_of_nodeOf_rightHanded hr h hright
      have hkey := hkeys key (allKeys_of_mem_members (.inl rfl) List.mem_cons_self)
      rw [nodeOf_single, memberOf_field hkey] at h
      obtain ⟨m, hm, rfl⟩ := map_eq_ok.mp h
      obtain ⟨⟨denied, rfl⟩, -⟩ := isNegation_of_rightHanded hm hright
      have hnot := hkeys "$not" (allKeys_of_mem_members
        (.inr (allKeys_of_mem_members (.inl rfl) List.mem_cons_self)) List.mem_cons_self)
      have hsome : (defaults : Registry κ).get? "$not" = some Builtin.negation.operator :=
        hr .negation
      rw [hsome] at hnot
      cases hnot
    | _ => cases h

section
variable {r : Registry κ} (hr : r.HoldsBuiltins) (host : Host κ) {n : Node κ} (hn : n.BuiltinOnly)
  (hop : n.operator = Builtin.equal.operator) (given : Option Json) (document : Json)
include hr hn hop

/-- Equality with a literal. -/
theorem evaluate_equal_literal {v : Json} (hx : n.operand = .value v) :
    r.evaluate host n given document =
      .ok (some (.bool (deepEq v (Node.contextIn n.selector given document)))) := by
  have hleaf : n.operand.node? = none := by
    rw [hx]
    rfl
  rw [evaluate_leaf hr hn given document hop hleaf, hx]
  rfl

/-- Equality with a filter is a failure. -/
theorem evaluate_equal_filter {inner : Node κ} (hx : n.operand = .node inner)
    (hinner : inner.operator.rightHanded = false) :
    r.evaluate host n given document = .error ⟨"$eq", n.operand.text,
      Node.contextIn n.selector given document, .unexpectedOperand "$eq" .literal⟩ := by
  have hneither : (n.operator.rightHanded || inner.operator.rightHanded) = false := by
    rw [hop, hinner]
    rfl
  rw [evaluate_chained hr hn given document hx hneither, applied_builtin hop, hop, hx]
  rfl

/-- Equality with what a reference refers to. -/
theorem evaluate_equal_reference {s : Selector}
    (hx : n.operand = .node (.plain Builtin.field.operator (.selector s))) :
    r.evaluate host n given document = .ok (some (.bool
      (deepEq ((s.resolve document).getD .null) (Node.contextIn n.selector given document)))) := by
  have href : n.operand = .node (.reference none s) := hx
  rw [evaluate_over_reference hr host hn hop href, Builtin.run_equal_getD]
  rfl

end

end Registry

/-! ## Equality under a field -/

/-- **Under a field, `$eq` decides deep equality with a scalar** and with the value that a reference
refers to, which counts as `null` when it is absent. When a container in which no key is an operator
is expected instead, every document is refused. -/
theorem Filter.matches?_equal {key : String}
    (hkey : (Registry.defaults : Registry κ).get? key = none) {v : Json}
    (hv : ∀ inner ∈ v.allKeys, (Registry.defaults : Registry κ).get? inner = none) {f : Filter κ}
    (hf : Filter.ofValue Registry.defaults (.object [(key, .object [("$eq", v)])]) = .ok f)
    (host : Host κ) (document : Json) :
    (v.isContainer = false → ∃ b, f.matches? host document = .ok b ∧
        (b = true ↔ DeepEqual (Selector.resolve ⟨key⟩ document) v)) ∧
      (v.isContainer = true → f.matches? host document = .error ⟨"$eq", f.root.operand.text,
        Selector.resolve ⟨key⟩ document, .unexpectedOperand "$eq" .literal⟩) ∧
      ∀ other, ∃ g, Filter.ofValue Registry.defaults (.object [(key,
          .object [("$eq", .object [("$val", .string other)])])]) = .ok g ∧
        ∃ b, g.matches? host document = .ok b ∧ (b = true ↔
          DeepEqual (Selector.resolve ⟨key⟩ document)
            ((Selector.resolve ⟨other⟩ document).getD .null)) := by
  have hr := Registry.defaults_holdsBuiltins (κ := κ)
  have hcompiled := fun raw => ofValue_field_operator hkey (hr .equal) rfl raw
  obtain ⟨x, hx, rfl⟩ := map_eq_ok.mp ((hcompiled v).symm.trans hf)
  have hbuiltin := Registry.builtinOnly_of_formed (Filter.formed_of_ofValue hf).2
  refine ⟨fun hscalar => ?_, fun hcontainer => ?_, fun other => ?_⟩
  · rw [Registry.operandOf_scalar _ hscalar] at hx
    obtain rfl := Except.ok.inj hx
    refine ⟨_, ?_, deepEq_iff⟩
    rw [matches?, matchesIn, evaluate, Registry.evaluate_equal_literal hr host hbuiltin rfl none
      document rfl]
    rfl
  · rw [Registry.operandOf_container hr rfl hcontainer] at hx
    obtain ⟨n, hn, rfl⟩ := map_eq_ok.mp hx
    rw [matches?, matchesIn, evaluate, Registry.evaluate_equal_filter hr host hbuiltin rfl none
      document rfl (Registry.rightHanded_of_unregistered hv hn)]
    rfl
  · have hfield : (Registry.defaults : Registry κ).get? "$val" = some Builtin.field.operator :=
      hr .field
    have hoperand : (Registry.defaults : Registry κ).operandOf (.object [("$val", .string other)])
        Builtin.equal.operator true =
          .ok (.node (.plain Builtin.field.operator (.selector ⟨other⟩))) := by
      rw [Registry.operandOf_container hr rfl rfl, Registry.nodeOf_single,
        Registry.memberOf_operator hfield, Registry.operandOf_scalar _ rfl]
      rfl
    have hg := hcompiled (.object [("$val", .string other)])
    rw [hoperand] at hg
    have hformed := Registry.builtinOnly_of_formed (Filter.formed_of_ofValue hg).2
    refine ⟨_, hg, _, ?_, deepEq_iff⟩
    rw [matches?, matchesIn, evaluate, Registry.evaluate_equal_reference hr host hformed rfl none
      document rfl]
    rfl

/-- A number is equal to a text, which is what is expected, and to the field that is referred to. -/
theorem Filter.matches?_equal_text :
    ∃ f g, Filter.ofValue (Registry.defaults : Registry Empty)
        (.object [("f", .object [("$eq", .string "7")])]) = .ok f ∧
      Filter.ofValue (Registry.defaults : Registry Empty)
        (.object [("f", .object [("$eq", .object [("$val", .string "g")])])]) = .ok g ∧
      f.matches? Host.none (.object [("f", .number (.int 7)), ("g", .string " 7")]) = .ok true ∧
      g.matches? Host.none (.object [("f", .number (.int 7)), ("g", .string " 7")]) = .ok true := by
  obtain ⟨f, hf⟩ : ∃ f, Filter.ofValue (Registry.defaults : Registry Empty)
      (.object [("f", .object [("$eq", .string "7")])]) = .ok f := ⟨_, rfl⟩
  have hkey : (Registry.defaults : Registry Empty).get? "f" = none := rfl
  have hkeys : ∀ inner ∈ (Json.string "7").allKeys,
      (Registry.defaults : Registry Empty).get? inner = none :=
    fun _ h => absurd h List.not_mem_nil
  obtain ⟨hliteral, -, hreference⟩ := Filter.matches?_equal hkey hkeys hf Host.none
    (.object [("f", .number (.int 7)), ("g", .string " 7")])
  obtain ⟨b, hb, hequal⟩ := hliteral rfl
  obtain ⟨g, hg, b', hb', hequal'⟩ := hreference "g"
  obtain rfl : b = true := hequal.mpr (.scalar rfl rfl)
  obtain rfl : b' = true := hequal'.mpr (.scalar rfl rfl)
  exact ⟨f, g, hf, hg, hb, hb'⟩

/-- A list that is expected is a filter, so a list is not found to be equal to itself. -/
theorem Filter.matches?_equal_list :
    ∃ f, Filter.ofValue (Registry.defaults : Registry Empty)
        (.object [("f", .object [("$eq", .array [.bool true, .null])])]) = .ok f ∧
      (Json.array [.bool true, .null]).allKeys = [] ∧
      DeepEqual (Selector.resolve ⟨"f"⟩ (.object [("f", .array [.bool true, .null])]))
        (.array [.bool true, .null]) ∧
      f.matches? Host.none (.object [("f", .array [.bool true, .null])]) =
        .error ⟨"$eq", f.root.operand.text, some (.array [.bool true, .null]),
          .unexpectedOperand "$eq" .literal⟩ :=
  ⟨_, rfl, rfl, deepEq_iff.mp rfl, rfl⟩

end DocFilter
