import DocFilter.Proofs.Field

/-!
# Negation under a field

`$not` evaluates the condition in its operand and denies the result. The conditions that stand
under `$not` are compiled as a filter that is handed the value at hand, those that stand under the
field itself as conditions on the field. The two readings give the same tree but for references:
directly under a field, a reference to another field is compared with the field, and under `$not`,
which is right-handed itself, it stands for its value.

> `Filter.matches?_negation`: under a field `$not` gives the complement of its conditions when they
> are no references, and in any case that of the filter that they are of their own, about the value
> of the field.

A second `$not` takes the first one back (`Filter.exists_of_double_negation`).
-/

namespace DocFilter

variable {κ : Type}

/-- The operators that refer to the value of another field. -/
def references : List String :=
  ["$val", "$roundRH", "$floorRH", "$ceilRH"]

/-- One of the conditions in an object is a reference. -/
def Json.NamesReference : Json → Prop
  | .object members => ∃ m ∈ members, m.1 ∈ references
  | _ => False

/-- References go by these names. -/
theorem Builtin.name_mem_references {operation : Builtin}
    (h : (operation.operator : Operator κ).isReference = true) : operation.name ∈ references := by
  cases operation with
  | field => decide
  | roundedField rounding => cases rounding <;> decide
  | _ => cases h

/-! ## One negation -/

/-- A negation takes every condition as it stands. -/
theorem Registry.chained_negation (r : Registry κ) (n : Node κ) :
    r.chained Builtin.negation.operator n = .ok (.node n) :=
  chained_rightHanded rfl n

/-- A negation evaluates the node in its operand and denies the result. -/
theorem Registry.evaluate_negation {r : Registry κ} (hr : r.HoldsBuiltins) (host : Host κ)
    {n inner : Node κ} (hn : n.BuiltinOnly) (hop : n.operator = Builtin.negation.operator)
    (hx : n.operand = .node inner) (given : Option Json) (document : Json) :
    r.evaluate host n given document =
      (r.evaluate host inner (Node.contextIn n.selector given document) document).map
        fun v => some (.bool (!truthy v)) := by
  have hside : (n.operator.rightHanded || inner.operator.rightHanded) = true := by
    rw [hop]
    rfl
  have happlied : ∀ v, n.applied (r.perform host) (Node.contextIn n.selector given document)
      (.ofValue v) document = .ok (some (.bool (!truthy v))) := by
    intro v
    rw [applied_builtin hop]
    cases v <;> rfl
  rw [evaluate_rightHanded hr hn _ _ hx hside, ← bind_ok_eq_map]
  simp only [happlied]

namespace Filter

variable {key : String} (hkey : (Registry.defaults : Registry κ).get? key = none)
include hkey

/-- A negation under a field is applied to its conditions, with no field among them. -/
theorem ofValue_negation (conditions : Json) :
    ofValue Registry.defaults (.object [(key, .object [("$not", conditions)])]) =
      (Registry.defaults.operandOf conditions Builtin.negation.operator true).map fun x =>
        (⟨⟨some ⟨key⟩, Builtin.negation.operator, x⟩, Registry.defaults⟩ : Filter κ) :=
  ofValue_field_operator hkey (Registry.defaults_holdsBuiltins .negation) rfl conditions

/-- What a negation under a field is compiled to: the conditions are a node, and the answer is the
complement of what the node answers about the value of the field. -/
theorem exists_of_negation {conditions : Json} {q : Filter κ}
    (hq : ofValue Registry.defaults (.object [(key, .object [("$not", conditions)])]) = .ok q) :
    ∃ n, Registry.defaults.operandOf conditions Builtin.negation.operator true = .ok (.node n) ∧
      n.BuiltinOnly ∧ ∀ host document, q.matches? host document =
        ((Registry.defaults.evaluate host n (Selector.resolve ⟨key⟩ document) document).map
          truthy).map (!·) := by
  have hr := Registry.defaults_holdsBuiltins (κ := κ)
  obtain ⟨-, hformed⟩ := Filter.formed_of_ofValue hq
  obtain ⟨x, hx, rfl⟩ := map_eq_ok.mp ((ofValue_negation hkey conditions).symm.trans hq)
  obtain ⟨n, rfl, -⟩ := (Registry.operandOf_suits hr conditions hx).fits.node_of_kind rfl
  have hbuiltin := Registry.builtinOnly_of_formed hformed
  have hinner : n.BuiltinOnly := Node.forall_nodes_child hbuiltin List.mem_cons_self
  refine ⟨n, hx, hinner, fun host document => ?_⟩
  rw [matches?, matchesIn, evaluate, Registry.evaluate_negation hr host hbuiltin rfl rfl]
  show ((Registry.defaults.evaluate host n (Selector.resolve ⟨key⟩ document) document).map
    fun v => some (.bool (!truthy v))).map truthy = _
  cases Registry.defaults.evaluate host n (Selector.resolve ⟨key⟩ document) document <;> rfl

/-- **A second negation takes the first one back.** -/
theorem exists_of_double_negation {conditions : Json} {q : Filter κ}
    (hq : ofValue Registry.defaults (.object [(key, .object [("$not", conditions)])]) = .ok q) :
    ∃ doubled, ofValue Registry.defaults
        (.object [(key, .object [("$not", .object [("$not", conditions)])])]) = .ok doubled ∧
      ∀ host document, doubled.matches? host document = (q.matches? host document).map (!·) := by
  have hr := Registry.defaults_holdsBuiltins (κ := κ)
  have hnot : (Registry.defaults : Registry κ).get? "$not" = some Builtin.negation.operator :=
    hr .negation
  obtain ⟨n, hn, hbuiltin, hmatches⟩ := exists_of_negation hkey hq
  have hinner : Registry.defaults.operandOf (.object [("$not", conditions)])
      Builtin.negation.operator true =
        .ok (.node (.plain Builtin.negation.operator (.node n))) := by
    rw [Registry.operandOf_object_operator Registry.defaults rfl, Registry.nodeOf_single,
      Registry.memberOf_operator hnot, hn]
    simp only [Except.map, ok_bind, Registry.chained_negation]
  have hdoubled := ofValue_negation hkey (.object [("$not", conditions)])
  rw [hinner] at hdoubled
  refine ⟨_, hdoubled, fun host document => ?_⟩
  obtain ⟨m, hm, hnegated, hanswer⟩ := exists_of_negation hkey hdoubled
  obtain rfl := Operand.node.inj (Except.ok.inj (hm.symm.trans hinner))
  rw [hanswer, hmatches, Registry.evaluate_negation hr host hnegated rfl rfl]
  show (((Registry.defaults.evaluate host n (Node.contextIn none _ document) document).map
    _).map truthy).map _ = _
  rw [Node.contextIn_none]
  cases Registry.defaults.evaluate host n (Selector.resolve ⟨key⟩ document) document <;> rfl

end Filter

/-! ## Conditions that are no references -/

namespace Registry

/-- Members that do not name a reference are no references. -/
theorem isReference_of_not_namesReference {members : Members}
    (href : ¬ (Json.object members).NamesReference) :
    ∀ m ∈ members, ∀ op : Operator κ, defaults.get? m.1 = some op → op.isReference = false := by
  intro m hm op hop
  obtain ⟨operation, hname, rfl⟩ := get?_defaults_eq_some.mp hop
  cases hreference : (operation.operator : Operator κ).isReference with
  | false => rfl
  | true => exact absurd ⟨m, hm, hname ▸ Builtin.name_mem_references hreference⟩ href

/-- Conditions that are no references are compiled under an operator as they are under a field, and
then handed to the operator. -/
theorem operandOf_of_boundOf {op : Operator κ} (hop : op.kind = .operator) {conditions : Json}
    (href : ¬ conditions.NamesReference) {n : Node κ} (h : defaults.boundOf conditions = .ok n) :
    defaults.operandOf conditions op true = defaults.chained op n := by
  have hr := defaults_holdsBuiltins (κ := κ)
  cases conditions with
  | array items =>
    have hkind : ((listMeaning items).operator : Operator κ).kind = .array :=
      listMeaning_kind items
    rw [boundOf, hr.implicit, ok_bind] at h
    obtain ⟨x, hx, h⟩ := bind_eq_ok.mp h
    rw [condition_plain (isReference_of_array hkind)] at h
    obtain rfl := Except.ok.inj h
    rw [listOperand_array hkind] at hx
    rw [operandOf_array, listTurns, listOperand_operator hop, hr.implicit, ok_bind,
      listOperand_array hkind, hx, ok_bind]
  | object members =>
    have hnode : defaults.nodeOf (.object members) true = .ok n :=
      nodeOf_of_boundOf (isReference_of_not_namesReference href) h
    rw [operandOf_object_operator defaults hop, hnode, ok_bind]
  | _ =>
    rw [boundOf_scalar defaults rfl, hr.implicit, ok_bind] at h
    obtain ⟨x, hx, h⟩ := bind_eq_ok.mp h
    obtain rfl := Except.ok.inj hx
    obtain rfl := Except.ok.inj h
    rw [operandOf_scalar defaults rfl, scalarOperand_operator hop, hr.implicit, ok_bind]

/-- Conditions that are no references are compiled alike under a field and under a negation. -/
theorem operandOf_negation {conditions : Json} (href : ¬ conditions.NamesReference) {n : Node κ}
    (h : defaults.boundOf conditions = .ok n) :
    defaults.operandOf conditions Builtin.negation.operator true = .ok (.node n) := by
  rw [operandOf_of_boundOf rfl href h, chained_negation]

end Registry

/-! ## Filters -/

/-- **Negation under a field is complement.** Conditions under a field that are no references have
the opposite answers under `$not`, and the same answers again under `$not` twice; they fail where
they fail. Conditions in an object, references or not, have under `$not` the opposite of the answers
that they give as a filter of their own about the value of the field. -/
theorem Filter.matches?_negation {key : String}
    (hkey : (Registry.defaults : Registry κ).get? key = none) {conditions : Json} {q : Filter κ}
    (hq : Filter.ofValue Registry.defaults (.object [(key, .object [("$not", conditions)])]) =
      .ok q) :
    ∃ doubled, Filter.ofValue Registry.defaults
        (.object [(key, .object [("$not", .object [("$not", conditions)])])]) = .ok doubled ∧
      (¬ conditions.NamesReference → ∀ p,
        Filter.ofValue Registry.defaults (.object [(key, conditions)]) = .ok p →
          ∀ host document, q.matches? host document = (p.matches? host document).map (!·) ∧
            doubled.matches? host document = p.matches? host document) ∧
      ∀ members, conditions = .object members →
        ∃ c, Filter.ofValue Registry.defaults conditions = .ok c ∧ ∀ host document,
          q.matches? host document =
              (c.matchesIn host (Selector.resolve ⟨key⟩ document) document).map (!·) ∧
            doubled.matches? host document =
              c.matchesIn host (Selector.resolve ⟨key⟩ document) document := by
  obtain ⟨n, hn, -, hanswer⟩ := Filter.exists_of_negation hkey hq
  obtain ⟨doubled, hdoubled, hback⟩ := Filter.exists_of_double_negation hkey hq
  -- both negations are told from what the node answers about the value of the field
  have hboth : ∀ (host : Host κ) document answer,
      (Registry.defaults.evaluate host n (Selector.resolve ⟨key⟩ document) document).map truthy =
          answer →
        q.matches? host document = answer.map (!·) ∧ doubled.matches? host document = answer := by
    rintro host document answer rfl
    refine ⟨hanswer host document, ?_⟩
    rw [hback, hanswer]
    cases Registry.defaults.evaluate host n (Selector.resolve ⟨key⟩ document) document with
    | error e => rfl
    | ok v =>
      show Except.ok (!!truthy v) = Except.ok (truthy v)
      rw [Bool.not_not]
  refine ⟨doubled, hdoubled, fun href p hp host document => ?_, ?_⟩
  · rw [Filter.ofValue_field hkey] at hp
    obtain ⟨m, hm, rfl⟩ := map_eq_ok.mp hp
    obtain rfl : n = m :=
      Operand.node.inj (Except.ok.inj (hn.symm.trans (Registry.operandOf_negation href hm)))
    refine hboth host document _ ?_
    rw [Filter.matches?, Filter.matchesIn, Filter.evaluate,
      Registry.evaluate_select _ host (Registry.boundOf_selector hm)]
    rfl
  · -- under `$not` the object is a filter that may not select; that it compiles so is enough for it
    -- to compile to the same on its own
    rintro members rfl
    rw [Registry.operandOf_object_operator _ rfl] at hn
    obtain ⟨m, hm, hn⟩ := bind_eq_ok.mp hn
    rw [Registry.chained_negation] at hn
    obtain rfl := Operand.node.inj (Except.ok.inj hn)
    refine ⟨⟨m, Registry.defaults⟩, ?_, fun host document => hboth host document _ rfl⟩
    rw [Filter.ofValue_eq, Registry.nodeOf_of_disabled hm]
    rfl

/-- A set of values, in the form that leaves its operator out. -/
theorem Filter.matches?_negation_list :
    ∃ p q, Filter.ofValue (Registry.defaults : Registry Empty)
        (.object [("f", .array [.bool true, .null])]) = .ok p ∧
      Filter.ofValue (Registry.defaults : Registry Empty)
        (.object [("f", .object [("$not", .array [.bool true, .null])])]) = .ok q ∧
      p.matches? Host.none (.object [("f", .bool true)]) = .ok true ∧
      q.matches? Host.none (.object [("f", .bool true)]) = .ok false := by
  obtain ⟨p, q, hp, hq, hmatches⟩ : ∃ p q, Filter.ofValue (Registry.defaults : Registry Empty)
        (.object [("f", .array [.bool true, .null])]) = .ok p ∧
      Filter.ofValue (Registry.defaults : Registry Empty)
        (.object [("f", .object [("$not", .array [.bool true, .null])])]) = .ok q ∧
      p.matches? Host.none (.object [("f", .bool true)]) = .ok true := ⟨_, _, rfl, rfl, rfl⟩
  have hkey : (Registry.defaults : Registry Empty).get? "f" = none := rfl
  obtain ⟨doubled, -, hcomplement, -⟩ := Filter.matches?_negation hkey hq
  have hanswer := (hcomplement (fun h => h) p hp Host.none (.object [("f", .bool true)])).1
  rw [hmatches] at hanswer
  exact ⟨p, q, hp, hq, hmatches, hanswer⟩

/-- A reference is compared with the field, but under `$not` it stands for its value: here both
filters answer no, and two negations do not take each other back. -/
theorem Filter.matches?_negation_reference :
    ∃ p q doubled, Filter.ofValue (Registry.defaults : Registry Empty)
        (.object [("f", .object [("$val", .string "x")])]) = .ok p ∧
      Filter.ofValue (Registry.defaults : Registry Empty)
        (.object [("f", .object [("$not", .object [("$val", .string "x")])])]) = .ok q ∧
      Filter.ofValue (Registry.defaults : Registry Empty) (.object [("f", .object [("$not",
        .object [("$not", .object [("$val", .string "x")])])])]) = .ok doubled ∧
      p.matches? Host.none (.object [("f", .bool false), ("x", .bool true)]) = .ok false ∧
      q.matches? Host.none (.object [("f", .bool false), ("x", .bool true)]) = .ok false ∧
      doubled.matches? Host.none (.object [("f", .bool false), ("x", .bool true)]) = .ok true :=
  ⟨_, _, _, rfl, rfl, rfl, rfl, rfl, rfl⟩

end DocFilter
