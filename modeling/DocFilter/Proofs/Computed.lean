import DocFilter.Proofs.RightHanded

/-!
# Conditions on computed values

Some operators compute a value and hand it on to the conditions in their operand: `$round`, `$floor`
and `$ceil` round the value at hand, and `$sub` subtracts the value of another field from it. Unless
one of the two operators is right-handed, the conditions are then evaluated about what has been
computed (`Registry.evaluate_computed`).

Under a rounding operator, conditions are compiled as under the field itself but in two places. A
negation that stands there alone is right-handed, so its answer is compared with the number; and a
reference that stands next to other conditions is not compared with the number but stands for its
value.

> `Filter.matches?_rounded`: conditions under a rounding operator answer as they do under the field
> when they are asked about the rounded value, but for these two.

The operand of `$sub` selects the field that is subtracted. It does so again when there is no
difference to hand on, because a node that has nothing at hand selects:

> `Filter.matches?_difference`: conditions under `$sub` are about the difference, and when there is
> none they are about what was to be subtracted.
-/

namespace DocFilter

variable {κ : Type}

/-! ## Handing on -/

/-- **What an operation computes is what the conditions in its operand are about.** -/
theorem Registry.evaluate_computed {r : Registry κ} (hr : r.HoldsBuiltins) (host : Host κ)
    {n inner : Node κ} (hn : n.BuiltinOnly) {operation : Builtin}
    (hop : n.operator = operation.operator) (hx : n.operand = .node inner)
    (hside : operation.rightHanded = false) (hinner : inner.operator.rightHanded = false)
    (given : Option Json) (document : Json) {v : Option Json}
    (hv : operation.run (r.evaluator host) (Node.contextIn n.selector given document)
      (.node inner) document = .ok v) :
    r.evaluate host n given document = r.evaluate host inner v document := by
  have hneither : (n.operator.rightHanded || inner.operator.rightHanded) = false := by
    rw [hop, hinner, Bool.or_false]
    exact hside
  have happlied : n.applied (r.perform host) (Node.contextIn n.selector given document) n.operand
      document = .ok v := by
    rw [applied_builtin hop, hx, hv]
    rfl
  rw [evaluate_chained hr hn given document hx hneither, happlied, ok_bind]

/-! ## Conditions under a rounding operator -/

/-- A reference stands next to other conditions. -/
def Json.MixesReference (conditions : Json) : Prop :=
  conditions.NamesReference ∧ ∀ m, conditions ≠ .object [m]

namespace Registry

/-- A reference that stands alone is compared for equality under an operator as it is under a
field. -/
theorem operandOf_reference {op : Operator κ} (hkind : op.kind = .operator)
    (hside : op.rightHanded = false) {m : String × Json} (hm : m.1 ∈ references) {n : Node κ}
    (h : defaults.boundOf (.object [m]) = .ok n) :
    defaults.operandOf (.object [m]) op true = .ok (.node n) := by
  have hr := defaults_holdsBuiltins (κ := κ)
  obtain ⟨operation, hname, hright, href⟩ := exists_of_mem_references (κ := κ) hm
  have hop : (defaults : Registry κ).get? m.1 = some operation.operator := hname ▸ hr operation
  rw [boundOf_single, conditionOf, hop] at h
  obtain ⟨x, hx, h⟩ := bind_eq_ok.mp h
  rw [condition_reference hr href] at h
  rw [operandOf_object_operator defaults hkind, nodeOf_single, memberOf_operator hop, hx]
  exact (chained_escaping hr (n := .plain operation.operator x) hright hside).trans
    (congrArg (Except.map Operand.node) h)

section
variable {op : Operator κ} (hkind : op.kind = .operator) (hside : op.rightHanded = false)
include hkind hside

/-- Under an operator that is not right-handed, conditions are compiled as they are under a field,
unless they are a negation or have a reference among them. -/
theorem operandOf_eq_boundOf {conditions : Json} (hnot : ¬ conditions.IsNegation)
    (hmix : ¬ conditions.MixesReference) {n : Node κ} (h : defaults.boundOf conditions = .ok n) :
    defaults.operandOf conditions op true = .ok (.node n) := by
  by_cases href : conditions.NamesReference
  · obtain ⟨m, rfl⟩ : ∃ m, conditions = .object [m] := by
      by_contra hseveral
      exact hmix ⟨href, fun m hm => hseveral ⟨m, hm⟩⟩
    obtain ⟨m', hm', hname⟩ := href
    obtain rfl := List.mem_singleton.mp hm'
    exact operandOf_reference hkind hside hname h
  · -- without a reference the two readings differ only in what escapes, and nothing does
    have hn : n.operator.rightHanded = false := by
      cases hright : n.operator.rightHanded with
      | false => rfl
      | true => exact absurd (isNegation_of_rightHanded h hright).1 hnot
    rw [operandOf_of_boundOf hkind href h, chained, hn]
    rfl

/-- A negation is compared for equality under an operator that is not right-handed. -/
theorem operandOf_isNegation {conditions : Json} (hnot : conditions.IsNegation) {n : Node κ}
    (h : defaults.boundOf conditions = .ok n) : n.operator = Builtin.negation.operator ∧
      defaults.operandOf conditions op true =
        .ok (.node (.plain Builtin.equal.operator (.node n))) := by
  have hr := defaults_holdsBuiltins (κ := κ)
  obtain ⟨denied, rfl⟩ := hnot
  have href : ¬ (Json.object [("$not", denied)]).NamesReference := by
    rintro ⟨m, hm, hname⟩
    obtain rfl := List.mem_singleton.mp hm
    have hno : "$not" ∉ references := by decide
    exact hno hname
  have hget : (defaults : Registry κ).get? "$not" = some Builtin.negation.operator := hr .negation
  have hn : n.operator = Builtin.negation.operator := by
    rw [boundOf_single, conditionOf_operator hget rfl] at h
    obtain ⟨x, -, rfl⟩ := map_eq_ok.mp h
    rfl
  have hright : n.operator.rightHanded = true := by
    rw [hn]
    rfl
  exact ⟨hn, (operandOf_of_boundOf hkind href h).trans (chained_escaping hr hright hside)⟩

end

/-- Conditions with a reference among them are a filter under an operator. -/
theorem nodeOf_of_mixesReference {op : Operator κ} (hkind : op.kind = .operator)
    {conditions : Json} (hmix : conditions.MixesReference) {n : Node κ}
    (h : defaults.operandOf conditions op true = .ok (.node n)) :
    defaults.nodeOf conditions true = .ok n := by
  have hr := defaults_holdsBuiltins (κ := κ)
  obtain ⟨href, hseveral⟩ := hmix
  cases conditions with
  | object members =>
    rw [operandOf_object_operator defaults hkind] at h
    obtain ⟨m, hm, h⟩ := bind_eq_ok.mp h
    -- in company a reference does not escape, so it is not compared either
    have hplain : m.operator.rightHanded = false := by
      cases hright : m.operator.rightHanded with
      | false => rfl
      | true =>
        obtain ⟨single, rfl⟩ := exists_of_nodeOf_rightHanded hr hm hright
        exact absurd rfl (hseveral single)
    rw [chained, hplain] at h
    obtain rfl := Operand.node.inj (Except.ok.inj h)
    exact hm
  | _ => cases href

end Registry

/-! ## Rounding -/

/-- A rounding operator under a field asks its operand about the rounded value of the field. -/
theorem Filter.exists_of_rounded {key : String}
    (hkey : (Registry.defaults : Registry κ).get? key = none) (rounding : Rounding)
    {conditions : Json} {q : Filter κ}
    (hq : Filter.ofValue Registry.defaults
      (.object [(key, .object [((Builtin.rounded rounding).name, conditions)])]) = .ok q) :
    ∃ inner : Node κ, Registry.defaults.operandOf conditions (Builtin.rounded rounding).operator true =
        .ok (.node inner) ∧ Registry.defaults.AllFormed inner.nodes ∧
      ∀ host document, q.matches? host document =
        (Registry.defaults.evaluate host inner
          (rounding.value? (Selector.resolve ⟨key⟩ document)) document).map truthy := by
  have hr := Registry.defaults_holdsBuiltins (κ := κ)
  obtain ⟨-, hformed⟩ := Filter.formed_of_ofValue hq
  have hcompiled := ofValue_field_operator hkey (hr (.rounded rounding)) rfl conditions
  obtain ⟨x, hx, rfl⟩ := map_eq_ok.mp (hcompiled.symm.trans hq)
  have hsuits := Registry.operandOf_suits hr conditions hx
  obtain ⟨inner, rfl, hside⟩ := hsuits.fits.node_of_kind rfl
  have hinner : inner.operator.rightHanded = false := by
    cases hright : inner.operator.rightHanded with
    | false => rfl
    | true => cases hside hright
  refine ⟨inner, hx, hsuits.formed, fun host document => ?_⟩
  rw [matches?, matchesIn, evaluate, Registry.evaluate_computed hr host
    (Registry.builtinOnly_of_formed hformed) rfl rfl rfl hinner none document rfl]
  rfl

/-- A negation that is compared for equality gives its answer to compare. -/
theorem Registry.evaluate_equal_negation {r : Registry κ} (hr : r.HoldsBuiltins) (host : Host κ)
    {n inner : Node κ} (hn : (Node.plain Builtin.equal.operator (.node n)).BuiltinOnly)
    (hop : n.operator = Builtin.negation.operator) (hx : n.operand = .node inner)
    (given : Option Json) (document : Json) :
    (r.evaluate host (.plain Builtin.equal.operator (.node n)) given document).map truthy =
      ((r.evaluate host n given document).map truthy).map fun b =>
        looseEq given (some (.bool b)) := by
  have hbuiltin : n.BuiltinOnly := Node.forall_nodes_child hn List.mem_cons_self
  have hside : ((Node.plain Builtin.equal.operator (.node n)).operator.rightHanded ||
      n.operator.rightHanded) = true := by
    rw [hop]
    rfl
  have happlied : ∀ b, (Node.plain Builtin.equal.operator (.node n)).applied (r.perform host) given
      (.value (.bool b)) document = .ok (some (.bool (looseEq given (some (.bool b))))) := by
    intro b
    rw [applied_builtin (show _ = Builtin.equal.operator from rfl)]
    rfl
  rw [evaluate_rightHanded hr hn given document rfl hside, Node.contextIn_plain,
    evaluate_negation hr host hbuiltin hop hx]
  cases r.evaluate host inner (Node.contextIn n.selector given document) document with
  | error e => rfl
  | ok v => exact congrArg (Except.map truthy) (happlied (!truthy v))

/-- **Conditions under a rounding operator are about the rounded value.** When a field rounds to a
number, what stands under a rounding operator under the field answers as it does under the field
itself, when it is asked about that number. A negation that stands there alone has its answer
compared with the number; and conditions that mix a reference with others answer as the filter that
they make up on their own does about the number. -/
theorem Filter.matches?_rounded {key : String}
    (hkey : (Registry.defaults : Registry κ).get? key = none) (rounding : Rounding)
    {conditions : Json} {p q : Filter κ}
    (hp : Filter.ofValue Registry.defaults (.object [(key, conditions)]) = .ok p)
    (hq : Filter.ofValue Registry.defaults
      (.object [(key, .object [((Builtin.rounded rounding).name, conditions)])]) = .ok q)
    (host : Host κ) {document v : Json}
    (hv : rounding.value? (Selector.resolve ⟨key⟩ document) = some v) :
    (¬ conditions.IsNegation → ¬ conditions.MixesReference →
        q.matches? host document = p.matchesIn host (some v) document) ∧
      (conditions.IsNegation → q.matches? host document =
        (p.matchesIn host (some v) document).map fun b => looseEq (some v) (some (.bool b))) ∧
      (conditions.MixesReference → ∃ c, Filter.ofValue Registry.defaults conditions = .ok c ∧
        q.matches? host document = c.matchesIn host (some v) document) := by
  have hr := Registry.defaults_holdsBuiltins (κ := κ)
  obtain ⟨inner, hx, hformed, hanswer⟩ := Filter.exists_of_rounded hkey rounding hq
  obtain ⟨-, hwhole⟩ := Filter.formed_of_ofValue hp
  rw [Filter.ofValue_field hkey] at hp
  obtain ⟨n, hn, rfl⟩ := map_eq_ok.mp hp
  have hfield : Filter.matchesIn ⟨{ n with selector := some ⟨key⟩ }, Registry.defaults⟩ host (some v)
      document = (Registry.defaults.evaluate host n (some v) document).map truthy := by
    rw [Filter.matchesIn, Filter.evaluate,
      Registry.evaluate_select _ host (Registry.boundOf_selector hn)]
    rfl
  -- both filters are told from what a node answers about the rounded value
  have hkind : ((Builtin.rounded rounding).operator : Operator κ).kind = .operator := rfl
  have hside : ((Builtin.rounded rounding).operator : Operator κ).rightHanded = false := rfl
  rw [hanswer, hv, hfield]
  refine ⟨fun hnot hmix => ?_, fun hnot => ?_, fun hmix => ?_⟩
  · have hsame := Registry.operandOf_eq_boundOf hkind hside hnot hmix hn
    rw [Operand.node.inj (Except.ok.inj (hx.symm.trans hsame))]
  · obtain ⟨hop, hcompared⟩ := Registry.operandOf_isNegation hkind hside hnot hn
    obtain rfl := Operand.node.inj (Except.ok.inj (hx.symm.trans hcompared))
    have hdenies : n.operator.kind = .operator := by
      rw [hop]
      rfl
    obtain ⟨m, hm, -⟩ := (hwhole _ (Node.self_mem_nodes _)).fits.node_of_kind hdenies
    exact Registry.evaluate_equal_negation hr host (Registry.builtinOnly_of_formed hformed) hop hm
      (some v) document
  · have hnode := Registry.nodeOf_of_mixesReference hkind hmix hx
    refine ⟨⟨inner, Registry.defaults⟩, ?_, rfl⟩
    rw [Filter.ofValue_eq, Registry.nodeOf_of_disabled hnode]
    rfl

/-- A negation next to another condition is about the rounded value. -/
theorem Filter.matches?_rounded_siblings :
    ∃ p q, Filter.ofValue (Registry.defaults : Registry Empty) (.object [("f", .object
        [("$gt", .number (.int 3)), ("$not", .object [("$gt", .number (.int 7))])])]) = .ok p ∧
      Filter.ofValue (Registry.defaults : Registry Empty) (.object [("f", .object [("$floor", .object
        [("$gt", .number (.int 3)), ("$not", .object [("$gt", .number (.int 7))])])])]) = .ok q ∧
      Rounding.down.value? (some (.string "7.5")) = some (.number (.int 7)) ∧
      p.matchesIn Host.none (some (.number (.int 7))) (.object [("f", .string "7.5")]) = .ok true ∧
      q.matches? Host.none (.object [("f", .string "7.5")]) = .ok true := by
  obtain ⟨p, q, hp, hq, hanswer⟩ : ∃ p q,
      Filter.ofValue (Registry.defaults : Registry Empty) (.object [("f", .object
        [("$gt", .number (.int 3)), ("$not", .object [("$gt", .number (.int 7))])])]) = .ok p ∧
      Filter.ofValue (Registry.defaults : Registry Empty) (.object [("f", .object [("$floor", .object
        [("$gt", .number (.int 3)), ("$not", .object [("$gt", .number (.int 7))])])])]) = .ok q ∧
      p.matchesIn Host.none (some (.number (.int 7))) (.object [("f", .string "7.5")]) = .ok true :=
    ⟨_, _, rfl, rfl, rfl⟩
  have hvalue : Rounding.down.value? (Selector.resolve ⟨"f"⟩ (.object [("f", .string "7.5")])) =
      some (.number (.int 7)) := rfl
  have hkey : (Registry.defaults : Registry Empty).get? "f" = none := rfl
  have hnot : ¬ (Json.object [("$gt", .number (.int 3)),
      ("$not", .object [("$gt", .number (.int 7))])]).IsNegation := by
    rintro ⟨denied, h⟩
    have hlength := congrArg List.length (Json.object.inj h)
    cases hlength
  have hmix : ¬ (Json.object [("$gt", .number (.int 3)),
      ("$not", .object [("$gt", .number (.int 7))])]).MixesReference := by
    rintro ⟨⟨m, hm, hname⟩, -⟩
    rcases List.mem_cons.mp hm with rfl | hm
    · exact absurd hname (by decide)
    · obtain rfl := List.mem_singleton.mp hm
      exact absurd hname (by decide)
  have hsame := (Filter.matches?_rounded hkey .down hp hq Host.none hvalue).1 hnot hmix
  exact ⟨p, q, hp, hq, hvalue, hanswer, hsame.trans hanswer⟩

/-- Two conditions that are not asked about the rounded value: the answer of a negation is compared
with the number seven, to which it is not equal; and next to another condition, a reference to the
number three stands for its truth. -/
theorem Filter.matches?_rounded_negation :
    (∃ p q, Filter.ofValue (Registry.defaults : Registry Empty)
        (.object [("f", .object [("$not", .object [("$lt", .number (.int 5))])])]) = .ok p ∧
      Filter.ofValue (Registry.defaults : Registry Empty) (.object [("f", .object [("$floor",
        .object [("$not", .object [("$lt", .number (.int 5))])])])]) = .ok q ∧
      Rounding.down.value? (some (.number (.int 7))) = some (.number (.int 7)) ∧
      p.matchesIn Host.none (some (.number (.int 7))) (.object [("f", .number (.int 7))]) =
        .ok true ∧
      q.matches? Host.none (.object [("f", .number (.int 7))]) = .ok false) ∧
    ∃ p q, Filter.ofValue (Registry.defaults : Registry Empty) (.object [("f", .object
        [("$val", .string "g"), ("$gt", .number (.int 5))])]) = .ok p ∧
      Filter.ofValue (Registry.defaults : Registry Empty) (.object [("f", .object [("$floor", .object
        [("$val", .string "g"), ("$gt", .number (.int 5))])])]) = .ok q ∧
      p.matchesIn Host.none (some (.number (.int 7)))
        (.object [("f", .number (.int 7)), ("g", .number (.int 3))]) = .ok false ∧
      q.matches? Host.none (.object [("f", .number (.int 7)), ("g", .number (.int 3))]) =
        .ok true :=
  ⟨⟨_, _, rfl, rfl, rfl, rfl, rfl⟩, _, _, rfl, rfl, rfl, rfl⟩

/-! ## Differences -/

/-- With a selector the context is what it points at, unless there is one. -/
theorem Node.contextIn_some (s : Selector) (given : Option Json) (document : Json) :
    contextIn (some s) given document = given.or (s.resolve document) := by
  cases given <;> simp only [contextIn, Option.none_or, Option.some_or]

/-- Without one of the two there is no difference. -/
theorem Builtin.difference?_absent (value : Option Json) :
    difference? value none = none ∧ difference? none value = none := by
  refine ⟨?_, rfl⟩
  unfold difference?
  cases toNumber? value <;> rfl

namespace Registry

variable {r : Registry κ} (hr : r.HoldsBuiltins)
include hr

/-- A bound under a field is the operator that bounds. -/
theorem boundOf_ordered (relation : Relation) {bound : Json} (h : bound.isContainer = false) :
    r.boundOf (.object [((Builtin.ordered relation).name, bound)]) =
      .ok (.plain (Builtin.ordered relation).operator (.value bound)) := by
  rw [boundOf_single, conditionOf_operator (hr (.ordered relation)) rfl, operandOf_scalar r h]
  rfl

/-- A bound holds of the values that are in order with it. -/
theorem evaluate_ordered (host : Host κ) (relation : Relation) (bound : Json)
    (given : Option Json) (document : Json) :
    r.evaluate host (.plain (Builtin.ordered relation).operator (.value bound)) given document =
      .ok (some (.bool ((compareValues? given (some bound)).any relation.accepts))) := by
  have hn : (Node.plain (κ := κ) (Builtin.ordered relation).operator (.value bound)).BuiltinOnly := by
    refine Node.forall_nodes.mpr ⟨⟨.ordered relation, rfl⟩, fun m hm => ?_⟩
    exact absurd hm List.not_mem_nil
  rw [evaluate_leaf hr hn given document (show _ = (Builtin.ordered relation).operator from rfl) rfl,
    Node.contextIn_plain]
  rfl

end Registry

/-- What `$sub` under a field is compiled to: the filter in its operand, whose conditions are asked
about the difference, or when there is none about what its field selects. -/
theorem Filter.exists_of_difference {key other : String}
    (hkey : (Registry.defaults : Registry κ).get? key = none)
    (hother : (Registry.defaults : Registry κ).get? other = none) {conditions : Json} {q : Filter κ}
    (hq : Filter.ofValue Registry.defaults
      (.object [(key, .object [("$sub", .object [(other, conditions)])])]) = .ok q) :
    ∃ n, Registry.defaults.boundOf conditions = .ok n ∧
      (n.operator.rightHanded = false → ∀ host document, q.matches? host document =
        (Registry.defaults.evaluate host n ((Builtin.difference? (Selector.resolve ⟨key⟩ document)
          (Selector.resolve ⟨other⟩ document)).or (Selector.resolve ⟨other⟩ document))
            document).map truthy) := by
  have hr := Registry.defaults_holdsBuiltins (κ := κ)
  obtain ⟨-, hformed⟩ := Filter.formed_of_ofValue hq
  have hcompiled := ofValue_field_operator hkey (hr .difference) rfl (.object [(other, conditions)])
  obtain ⟨x, hx, rfl⟩ := map_eq_ok.mp (hcompiled.symm.trans hq)
  rw [Registry.operandOf_object] at hx
  obtain ⟨m, hm, hx⟩ := bind_eq_ok.mp hx
  obtain rfl := Except.ok.inj hx
  rw [Registry.nodeOf_single, Registry.memberOf_field hother] at hm
  obtain ⟨n, hn, rfl⟩ := map_eq_ok.mp hm
  refine ⟨n, hn, fun hside host document => ?_⟩
  have hdifference : Builtin.difference.run (Registry.defaults.evaluator host)
      (Node.contextIn (some ⟨key⟩) none document) (.node { n with selector := some ⟨other⟩ })
        document = .ok (Builtin.difference? (Selector.resolve ⟨key⟩ document)
          (Selector.resolve ⟨other⟩ document)) := by
    simp only [Node.contextIn_some, Option.none_or, Builtin.run, Builtin.node, ok_bind,
      Option.bind_some, pure_eq_ok]
  rw [matches?, matchesIn, evaluate, Registry.evaluate_computed hr host
    (Registry.builtinOnly_of_formed hformed) rfl rfl rfl hside none document hdifference,
    Registry.evaluate_select _ host (Registry.boundOf_selector hn), Node.contextIn_some]

/-- **Conditions under `$sub` are about the difference.** The operand of `$sub` names a field and
the conditions on it, which make up a filter of their own. Unless that is right-handed, its
conditions are asked about the difference of the two fields. When there is none, the node that the
operand is has nothing at hand and selects again, so they are asked about the field that was to be
subtracted. Thus no upper bound holds of a document without that field; but without the other one,
the bound is put on the field that was to be subtracted. -/
theorem Filter.matches?_difference {key other : String}
    (hkey : (Registry.defaults : Registry κ).get? key = none)
    (hother : (Registry.defaults : Registry κ).get? other = none) {conditions : Json} {q : Filter κ}
    (hq : Filter.ofValue Registry.defaults
      (.object [(key, .object [("$sub", .object [(other, conditions)])])]) = .ok q) :
    ∃ p, Filter.ofValue Registry.defaults (.object [(other, conditions)]) = .ok p ∧
      (p.root.operator.rightHanded = false → ∀ host document, q.matches? host document =
        p.conditions.matchesIn host ((Builtin.difference? (Selector.resolve ⟨key⟩ document)
          (Selector.resolve ⟨other⟩ document)).or (Selector.resolve ⟨other⟩ document)) document) ∧
      ∀ bound, conditions = .object [("$lt", .number bound)] → ∀ host document,
        (Selector.resolve ⟨other⟩ document = none → q.matches? host document = .ok false) ∧
        (Selector.resolve ⟨key⟩ document = none → q.matches? host document =
          .ok ((compareValues? (Selector.resolve ⟨other⟩ document)
            (some (.number bound))).any Relation.less.accepts)) := by
  have hr := Registry.defaults_holdsBuiltins (κ := κ)
  obtain ⟨n, hn, hanswer⟩ := Filter.exists_of_difference hkey hother hq
  have hp : Filter.ofValue Registry.defaults (.object [(other, conditions)]) =
      .ok ⟨{ n with selector := some ⟨other⟩ }, Registry.defaults⟩ := by
    rw [Filter.ofValue_field hother, hn]
    rfl
  refine ⟨_, hp, fun hside host document => ?_, ?_⟩
  · obtain ⟨selector, operator, operand⟩ := n
    obtain rfl : selector = none := Registry.boundOf_selector hn
    exact hanswer hside host document
  · rintro bound rfl host document
    have hbound : (Registry.defaults : Registry κ).boundOf (.object [("$lt", .number bound)]) = _ :=
      Registry.boundOf_ordered hr .less rfl
    obtain rfl := Except.ok.inj (hn.symm.trans hbound)
    rw [hanswer rfl, Registry.evaluate_ordered hr]
    refine ⟨fun h => ?_, fun h => ?_⟩
    · rw [h, Option.or_none, (Builtin.difference?_absent _).1]
      rfl
    · rw [h, (Builtin.difference?_absent _).2, Option.none_or]
      rfl

/-- The difference of two numbers is below the bound. -/
theorem Filter.matches?_difference_numbers :
    ∃ p q, Filter.ofValue (Registry.defaults : Registry Empty)
        (.object [("g", .object [("$lt", .number (.int 5))])]) = .ok p ∧
      Filter.ofValue (Registry.defaults : Registry Empty) (.object [("f", .object [("$sub",
        .object [("g", .object [("$lt", .number (.int 5))])])])]) = .ok q ∧
      Builtin.difference? (some (.number (.int 7))) (some (.number (.int 3))) =
        some (.number (.int 4)) ∧
      p.conditions.matchesIn Host.none (some (.number (.int 4)))
        (.object [("f", .number (.int 7)), ("g", .number (.int 3))]) = .ok true ∧
      q.matches? Host.none (.object [("f", .number (.int 7)), ("g", .number (.int 3))]) =
        .ok true ∧
      q.matches? Host.none (.object [("f", .number (.int 3))]) = .ok false := by
  obtain ⟨q, hq⟩ : ∃ q, Filter.ofValue (Registry.defaults : Registry Empty)
      (.object [("f", .object [("$sub", .object [("g",
        .object [("$lt", .number (.int 5))])])])]) = .ok q := ⟨_, rfl⟩
  have hkey : (Registry.defaults : Registry Empty).get? "f" = none := rfl
  have hother : (Registry.defaults : Registry Empty).get? "g" = none := rfl
  obtain ⟨p, hp, hconditions, hbound⟩ := Filter.matches?_difference hkey hother hq
  have hroot : p = ⟨⟨some ⟨"g"⟩, (Builtin.ordered .less).operator, .value (.number (.int 5))⟩,
      Registry.defaults⟩ := Except.ok.inj (hp.symm.trans rfl)
  subst hroot
  refine ⟨_, q, hp, hq, rfl, rfl, ?_, (hbound (.int 5) rfl Host.none _).1 rfl⟩
  exact (hconditions rfl Host.none _).trans rfl

/-- Without the field that is subtracted from, the bound is put on the other field. -/
theorem Filter.matches?_difference_absent :
    ∃ q, Filter.ofValue (Registry.defaults : Registry Empty) (.object [("f", .object [("$sub",
        .object [("g", .object [("$lt", .number (.int 300))])])])]) = .ok q ∧
      Selector.resolve ⟨"f"⟩ (.object [("g", .number (.int 10))]) = none ∧
      Builtin.difference? none (some (.number (.int 10))) = none ∧
      q.matches? Host.none (.object [("g", .number (.int 10))]) = .ok true :=
  ⟨_, rfl, rfl, rfl, rfl⟩

end DocFilter
