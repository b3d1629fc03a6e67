import DocFilter.Proofs.Negation

/-!
# What is right-handed

A right-handed operator is evaluated before the operator that it stands under. References are, which
stand for a value, and negations, which deny an answer. The compiler takes care of both: a reference
that stands bare under a field is compared with it for equality, and so is a right-handed condition
under an operator that is not right-handed.

Being right-handed does not survive in company, since several conditions are conjoined. So little is
left that can be right-handed where the compiler has been:

> `Registry.isNegation_of_rightHanded`: what stands under a field is right-handed only when it is a
> negation with no other condition next to it.

An operation over a reference is run on the value that the reference stands for
(`Registry.evaluate_over_reference`).
-/

namespace DocFilter

variable {κ : Type}

/-- The condition is a negation, with no other next to it. -/
def Json.IsNegation (conditions : Json) : Prop :=
  ∃ denied, conditions = .object [("$not", denied)]

namespace Registry

/-- An operation that is right-handed refers to a value or denies one. -/
theorem isReference_of_rightHanded {operation : Builtin} (h : operation.rightHanded = true)
    (hnot : operation ≠ .negation) : (operation.operator : Operator κ).isReference = true := by
  cases operation with
  | field | roundedField => rfl
  | negation => exact absurd rfl hnot
  | _ => cases h

/-- The names of references are those of operations that refer to a value. -/
theorem exists_of_mem_references {name : String} (h : name ∈ references) :
    ∃ operation : Builtin, operation.name = name ∧ operation.rightHanded = true ∧
      (operation.operator : Operator κ).isReference = true := by
  simp only [references, List.mem_cons, List.not_mem_nil, or_false] at h
  rcases h with rfl | rfl | rfl | rfl
  · exact ⟨.field, rfl, rfl, rfl⟩
  · exact ⟨.roundedField .halfUp, rfl, rfl, rfl⟩
  · exact ⟨.roundedField .down, rfl, rfl, rfl⟩
  · exact ⟨.roundedField .up, rfl, rfl, rfl⟩

section
variable {r : Registry κ} (hr : r.HoldsBuiltins)
include hr

/-- A bare reference means equality with the value that it refers to. -/
theorem condition_reference {op : Operator κ} (href : op.isReference = true) (x : Operand κ) :
    r.condition op x = .ok (.plain Builtin.equal.operator (.node (.plain op x))) := by
  rw [condition, if_pos href, hr.implicit]
  rfl

/-- A right-handed node is compared for equality under an operator that is not right-handed. -/
theorem chained_escaping {op : Operator κ} {n : Node κ} (hn : n.operator.rightHanded = true)
    (hop : op.rightHanded = false) :
    r.chained op n = .ok (.node (.plain Builtin.equal.operator (.node n))) := by
  have hescapes : (n.operator.rightHanded && !op.rightHanded) = true := by
    rw [hn, hop]
    rfl
  rw [chained, if_pos hescapes, hr.implicit]
  rfl

/-- Conditions that are conjoined to something right-handed are a single one. -/
theorem eq_singleton_of_conjoin {nodes : List (Node κ)} {n : Node κ} (h : r.conjoin nodes = .ok n)
    (hside : n.operator.rightHanded = true) : nodes = [n] := by
  match nodes with
  | [] => cases h
  | [_] => rw [Except.ok.inj h]
  | _ :: _ :: _ =>
    rw [hr.conjoin_several] at h
    obtain rfl := Except.ok.inj h
    cases hside

/-- A filter that is right-handed has a single member. -/
theorem exists_of_nodeOf_rightHanded {members : Members} {disabled : Bool} {n : Node κ}
    (h : r.nodeOf (.object members) disabled = .ok n) (hside : n.operator.rightHanded = true) :
    ∃ m, members = [m] := by
  rw [nodeOf] at h
  obtain ⟨nodes, hnodes, hconjoin⟩ := bind_eq_ok.mp h
  rw [membersOf_eq_mapM] at hnodes
  have hlength := length_of_mapM_eq_ok hnodes
  rw [eq_singleton_of_conjoin hr hconjoin hside] at hlength
  exact List.length_eq_one_iff.mp hlength.symm

/-- Only a single condition can be right-handed. -/
theorem exists_of_boundOf_rightHanded {conditions : Json} {n : Node κ}
    (h : r.boundOf conditions = .ok n) (hside : n.operator.rightHanded = true) :
    ∃ key raw, conditions = .object [(key, raw)] ∧ r.conditionOf key raw = .ok n := by
  cases conditions with
  | array items =>
    have hplain : ((listMeaning items).operator : Operator κ).isReference = false :=
      isReference_of_array (listMeaning_kind items)
    have hlist : (listMeaning items).rightHanded = false := by
      unfold listMeaning
      split
      · split <;> rfl
      · rfl
    rw [boundOf, hr.implicit, ok_bind] at h
    obtain ⟨x, -, h⟩ := bind_eq_ok.mp h
    rw [condition_plain hplain] at h
    obtain rfl := Except.ok.inj h
    exact absurd (hlist.symm.trans hside) Bool.false_ne_true
  | object members =>
    obtain ⟨-, -, hconjoin⟩ := bind_eq_ok.mp h
    obtain ⟨nodes, hnodes, hconjoin⟩ := bind_eq_ok.mp hconjoin
    rw [conditionsOf_eq_mapM] at hnodes
    have hlength := length_of_mapM_eq_ok hnodes
    rw [eq_singleton_of_conjoin hr hconjoin hside] at hlength
    obtain ⟨⟨key, raw⟩, rfl⟩ := List.length_eq_one_iff.mp hlength.symm
    exact ⟨key, raw, rfl, (boundOf_single r key raw).symm.trans h⟩
  | _ =>
    rw [boundOf_scalar r rfl, hr.implicit, ok_bind] at h
    obtain ⟨x, -, h⟩ := bind_eq_ok.mp h
    rw [condition_plain rfl] at h
    obtain rfl := Except.ok.inj h
    cases hside

end

/-- What stands under a field is right-handed only when it is a negation. -/
theorem isNegation_of_rightHanded {conditions : Json} {n : Node κ}
    (h : defaults.boundOf conditions = .ok n) (hside : n.operator.rightHanded = true) :
    conditions.IsNegation ∧ n.operator = Builtin.negation.operator := by
  have hr := defaults_holdsBuiltins (κ := κ)
  obtain ⟨key, raw, rfl, hcondition⟩ := exists_of_boundOf_rightHanded hr h hside
  cases hop : (defaults : Registry κ).get? key with
  | none =>
    rw [conditionOf, hop] at hcondition
    cases hcondition
  | some op =>
    obtain ⟨operation, hname, rfl⟩ := get?_defaults_eq_some.mp hop
    cases href : (operation.operator : Operator κ).isReference with
    | true =>
      rw [conditionOf, hop] at hcondition
      obtain ⟨x, -, hcondition⟩ := bind_eq_ok.mp hcondition
      rw [condition_reference hr href] at hcondition
      obtain rfl := Except.ok.inj hcondition
      cases hside
    | false =>
      rw [conditionOf_operator hop href] at hcondition
      obtain ⟨x, -, rfl⟩ := map_eq_ok.mp hcondition
      obtain rfl : operation = .negation := by
        by_contra hnot
        exact absurd ((isReference_of_rightHanded hside hnot).symm.trans href) (by decide)
      exact ⟨⟨raw, by rw [← hname]; rfl⟩, rfl⟩

end Registry

/-! ## References -/

/-- The operations that refer to a field: to its value, or to its value rounded. -/
def Builtin.reference : Option Rounding → Builtin
  | none => field
  | some rounding => roundedField rounding

/-- What a reference stands for when this is the value of its field. -/
def referred? : Option Rounding → Option Json → Option Json
  | none, value => value
  | some rounding, value => rounding.value? value

/-- A reference as a condition. -/
def Json.reference (rounding : Option Rounding) (key : String) : Json :=
  .object [((Builtin.reference rounding).name, .string key)]

/-- A reference as a node. -/
def Node.reference (rounding : Option Rounding) (s : Selector) : Node κ :=
  .plain (Builtin.reference rounding).operator (.selector s)

namespace Registry

variable {r : Registry κ} (hr : r.HoldsBuiltins)
include hr

omit hr in
/-- A reference takes the name of its field. -/
theorem operandOf_selector (rounding : Option Rounding) (key : String) (selected : Bool) :
    r.operandOf (.string key) (Builtin.reference rounding).operator selected =
      .ok (.selector ⟨key⟩) := by
  rw [operandOf_scalar r rfl]
  cases rounding <;> rfl

/-- A reference is a filter. -/
theorem nodeOf_reference (rounding : Option Rounding) (key : String) (disabled : Bool) :
    r.nodeOf (.reference rounding key) disabled = .ok (.reference rounding ⟨key⟩) := by
  rw [Json.reference, nodeOf_single, memberOf_operator (hr _), operandOf_selector]
  rfl

/-- An operator of values takes a reference as it stands. -/
theorem operandOf_value_reference {op : Operator κ} (hkind : op.kind = .value)
    (rounding : Option Rounding) (key : String) (selected : Bool) :
    r.operandOf (.reference rounding key) op selected = .ok (.node (.reference rounding ⟨key⟩)) := by
  rw [Json.reference, operandOf_object, hkind]
  exact bind_eq_ok.mpr ⟨_, nodeOf_reference hr rounding key false, rfl⟩

/-- A reference that stands bare under a field means equality with it. -/
theorem boundOf_reference (rounding : Option Rounding) (key : String) :
    r.boundOf (.reference rounding key) =
      r.boundOf (.object [("$eq", .reference rounding key)]) := by
  have href : ((Builtin.reference rounding).operator : Operator κ).isReference = true := by
    cases rounding <;> rfl
  have hequal : r.get? "$eq" = some Builtin.equal.operator := hr .equal
  have hbare : r.conditionOf (Builtin.reference rounding).name (.string key) =
      r.operandOf (.string key) (Builtin.reference rounding).operator true >>= r.condition
        (Builtin.reference rounding).operator := by
    rw [conditionOf, hr]
  rw [boundOf_single, conditionOf_operator hequal rfl, operandOf_value_reference hr rfl,
    Json.reference, boundOf_single, hbare, operandOf_selector, ok_bind, condition_reference hr href]
  rfl

/-- A reference gives the value that it stands for, whatever the context. -/
theorem evaluate_reference (host : Host κ) (rounding : Option Rounding) (s : Selector)
    (given : Option Json) (document : Json) :
    r.evaluate host (.reference rounding s) given document =
      .ok (referred? rounding (s.resolve document)) := by
  have hn : (Node.reference (κ := κ) rounding s).BuiltinOnly := by
    refine Node.forall_nodes.mpr ⟨⟨Builtin.reference rounding, rfl⟩, fun m hm => ?_⟩
    exact absurd hm List.not_mem_nil
  rw [evaluate_leaf hr hn given document
    (show _ = (Builtin.reference rounding).operator from rfl) rfl]
  cases rounding <;> rfl

/-- **An operation over a reference is run on what the reference stands for.** -/
theorem evaluate_over_reference (host : Host κ) {n : Node κ} (hn : n.BuiltinOnly)
    {operation : Builtin} (hop : n.operator = operation.operator) {rounding : Option Rounding}
    {s : Selector} (hx : n.operand = .node (.reference rounding s)) (given : Option Json)
    (document : Json) :
    r.evaluate host n given document =
      (operation.run (r.evaluator host) (Node.contextIn n.selector given document)
        (.ofValue (referred? rounding (s.resolve document))) document).mapError fun e =>
          e.report n.operator n.operand (Node.contextIn n.selector given document) := by
  have hright : (Node.reference (κ := κ) rounding s).operator.rightHanded = true := by
    cases rounding <;> rfl
  have hside : (n.operator.rightHanded ||
      (Node.reference (κ := κ) rounding s).operator.rightHanded) = true := by
    rw [hright, Bool.or_true]
  rw [evaluate_rightHanded hr hn given document hx hside, evaluate_reference hr, ok_bind,
    applied_builtin hop]

end Registry

end DocFilter
