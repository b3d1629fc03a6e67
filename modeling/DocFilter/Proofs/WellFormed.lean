import DocFilter.Proofs.Shape

/-!
# Well-formed trees

What can be relied on in a tree that the compiler has made, for operators of any kind, arity and
side beside those of the query language (`Node.WellFormed`). Each operator has an operand of its
kind. And a field is selected once: the value of a field is handed on from the node that selects it
to the operand of an operator of conditions or of patterns, and so on from there (`Node.handed`),
and none of the nodes that it is handed on to selects another one.

> `Registry.nodeOf_wellFormed`: all nodes of a compiled query are well formed.

The operands are those of `Registry.nodeOf_formed`. The rest follows the flag with which the
compiler refuses fields: what is compiled so selects nothing, and hands nothing on to a node that
does (`Registry.unselecting`); the conditions on a field are compiled so, and to be told to select
makes no difference to the nodes below.
-/

namespace DocFilter

variable {κ : Type}

/-! ## Handing a value on -/

/-- Whether the value at hand goes on to the node in the operand of an operator. -/
def Operator.handsOn (op : Operator κ) : Bool :=
  op.kind == .operator || op.kind == .pattern

/-- The nodes that the value at a node is handed on to, one after the other. -/
def Node.handed : Node κ → List (Node κ)
  | ⟨_, operator, operand⟩ =>
    match operand with
    | .node inner => if operator.handsOn then inner :: inner.handed else []
    | _ => []
termination_by structural n => n

/-- Neither a node nor those that its value is handed on to select a field. -/
def Node.Unselecting (n : Node κ) : Prop :=
  ∀ m ∈ n :: n.handed, m.selector = none

/-- What holds of a node of a compiled tree. -/
structure Node.WellFormed (n : Node κ) : Prop where
  array (hop : n.operator.kind = .array) :
    ∃ items, n.operand = .list items ∧ n.operator.least ≤ items.length ∧
      (∀ most, n.operator.most = some most → items.length ≤ most) ∧ ∀ x ∈ items, x.IsElement
  context (hop : n.operator.kind = .context) : ∃ s, n.operand = .selector s
  pattern (hop : n.operator.kind = .pattern) :
    (∃ regex, n.operand = .pattern regex) ∨ ∃ m, n.operand = .node m
  /-- The value of a right-handed node does not escape to an operator that is not right-handed. -/
  operator (hop : n.operator.kind = .operator) :
    ∃ m, n.operand = .node m ∧ (m.operator.rightHanded = true → n.operator.rightHanded = true)
  value (hop : n.operator.kind = .value) :
    (∃ v, n.operand = .value v ∧ v.isContainer = false) ∨ ∃ m, n.operand = .node m
  present : n.operand ≠ .absent
  literal {v : Json} (hv : n.operand = .value v ∨ .value v ∈ n.operand.items) :
    v.isContainer = false
  /-- A value that has been selected is not replaced by another one. -/
  handed (hselects : n.selector.isSome = true) : ∀ m ∈ n.handed, m.selector = none

namespace Node

/-- A node whose operator hands its value on. -/
theorem handed_eq {n m : Node κ} (hop : n.operator.handsOn = true) (hx : n.operand = .node m) :
    n.handed = m :: m.handed := by
  obtain ⟨selector, operator, operand⟩ := n
  obtain rfl := hx
  exact if_pos hop

/-- A node whose operator has a use of its own for the value. -/
theorem handed_eq_nil {n : Node κ} (hop : n.operator.handsOn = false) : n.handed = [] := by
  obtain ⟨selector, operator, operand⟩ := n
  replace hop : operator.handsOn = false := hop
  cases operand with
  | node m =>
    show (if operator.handsOn then m :: m.handed else []) = []
    rw [hop]
    rfl
  | _ => rfl

/-- To be told to select makes no difference to what a node hands its value on to. -/
theorem handed_select (n : Node κ) (selector : Option Selector) :
    handed { n with selector } = n.handed := by
  obtain ⟨_, operator, operand⟩ := n
  cases operand <;> rfl

/-- A node that does not select counts for what it hands its value on to. -/
theorem unselecting_plain {op : Operator κ} {x : Operand κ}
    (h : op.handsOn = true → ∀ m, x = .node m → m.Unselecting) : (plain op x).Unselecting := by
  refine List.forall_mem_cons.mpr ⟨rfl, ?_⟩
  cases hop : op.handsOn with
  | false =>
    rw [handed_eq_nil (n := plain op x) hop]
    exact List.forall_mem_nil _
  | true =>
    cases hx : x.node? with
    | some m =>
      have hm := Operand.node?_eq_some.mp hx
      rw [handed_eq (n := plain op x) hop hm]
      exact h hop m hm
    | none =>
      -- there is no node to hand it on to
      cases x with
      | node m => cases hx
      | _ => exact List.forall_mem_nil _

theorem unselecting_of_keeps {op : Operator κ} (hop : op.handsOn = false) (x : Operand κ) :
    (plain op x).Unselecting :=
  unselecting_plain fun h => absurd (hop.symm.trans h) Bool.false_ne_true

end Node

theorem Operator.handsOn_of_array {op : Operator κ} (hop : op.kind = .array) :
    op.handsOn = false := by
  rw [handsOn, hop]
  rfl

/-! ## Compiling with fields refused -/

namespace Registry

variable {r : Registry κ} (hr : r.HoldsBuiltins)
include hr

theorem chained_unselecting {op : Operator κ} {n m : Node κ} (hn : n.Unselecting)
    (h : r.chained op n = .ok (.node m)) : m.Unselecting := by
  unfold chained at h
  split at h
  · rw [hr.implicit, ok_bind] at h
    cases h
    exact Node.unselecting_of_keeps rfl _
  · cases h
    exact hn

theorem conjoin_unselecting {nodes : List (Node κ)} (hnodes : ∀ n ∈ nodes, n.Unselecting)
    {n : Node κ} (h : r.conjoin nodes = .ok n) : n.Unselecting := by
  match nodes, h with
  | [_], h =>
    cases h
    exact hnodes n List.mem_cons_self
  | n₁ :: n₂ :: rest, h =>
    rw [hr.conjoin_several] at h
    cases h
    exact Node.unselecting_of_keeps rfl _

theorem condition_unselecting {op : Operator κ} {x : Operand κ}
    (hx : op.handsOn = true → ∀ m, x = .node m → m.Unselecting) {n : Node κ}
    (h : r.condition op x = .ok n) : n.Unselecting := by
  unfold condition at h
  split at h
  · rw [hr.implicit, ok_bind] at h
    cases h
    exact Node.unselecting_of_keeps rfl _
  · cases h
    exact Node.unselecting_plain hx

/-- A list stands for an operation on lists, which hands nothing on. -/
theorem listOperand_unselecting {op : Operator κ} (hop : op.handsOn = true) {items : List Json}
    {elements : Except QueryError (List (Operand κ))} {turns : Nat} {m : Node κ}
    (h : r.listOperand items elements turns op = .ok (.node m)) : m.Unselecting := by
  cases hkind : op.kind with
  | array | context | value =>
    rw [Operator.handsOn, hkind] at hop
    cases hop
  | operator =>
    cases turns with
    | zero =>
      simp only [listOperand, hkind] at h
      cases h
    | succ turns =>
      rw [listOperand_operator hkind, hr.implicit, ok_bind] at h
      obtain ⟨y, -, h⟩ := bind_eq_ok.mp h
      have hlist := Operator.handsOn_of_array (listMeaning_kind (κ := κ) items)
      exact chained_unselecting hr (Node.unselecting_of_keeps hlist y) h
  | pattern =>
    cases turns with
    | zero =>
      simp only [listOperand, hkind] at h
      cases h
    | succ turns =>
      rw [listOperand_filters (.inr hkind), hr.implicit, ok_bind] at h
      obtain ⟨y, -, h⟩ := bind_eq_ok.mp h
      cases h
      exact Node.unselecting_of_keeps rfl y

theorem scalarOperand_unselecting {op : Operator κ} (hop : op.handsOn = true) {v : Json}
    {m : Node κ} (h : r.scalarOperand op v = .ok (.node m)) : m.Unselecting := by
  cases hkind : op.kind with
  | array | context | value =>
    rw [Operator.handsOn, hkind] at hop
    cases hop
  | operator =>
    rw [scalarOperand_operator hkind, hr.implicit, ok_bind] at h
    exact chained_unselecting hr (Node.unselecting_of_keeps rfl _) h
  | pattern =>
    -- a scalar is a pattern itself, and no node
    simp only [scalarOperand, hkind] at h
    obtain ⟨text, h⟩ : ∃ text, patternOperand op text = .ok (.node m) := by
      cases v <;> exact ⟨_, h⟩
    unfold patternOperand at h
    split at h <;> cases h

/-- **What is compiled with fields refused does not select**, at the root or where the root hands
its value on to: neither as the operand of an operator that hands its value on, nor as a filter. -/
theorem unselecting (raw : Json) :
    (∀ {op : Operator κ} {m}, op.handsOn = true → r.operandOf raw op true = .ok (.node m) →
        m.Unselecting) ∧
      ∀ {n}, r.nodeOf raw true = .ok n → n.Unselecting := by
  induction raw using Json.induct with
  | scalar v hv =>
    refine ⟨fun hop h => ?_, fun h => ?_⟩
    · rw [operandOf_scalar r hv] at h
      exact scalarOperand_unselecting hr hop h
    · cases v with
      | array | object => cases hv
      | _ => cases h
  | array items =>
    refine ⟨fun hop h => ?_, fun h => ?_⟩
    · rw [operandOf_array] at h
      exact listOperand_unselecting hr hop h
    · simp only [nodeOf, hr.implicit, ok_bind] at h
      obtain ⟨x, -, h⟩ := bind_eq_ok.mp h
      cases h
      exact Node.unselecting_of_keeps rfl x
  | object members ih =>
    have hfilter : ∀ {n}, r.nodeOf (.object members) true = .ok n → n.Unselecting := by
      intro n h
      obtain ⟨nodes, hnodes, h⟩ := bind_eq_ok.mp h
      rw [membersOf_eq_mapM] at hnodes
      refine conjoin_unselecting hr (fun k hk => ?_) h
      obtain ⟨⟨key, raw⟩, hm, hmember⟩ := exists_of_mem_mapM_eq_ok hnodes k hk
      cases hop : r.get? key with
      | none =>
        -- a field, which is refused
        rw [memberOf, hop] at hmember
        cases hmember
      | some op =>
        rw [memberOf_operator hop, map_eq_ok] at hmember
        obtain ⟨x, hx, rfl⟩ := hmember
        refine Node.unselecting_plain fun hhands m hmx => ?_
        rw [hmx] at hx
        exact (ih _ hm).1 hhands hx
    refine ⟨fun {op m} hop h => ?_, hfilter⟩
    rw [operandOf_object] at h
    cases hkind : op.kind with
    | array | context | value =>
      rw [Operator.handsOn, hkind] at hop
      cases hop
    | operator =>
      simp only [hkind] at h
      obtain ⟨n, hn, h⟩ := bind_eq_ok.mp h
      exact chained_unselecting hr (hfilter hn) h
    | pattern =>
      simp only [hkind] at h
      obtain ⟨n, hn, h⟩ := bind_eq_ok.mp h
      cases h
      exact hfilter hn

/-- What stands under a field does not select, nor does it hand its value on to a node that does. -/
theorem boundOf_unselecting {raw : Json} {n : Node κ} (h : r.boundOf raw = .ok n) :
    n.Unselecting := by
  cases raw with
  | array items =>
    simp only [boundOf, hr.implicit, ok_bind] at h
    obtain ⟨x, -, h⟩ := bind_eq_ok.mp h
    have hlist := Operator.handsOn_of_array (listMeaning_kind (κ := κ) items)
    exact condition_unselecting hr (fun hop => absurd (hlist.symm.trans hop) Bool.false_ne_true) h
  | object members =>
    obtain ⟨-, -, h⟩ := bind_eq_ok.mp h
    obtain ⟨nodes, hnodes, h⟩ := bind_eq_ok.mp h
    rw [conditionsOf_eq_mapM] at hnodes
    refine conjoin_unselecting hr (fun k hk => ?_) h
    obtain ⟨⟨key, raw⟩, -, hcondition⟩ := exists_of_mem_mapM_eq_ok hnodes k hk
    unfold conditionOf at hcondition
    split at hcondition
    · obtain ⟨x, hx, hcondition⟩ := bind_eq_ok.mp hcondition
      refine condition_unselecting hr (fun hop m hm => ?_) hcondition
      rw [hm] at hx
      exact (unselecting hr raw).1 hop hx
    · cases hcondition
  | _ =>
    rw [boundOf_scalar r rfl, hr.implicit, ok_bind] at h
    obtain ⟨x, -, h⟩ := bind_eq_ok.mp h
    have hequal : (Builtin.equal.operator : Operator κ).handsOn = false := rfl
    exact condition_unselecting hr (fun hop => absurd (hequal.symm.trans hop) Bool.false_ne_true) h

/-! ## Compiled trees -/

/-- That a value, once it has been selected, is not replaced by another one is an invariant of the
compiler. -/
theorem invariant_selected :
    r.Invariant fun n => n.selector.isSome = true → ∀ m ∈ n.handed, m.selector = none where
  applied _ _ h := absurd h Bool.false_ne_true
  equated _ h := absurd h Bool.false_ne_true
  conjoined _ h := absurd h Bool.false_ne_true
  selecting _ hbound _ _ := by
    rw [Node.handed_select]
    exact (List.forall_mem_cons.mp (boundOf_unselecting hr hbound)).2

/-- **Compiled trees are well formed.** -/
theorem nodeOf_wellFormed {raw : Json} {disabled : Bool} {n : Node κ}
    (h : r.nodeOf raw disabled = .ok n) : ∀ m ∈ n.nodes, m.WellFormed := by
  intro m hm
  have hfits := (nodeOf_formed hr h m hm).fits
  exact {
    array := hfits.list_of_kind
    context := hfits.selector_of_kind
    pattern := hfits.pattern_of_kind
    operator := hfits.node_of_kind
    value := hfits.value_of_kind
    present := hfits.ne_absent
    literal := hfits.isContainer_of_literal
    handed := ((invariant_selected hr).readWith hr raw).filter h m hm }

end Registry

/-- Two operators beside those of the query language, and a tree that compares the value of one of
them for equality because the other one must not see it. -/
theorem Registry.nodeOf_wellFormed_chained :
    ∃ (r : Registry Unit) (n : Node Unit),
      r = (defaults.insert ⟨"$pass", .operator, 0, none, false, .custom ()⟩).insert
        ⟨"$take", .operator, 0, none, true, .custom ()⟩ ∧
      r.nodeOf (.object [("f", .object [("$pass", .object [("$take",
        .array [.bool true, .null])])])]) false = .ok n ∧
      n.text = "f: $pass($eq($take($in([true, null]))))" ∧ ∀ m ∈ n.nodes, m.WellFormed := by
  have hpass : "$pass" ∉ Builtin.all.map Builtin.name := by decide
  have htake : "$take" ∉ Builtin.all.map Builtin.name := by decide
  obtain ⟨r, hregistry⟩ : ∃ r : Registry Unit,
      r = (defaults.insert ⟨"$pass", .operator, 0, none, false, .custom ()⟩).insert
        ⟨"$take", .operator, 0, none, true, .custom ()⟩ := ⟨_, rfl⟩
  have hr : r.HoldsBuiltins := by
    rw [hregistry]
    exact (defaults_holdsBuiltins.insert (Builtin.ne_name hpass)).insert (Builtin.ne_name htake)
  obtain ⟨n, hn, htext⟩ : ∃ n, r.nodeOf (.object [("f", .object [("$pass", .object [("$take",
      .array [.bool true, .null])])])]) false = .ok n ∧
      n.text = "f: $pass($eq($take($in([true, null]))))" := by
    rw [hregistry]
    exact ⟨_, rfl, rfl⟩
  exact ⟨r, n, hregistry, hn, htext, Registry.nodeOf_wellFormed hr hn⟩

end DocFilter
