import DocFilter.Proofs.Equations
import DocFilter.Proofs.Tree

/-!
# How trees are built

The compiler makes nodes in four ways. It applies an operator to the operand that it reads for it,
it compares what a node produces for equality, it conjoins nodes, and it tells what stands under a
field to select. A property of nodes that each of the four gives or keeps is a `Registry.Invariant`
of the compiler.

A value can be read as an operand, as what stands under a field and as a filter. `Registry.ReadWith`
says that all nodes that it is compiled to have a property, however it is read, and an induction on
the value gives

> `Registry.Invariant.readWith`: all nodes that a value is compiled to have an invariant of the
> compiler.
-/

namespace DocFilter

variable {κ : Type}

namespace Registry

/-- A property of nodes that holds of every node that the compiler makes. -/
structure Invariant (r : Registry κ) (P : Node κ → Prop) : Prop where
  /-- An operator is applied to the operand that is read for it. -/
  applied {key : String} {op : Operator κ} {raw : Json} {selected : Bool} {x : Operand κ}
    (hop : r.get? key = some op) (hx : r.operandOf raw op selected = .ok x) : P (.plain op x)
  /-- What a node produces is compared for equality. -/
  equated (n : Node κ) : P (.plain Builtin.equal.operator (.node n))
  /-- Several nodes are conjoined. -/
  conjoined {nodes : List (Node κ)} (htwo : 2 ≤ nodes.length) :
    P (.plain Builtin.contextAnd.operator (.list (nodes.map .node)))
  /-- What stands under a field is told to select. -/
  selecting {raw : Json} {n : Node κ} (key : String) (hbound : r.boundOf raw = .ok n) (hn : P n) :
    P { n with selector := some ⟨key⟩ }

/-- All nodes that a value is compiled to have a property, however the value is read. -/
structure ReadWith (r : Registry κ) (P : Node κ → Prop) (raw : Json) : Prop where
  operand {op : Operator κ} {selected : Bool} {x : Operand κ}
    (hx : r.operandOf raw op selected = .ok x) : ∀ m ∈ x.nodes, P m
  field {n : Node κ} (hn : r.boundOf raw = .ok n) : ∀ m ∈ n.nodes, P m
  filter {disabled : Bool} {n : Node κ} (hn : r.nodeOf raw disabled = .ok n) : ∀ m ∈ n.nodes, P m

namespace Invariant

variable {r : Registry κ} {P : Node κ → Prop} (hP : r.Invariant P) (hr : r.HoldsBuiltins)

/-! ## One step -/

section
include hP

theorem nodes_applied {key : String} {op : Operator κ} {raw : Json} {selected : Bool}
    {x : Operand κ} (hop : r.get? key = some op) (hx : r.operandOf raw op selected = .ok x)
    (hall : ∀ m ∈ x.nodes, P m) : ∀ m ∈ (Node.plain op x).nodes, P m :=
  Node.forall_nodes.mpr ⟨hP.applied hop hx, hall⟩

theorem nodes_equated {n : Node κ} (hall : ∀ m ∈ n.nodes, P m) :
    ∀ m ∈ (Node.plain Builtin.equal.operator (.node n)).nodes, P m :=
  Node.forall_nodes.mpr ⟨hP.equated n, hall⟩

theorem nodes_selecting {raw : Json} {n : Node κ} (key : String) (hbound : r.boundOf raw = .ok n)
    (hall : ∀ m ∈ n.nodes, P m) : ∀ m ∈ Node.nodes { n with selector := some ⟨key⟩ }, P m :=
  let ⟨hn, hbelow⟩ := Node.forall_nodes.mp hall
  Node.forall_nodes.mpr ⟨hP.selecting key hbound hn, hbelow⟩

end

section
include hP hr

theorem nodes_chained {op : Operator κ} {n : Node κ} {x : Operand κ}
    (hx : r.chained op n = .ok x) (hall : ∀ m ∈ n.nodes, P m) : ∀ m ∈ x.nodes, P m := by
  unfold chained at hx
  split at hx
  · rw [hr.implicit, ok_bind] at hx
    cases hx
    exact hP.nodes_equated hall
  · cases hx
    exact hall

theorem nodes_condition {key : String} {op : Operator κ} {raw : Json} {selected : Bool}
    {x : Operand κ} {n : Node κ} (hop : r.get? key = some op)
    (hx : r.operandOf raw op selected = .ok x) (hall : ∀ m ∈ x.nodes, P m)
    (hn : r.condition op x = .ok n) : ∀ m ∈ n.nodes, P m := by
  have happlied := hP.nodes_applied hop hx hall
  unfold condition at hn
  split at hn
  · rw [hr.implicit, ok_bind] at hn
    cases hn
    exact hP.nodes_equated happlied
  · cases hn
    exact happlied

theorem nodes_conjoin {nodes : List (Node κ)} (hall : ∀ n ∈ nodes, ∀ m ∈ n.nodes, P m)
    {n : Node κ} (hn : r.conjoin nodes = .ok n) : ∀ m ∈ n.nodes, P m := by
  match nodes, hn with
  | [_], hn =>
    cases hn
    exact hall n List.mem_cons_self
  | n₁ :: n₂ :: rest, hn =>
    rw [hr.conjoin_several] at hn
    cases hn
    refine Node.forall_nodes.mpr ⟨hP.conjoined (Nat.le_add_left 2 _), fun m hm => ?_⟩
    obtain ⟨y, hy, hm⟩ := Operand.mem_nodes_list.mp hm
    obtain ⟨k, hk, rfl⟩ := List.mem_map.mp hy
    exact hall k hk m hm

end

/-! ## Scalars and lists -/

section
include hP hr

theorem nodes_scalarOperand {op : Operator κ} {v : Json} (hv : v.isContainer = false)
    {x : Operand κ} (hx : r.scalarOperand op v = .ok x) : ∀ m ∈ x.nodes, P m := by
  unfold scalarOperand at hx
  cases hkind : op.kind with
  | array =>
    simp only [hkind] at hx
    cases hx
  | pattern =>
    simp only [hkind] at hx
    -- the text of the pattern, which is compiled, depends on what scalar it is
    obtain ⟨text, hx⟩ : ∃ text, patternOperand op text = .ok x := by
      cases v <;> exact ⟨_, hx⟩
    unfold patternOperand at hx
    split at hx
    · cases hx
      exact List.forall_mem_nil _
    · cases hx
  | operator =>
    simp only [hkind, hr.implicit, ok_bind] at hx
    have hequal : r.operandOf v Builtin.equal.operator false = .ok (.value v) :=
      operandOf_scalar r hv _ _
    exact hP.nodes_chained hr hx
      (hP.nodes_applied (hr .equal) hequal (List.forall_mem_nil _))
  | context =>
    simp only [hkind] at hx
    split at hx
    · cases hx
      exact List.forall_mem_nil _
    · cases hx
  | value =>
    simp only [hkind] at hx
    cases hx
    exact List.forall_mem_nil _

variable {items : List Json} (hitems : ∀ item ∈ items, r.ReadWith P item)
include hitems

omit hP hr in
theorem nodes_elements {xs : List (Operand κ)} (hxs : r.elementsOf items = .ok xs) :
    ∀ m ∈ (Operand.list xs).nodes, P m := by
  intro m hm
  obtain ⟨x, hx, hm⟩ := Operand.mem_nodes_list.mp hm
  rw [elementsOf_eq_mapM] at hxs
  obtain ⟨item, hitem, helement⟩ := exists_of_mem_mapM_eq_ok hxs x hx
  cases hcontainer : item.isContainer with
  | true =>
    rw [elementOf_container r hcontainer] at helement
    obtain ⟨n, hn, helement⟩ := bind_eq_ok.mp helement
    cases helement
    exact (hitems item hitem).filter hn m hm
  | false =>
    rw [elementOf_scalar r hcontainer] at helement
    cases helement
    exact absurd hm List.not_mem_nil

omit hP hr in
theorem nodes_list {op : Operator κ} (hkind : op.kind = .array) {turns : Nat} {x : Operand κ}
    (hx : r.listOperand items (r.elementsOf items) turns op = .ok x) : ∀ m ∈ x.nodes, P m := by
  rw [listOperand_array hkind] at hx
  obtain ⟨-, -, hx⟩ := bind_eq_ok.mp hx
  obtain ⟨xs, hxs, hx⟩ := bind_eq_ok.mp hx
  cases hx
  exact nodes_elements hitems hxs

/-- An operation on lists that a list stands for. -/
theorem nodes_implied {operation : Builtin}
    (hkind : (operation.operator : Operator κ).kind = .array) {turns : Nat} {x : Operand κ}
    (hx : r.listOperand items (r.elementsOf items) turns operation.operator = .ok x) :
    ∀ m ∈ (Node.plain operation.operator x).nodes, P m := by
  have happlied : r.operandOf (.array items) operation.operator false = .ok x := by
    rw [operandOf_array, listOperand_array hkind, ← listOperand_array hkind, hx]
  exact hP.nodes_applied (hr operation) happlied (nodes_list hitems hkind hx)

theorem nodes_listOperand {op : Operator κ} {turns : Nat} {x : Operand κ}
    (hx : r.listOperand items (r.elementsOf items) turns op = .ok x) : ∀ m ∈ x.nodes, P m := by
  cases hkind : op.kind with
  | array => exact nodes_list hitems hkind hx
  | context => cases turns <;> simp only [listOperand, hkind] at hx <;> cases hx
  | operator =>
    cases turns with
    | zero =>
      simp only [listOperand, hkind] at hx
      cases hx
    | succ turns =>
      rw [listOperand_operator hkind, hr.implicit, ok_bind] at hx
      obtain ⟨y, hy, hx⟩ := bind_eq_ok.mp hx
      exact hP.nodes_chained hr hx (hP.nodes_implied hr hitems (listMeaning_kind items) hy)
  | pattern | value =>
    cases turns with
    | zero =>
      simp only [listOperand, hkind] at hx
      cases hx
    | succ turns =>
      rw [listOperand_filters (by simp [hkind]), hr.implicit, ok_bind] at hx
      obtain ⟨y, hy, hx⟩ := bind_eq_ok.mp hx
      cases hx
      exact hP.nodes_implied hr hitems rfl hy

end

/-! ## Queries -/

section
include hP hr

/-- A scalar. -/
theorem readWith_scalar {v : Json} (hv : v.isContainer = false) : r.ReadWith P v where
  operand hx := by
    rw [operandOf_scalar r hv] at hx
    exact hP.nodes_scalarOperand hr hv hx
  field hn := by
    rw [boundOf_scalar r hv, hr.implicit, ok_bind] at hn
    obtain ⟨x, hx, hn⟩ := bind_eq_ok.mp hn
    have hequal : r.operandOf v Builtin.equal.operator false = .ok x := by
      rw [operandOf_scalar r hv, hx]
    exact hP.nodes_condition hr (hr .equal) hequal (hP.nodes_scalarOperand hr hv hx) hn
  filter hn := by
    cases v with
    | array | object => cases hv
    | _ => cases hn

/-- A list of values that are read with the property. -/
theorem readWith_array {items : List Json} (hitems : ∀ item ∈ items, r.ReadWith P item) :
    r.ReadWith P (.array items) where
  operand hx := by
    rw [operandOf_array] at hx
    exact hP.nodes_listOperand hr hitems hx
  field hn := by
    simp only [boundOf, hr.implicit, ok_bind] at hn
    obtain ⟨x, hx, hn⟩ := bind_eq_ok.mp hn
    have hlist : r.operandOf (.array items) (listMeaning items).operator false = .ok x := by
      rw [operandOf_array, hx]
    exact hP.nodes_condition hr (hr _) hlist (hP.nodes_listOperand hr hitems hx) hn
  filter hn := by
    simp only [nodeOf, hr.implicit, ok_bind] at hn
    obtain ⟨x, hx, hn⟩ := bind_eq_ok.mp hn
    cases hn
    exact hP.nodes_implied hr hitems rfl hx

variable {members : Members} (hmembers : ∀ m ∈ members, r.ReadWith P m.2)
include hmembers

theorem nodes_filter {disabled : Bool} {n : Node κ}
    (hn : r.nodeOf (.object members) disabled = .ok n) : ∀ m ∈ n.nodes, P m := by
  obtain ⟨nodes, hnodes, hn⟩ := bind_eq_ok.mp hn
  rw [membersOf_eq_mapM] at hnodes
  refine hP.nodes_conjoin hr (fun k hk => ?_) hn
  obtain ⟨⟨key, raw⟩, hm, hmember⟩ := exists_of_mem_mapM_eq_ok hnodes k hk
  cases hop : r.get? key with
  | some op =>
    rw [memberOf_operator hop, map_eq_ok] at hmember
    obtain ⟨x, hx, rfl⟩ := hmember
    exact hP.nodes_applied hop hx ((hmembers _ hm).operand hx)
  | none =>
    cases disabled with
    | true =>
      rw [memberOf, hop] at hmember
      cases hmember
    | false =>
      rw [memberOf_field hop, map_eq_ok] at hmember
      obtain ⟨b, hb, rfl⟩ := hmember
      exact hP.nodes_selecting key hb ((hmembers _ hm).field hb)

/-- An object of values that are read with the property. -/
theorem readWith_object : r.ReadWith P (.object members) where
  operand {op _ _} hx := by
    rw [operandOf_object] at hx
    cases hkind : op.kind with
    | array | context =>
      simp only [hkind] at hx
      cases hx
    | operator =>
      simp only [hkind] at hx
      obtain ⟨n, hn, hx⟩ := bind_eq_ok.mp hx
      exact hP.nodes_chained hr hx (hP.nodes_filter hr hmembers hn)
    | pattern | value =>
      simp only [hkind] at hx
      obtain ⟨n, hn, hx⟩ := bind_eq_ok.mp hx
      cases hx
      exact hP.nodes_filter hr hmembers hn
  field hn := by
    obtain ⟨-, -, hn⟩ := bind_eq_ok.mp hn
    obtain ⟨nodes, hnodes, hn⟩ := bind_eq_ok.mp hn
    rw [conditionsOf_eq_mapM] at hnodes
    refine hP.nodes_conjoin hr (fun k hk => ?_) hn
    obtain ⟨⟨key, raw⟩, hm, hcondition⟩ := exists_of_mem_mapM_eq_ok hnodes k hk
    unfold conditionOf at hcondition
    split at hcondition
    · next op hop =>
      obtain ⟨x, hx, hcondition⟩ := bind_eq_ok.mp hcondition
      exact hP.nodes_condition hr hop hx ((hmembers _ hm).operand hx) hcondition
    · cases hcondition
  filter hn := hP.nodes_filter hr hmembers hn

omit hmembers

/-- **Every value is read with an invariant of the compiler.** -/
theorem readWith (raw : Json) : r.ReadWith P raw := by
  induction raw using Json.induct with
  | scalar v hv => exact hP.readWith_scalar hr hv
  | array items ih => exact hP.readWith_array hr ih
  | object members ih => exact hP.readWith_object hr ih

end

end Invariant

end Registry

end DocFilter
