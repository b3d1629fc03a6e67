import DocFilter.Filter.Basic
import DocFilter.Proofs.Equations
import DocFilter.Proofs.Tree
import Mathlib.Logic.Relation

/-!
# How a query is read

Compiling a query reads the values in it, each in its own way (`Reading`): as a filter, as what
stands under a field, or as the operand of an operator. `Registry.Step` says what is read when a
value is read, whatever the registry holds; the readings of a query are those that steps lead to
from the query as a filter.

Compiling a value compiles all that it reads, and keeps the nodes:

> `Registry.compiled_of_reads`: when a query compiles, each of its readings compiles, and every
> selector that the reading gives a node is that of a node of the query.

So a reading that cannot be compiled fails the query that contains it.
-/

namespace DocFilter

variable {κ : Type}

/-- A value and the way in which it is read. -/
inductive Reading (κ : Type) where
  /-- As a filter, which may select fields unless `disabled`. -/
  | filter (raw : Json) (disabled : Bool)
  /-- As what stands under a field. -/
  | field (raw : Json)
  /-- As the operand of an operator, under a field when `selected`. -/
  | operand (op : Operator κ) (raw : Json) (selected : Bool)

namespace Registry

/-- What is read when a value is read. -/
inductive Step (r : Registry κ) : Reading κ → Reading κ → Prop
  /-- A filter reads the operands of its operators. -/
  | member {members : Members} {key : String} {raw : Json} {op : Operator κ} {disabled : Bool}
      (hmem : (key, raw) ∈ members) (hop : r.get? key = some op) :
      Step r (.filter (.object members) disabled) (.operand op raw disabled)
  /-- A filter reads what stands under its fields. -/
  | select {members : Members} {key : String} {raw : Json}
      (hmem : (key, raw) ∈ members) (hkey : r.get? key = none) :
      Step r (.filter (.object members) false) (.field raw)
  /-- A list of filters reads its filters. -/
  | item {items : List Json} {item : Json} {disabled : Bool}
      (hmem : item ∈ items) (hitem : item.isContainer = true) :
      Step r (.filter (.array items) disabled) (.filter item false)
  /-- The conditions under a field read their operands. -/
  | condition {members : Members} {key : String} {raw : Json} {op : Operator κ}
      (hmem : (key, raw) ∈ members) (hop : r.get? key = some op) :
      Step r (.field (.object members)) (.operand op raw true)
  /-- A list under a field reads the filters in it. -/
  | fieldItem {items : List Json} {item : Json}
      (hmem : item ∈ items) (hitem : item.isContainer = true) :
      Step r (.field (.array items)) (.filter item false)
  /-- A list that is an operand reads the filters in it. -/
  | operandItem {items : List Json} {item : Json} {op : Operator κ} {selected : Bool}
      (hmem : item ∈ items) (hitem : item.isContainer = true) :
      Step r (.operand op (.array items) selected) (.filter item false)
  /-- An operator of conditions or patterns hands the value at hand to the filter in its operand,
  which may not select another field then. -/
  | handed {members : Members} {op : Operator κ} {selected : Bool}
      (hop : op.kind = .operator ∨ op.kind = .pattern) :
      Step r (.operand op (.object members) selected) (.filter (.object members) selected)
  /-- An operator of values reads its operand as a filter of its own. -/
  | valued {members : Members} {op : Operator κ} {selected : Bool} (hop : op.kind = .value) :
      Step r (.operand op (.object members) selected) (.filter (.object members) false)

/-- The readings of a query. -/
def Reads (r : Registry κ) (query : Json) (b : Reading κ) : Prop :=
  Relation.ReflTransGen r.Step (.filter query false) b

/-- The nodes that a reading is compiled to. -/
def compiled (r : Registry κ) : Reading κ → Except QueryError (List (Node κ))
  | .filter raw disabled => do return (← r.nodeOf raw disabled).nodes
  | .field raw => do return (← r.boundOf raw).nodes
  | .operand op raw selected => do return (← r.operandOf raw op selected).nodes

/-! ## Nodes that are kept -/

section
variable {r : Registry κ}

theorem conjoin_keeps {nodes : List (Node κ)} {n m : Node κ} (h : r.conjoin nodes = .ok n)
    (hm : m ∈ nodes) : ∀ k ∈ m.nodes, k ∈ n.nodes := by
  intro k hk
  match nodes, h with
  | [_], h =>
    cases h
    obtain rfl := List.mem_singleton.mp hm
    exact hk
  | m₁ :: m₂ :: rest, h =>
    simp only [conjoin] at h
    obtain ⟨op, -, h⟩ := bind_eq_ok.mp h
    cases h
    refine Node.mem_nodes.mpr (.inr (Operand.mem_nodes_list.mpr ⟨.node m, ?_, hk⟩))
    exact List.mem_map_of_mem hm

theorem chained_keeps {op : Operator κ} {n : Node κ} {x : Operand κ} (h : r.chained op n = .ok x) :
    ∀ k ∈ n.nodes, k ∈ x.nodes := by
  intro k hk
  unfold chained at h
  split at h
  · obtain ⟨equal, -, h⟩ := bind_eq_ok.mp h
    cases h
    exact Node.mem_nodes.mpr (.inr hk)
  · cases h
    exact hk

theorem condition_keeps {op : Operator κ} {x : Operand κ} {n : Node κ}
    (h : r.condition op x = .ok n) : ∀ k ∈ x.nodes, k ∈ n.nodes := by
  intro k hk
  unfold condition at h
  split at h
  · obtain ⟨equal, -, h⟩ := bind_eq_ok.mp h
    cases h
    exact Node.mem_nodes.mpr (.inr (Node.mem_nodes.mpr (.inr hk)))
  · cases h
    exact Node.mem_nodes.mpr (.inr hk)

theorem listOperand_array_keeps {items : List Json}
    {elements : Except QueryError (List (Operand κ))} {turns : Nat} {op : Operator κ}
    (hop : op.kind = .array) {x : Operand κ} (h : r.listOperand items elements turns op = .ok x) :
    ∃ xs, elements = .ok xs ∧ ∀ y ∈ xs, ∀ k ∈ y.nodes, k ∈ x.nodes := by
  rw [listOperand_array hop] at h
  obtain ⟨-, -, h⟩ := bind_eq_ok.mp h
  obtain ⟨xs, hxs, h⟩ := bind_eq_ok.mp h
  cases h
  exact ⟨xs, hxs, fun y hy k hk => Operand.mem_nodes_list.mpr ⟨y, hy, hk⟩⟩

/-- However a list is handed on, its elements are compiled and kept. -/
theorem listOperand_keeps {items : List Json} {elements : Except QueryError (List (Operand κ))}
    {turns : Nat} {op : Operator κ} {x : Operand κ}
    (h : r.listOperand items elements turns op = .ok x) :
    ∃ xs, elements = .ok xs ∧ ∀ y ∈ xs, ∀ k ∈ y.nodes, k ∈ x.nodes := by
  induction turns generalizing op x with
  | zero =>
    cases hkind : op.kind with
    | array => exact listOperand_array_keeps hkind h
    | _ =>
      simp only [listOperand, hkind] at h
      cases h
  | succ turns ih =>
    cases hkind : op.kind with
    | array => exact listOperand_array_keeps hkind h
    | context =>
      simp only [listOperand, hkind] at h
      cases h
    | pattern | value =>
      simp only [listOperand, hkind] at h
      obtain ⟨implied, -, h⟩ := bind_eq_ok.mp h
      obtain ⟨z, hz, h⟩ := bind_eq_ok.mp h
      cases h
      obtain ⟨xs, hxs, hkeeps⟩ := ih hz
      exact ⟨xs, hxs, fun y hy k hk => Node.mem_nodes.mpr (.inr (hkeeps y hy k hk))⟩
    | operator =>
      simp only [listOperand, hkind] at h
      obtain ⟨implied, -, h⟩ := bind_eq_ok.mp h
      obtain ⟨z, hz, h⟩ := bind_eq_ok.mp h
      obtain ⟨xs, hxs, hkeeps⟩ := ih hz
      exact ⟨xs, hxs, fun y hy k hk =>
        chained_keeps h k (Node.mem_nodes.mpr (.inr (hkeeps y hy k hk)))⟩

/-- The filters in a list that is compiled are compiled, and kept. -/
theorem listOperand_item {items : List Json} {turns : Nat} {op : Operator κ} {x : Operand κ}
    (h : r.listOperand items (r.elementsOf items) turns op = .ok x) {item : Json}
    (hmem : item ∈ items) (hitem : item.isContainer = true) :
    ∃ n, r.nodeOf item false = .ok n ∧ ∀ k ∈ n.nodes, k ∈ x.nodes := by
  obtain ⟨xs, hxs, hkeeps⟩ := listOperand_keeps h
  rw [elementsOf_eq_mapM] at hxs
  obtain ⟨y, hy, helement⟩ := exists_of_mapM_eq_ok hxs item hmem
  rw [elementOf_container r hitem] at helement
  obtain ⟨n, hn, helement⟩ := bind_eq_ok.mp helement
  cases helement
  exact ⟨n, hn, hkeeps (.node n) hy⟩

/-- A member of a filter that is compiled is compiled, and kept. -/
theorem nodeOf_member {members : Members} {disabled : Bool} {n : Node κ}
    (h : r.nodeOf (.object members) disabled = .ok n) {key : String} {raw : Json}
    (hmem : (key, raw) ∈ members) :
    ∃ m, r.memberOf key raw disabled = .ok m ∧ ∀ k ∈ m.nodes, k ∈ n.nodes := by
  obtain ⟨nodes, hnodes, h⟩ := bind_eq_ok.mp h
  rw [membersOf_eq_mapM] at hnodes
  obtain ⟨m, hm, hmember⟩ := exists_of_mapM_eq_ok hnodes (key, raw) hmem
  exact ⟨m, hmember, conjoin_keeps h hm⟩

/-- A condition on a field that is compiled is compiled, and kept. -/
theorem boundOf_member {members : Members} {n : Node κ} (h : r.boundOf (.object members) = .ok n)
    {key : String} {raw : Json} (hmem : (key, raw) ∈ members) :
    ∃ m, r.conditionOf key raw = .ok m ∧ ∀ k ∈ m.nodes, k ∈ n.nodes := by
  obtain ⟨-, -, h⟩ := bind_eq_ok.mp h
  obtain ⟨nodes, hnodes, h⟩ := bind_eq_ok.mp h
  rw [conditionsOf_eq_mapM] at hnodes
  obtain ⟨m, hm, hcondition⟩ := exists_of_mapM_eq_ok hnodes (key, raw) hmem
  exact ⟨m, hcondition, conjoin_keeps h hm⟩

/-! ## What is bound to a field does not select -/

theorem condition_selector {op : Operator κ} {x : Operand κ} {n : Node κ}
    (h : r.condition op x = .ok n) : n.selector = none := by
  unfold condition at h
  split at h
  · obtain ⟨equal, -, h⟩ := bind_eq_ok.mp h
    cases h
    rfl
  · cases h
    rfl

theorem conjoin_selector {nodes : List (Node κ)} (hnodes : ∀ m ∈ nodes, m.selector = none)
    {n : Node κ} (h : r.conjoin nodes = .ok n) : n.selector = none := by
  match nodes, h with
  | [_], h =>
    cases h
    exact hnodes n List.mem_cons_self
  | m₁ :: m₂ :: rest, h =>
    simp only [conjoin] at h
    obtain ⟨op, -, h⟩ := bind_eq_ok.mp h
    cases h
    rfl

/-- What stands under a field selects only once it is told to. -/
theorem boundOf_selector {raw : Json} {n : Node κ} (h : r.boundOf raw = .ok n) :
    n.selector = none := by
  cases raw with
  | array items =>
    obtain ⟨implied, -, h⟩ := bind_eq_ok.mp h
    obtain ⟨x, -, h⟩ := bind_eq_ok.mp h
    exact condition_selector h
  | object members =>
    obtain ⟨-, -, h⟩ := bind_eq_ok.mp h
    obtain ⟨nodes, hnodes, h⟩ := bind_eq_ok.mp h
    refine conjoin_selector (fun m hm => ?_) h
    rw [conditionsOf_eq_mapM] at hnodes
    obtain ⟨⟨key, raw⟩, -, hcondition⟩ := exists_of_mem_mapM_eq_ok hnodes m hm
    unfold conditionOf at hcondition
    split at hcondition
    · obtain ⟨x, -, hcondition⟩ := bind_eq_ok.mp hcondition
      exact condition_selector hcondition
    · cases hcondition
  | _ =>
    obtain ⟨implied, -, h⟩ := bind_eq_ok.mp h
    obtain ⟨x, -, h⟩ := bind_eq_ok.mp h
    exact condition_selector h

/-! ## Steps and readings -/

/-- Some node carries the selector. -/
def Selects (nodes : List (Node κ)) (s : Selector) : Prop :=
  ∃ m ∈ nodes, m.selector = some s

theorem Selects.mono {xs ys : List (Node κ)} (h : ∀ m ∈ xs, m ∈ ys) {s : Selector}
    (hs : Selects xs s) : Selects ys s :=
  let ⟨m, hm, hselector⟩ := hs
  ⟨m, h m hm, hselector⟩

theorem compiled_filter_eq_ok {raw : Json} {disabled : Bool} {ns : List (Node κ)} :
    r.compiled (.filter raw disabled) = .ok ns ↔
      ∃ n, r.nodeOf raw disabled = .ok n ∧ n.nodes = ns := by
  rw [compiled, bind_eq_ok]
  simp only [pure_eq_ok, Except.ok.injEq]

theorem compiled_field_eq_ok {raw : Json} {ns : List (Node κ)} :
    r.compiled (.field raw) = .ok ns ↔ ∃ n, r.boundOf raw = .ok n ∧ n.nodes = ns := by
  rw [compiled, bind_eq_ok]
  simp only [pure_eq_ok, Except.ok.injEq]

theorem compiled_operand_eq_ok {op : Operator κ} {raw : Json} {selected : Bool}
    {ns : List (Node κ)} :
    r.compiled (.operand op raw selected) = .ok ns ↔
      ∃ x, r.operandOf raw op selected = .ok x ∧ x.nodes = ns := by
  rw [compiled, bind_eq_ok]
  simp only [pure_eq_ok, Except.ok.injEq]

/-- **A step**: what a compiled value reads is compiled, and its selectors are kept. -/
theorem compiled_of_step {a b : Reading κ} (h : r.Step a b) {ns : List (Node κ)}
    (ha : r.compiled a = .ok ns) :
    ∃ ms, r.compiled b = .ok ms ∧ ∀ s, Selects ms s → Selects ns s := by
  cases h with
  | member hmem hop =>
    obtain ⟨n, hn, rfl⟩ := compiled_filter_eq_ok.mp ha
    obtain ⟨m, hm, hkeeps⟩ := nodeOf_member hn hmem
    simp only [memberOf, hop] at hm
    obtain ⟨x, hx, hm⟩ := bind_eq_ok.mp hm
    cases hm
    exact ⟨_, compiled_operand_eq_ok.mpr ⟨x, hx, rfl⟩,
      fun s => .mono fun k hk => hkeeps k (Node.mem_nodes.mpr (.inr hk))⟩
  | select hmem hkey =>
    obtain ⟨n, hn, rfl⟩ := compiled_filter_eq_ok.mp ha
    obtain ⟨m, hm, hkeeps⟩ := nodeOf_member hn hmem
    simp only [memberOf, hkey] at hm
    rw [if_neg Bool.false_ne_true, fieldOf_eq] at hm
    obtain ⟨body, hbody, hm⟩ := bind_eq_ok.mp hm
    cases hm
    refine ⟨_, compiled_field_eq_ok.mpr ⟨body, hbody, rfl⟩, ?_⟩
    rintro s ⟨k, hk, hs⟩
    -- the root is told to select another field, but selected none before
    rcases Node.mem_nodes.mp hk with rfl | hk
    · rw [boundOf_selector hbody] at hs
      cases hs
    · exact ⟨k, hkeeps k (Node.mem_nodes.mpr (.inr hk)), hs⟩
  | item hmem hitem =>
    obtain ⟨n, hn, rfl⟩ := compiled_filter_eq_ok.mp ha
    obtain ⟨implied, -, hn⟩ := bind_eq_ok.mp hn
    obtain ⟨x, hx, hn⟩ := bind_eq_ok.mp hn
    cases hn
    obtain ⟨m, hm, hkeeps⟩ := listOperand_item hx hmem hitem
    exact ⟨_, compiled_filter_eq_ok.mpr ⟨m, hm, rfl⟩,
      fun s => .mono fun k hk => Node.mem_nodes.mpr (.inr (hkeeps k hk))⟩
  | condition hmem hop =>
    obtain ⟨n, hn, rfl⟩ := compiled_field_eq_ok.mp ha
    obtain ⟨m, hm, hkeeps⟩ := boundOf_member hn hmem
    simp only [conditionOf, hop] at hm
    obtain ⟨x, hx, hm⟩ := bind_eq_ok.mp hm
    exact ⟨_, compiled_operand_eq_ok.mpr ⟨x, hx, rfl⟩,
      fun s => .mono fun k hk => hkeeps k (condition_keeps hm k hk)⟩
  | fieldItem hmem hitem =>
    obtain ⟨n, hn, rfl⟩ := compiled_field_eq_ok.mp ha
    obtain ⟨implied, -, hn⟩ := bind_eq_ok.mp hn
    obtain ⟨x, hx, hn⟩ := bind_eq_ok.mp hn
    obtain ⟨m, hm, hkeeps⟩ := listOperand_item hx hmem hitem
    exact ⟨_, compiled_filter_eq_ok.mpr ⟨m, hm, rfl⟩,
      fun s => .mono fun k hk => condition_keeps hn k (hkeeps k hk)⟩
  | operandItem hmem hitem =>
    obtain ⟨x, hx, rfl⟩ := compiled_operand_eq_ok.mp ha
    rw [operandOf_array] at hx
    obtain ⟨m, hm, hkeeps⟩ := listOperand_item hx hmem hitem
    exact ⟨_, compiled_filter_eq_ok.mpr ⟨m, hm, rfl⟩, fun s => .mono hkeeps⟩
  | handed hop =>
    obtain ⟨x, hx, rfl⟩ := compiled_operand_eq_ok.mp ha
    rw [operandOf_object] at hx
    rcases hop with hop | hop
    · simp only [hop] at hx
      obtain ⟨n, hn, hx⟩ := bind_eq_ok.mp hx
      exact ⟨_, compiled_filter_eq_ok.mpr ⟨n, hn, rfl⟩, fun s => .mono (chained_keeps hx)⟩
    · simp only [hop] at hx
      obtain ⟨n, hn, hx⟩ := bind_eq_ok.mp hx
      cases hx
      exact ⟨_, compiled_filter_eq_ok.mpr ⟨n, hn, rfl⟩, fun s hs => hs⟩
  | valued hop =>
    obtain ⟨x, hx, rfl⟩ := compiled_operand_eq_ok.mp ha
    rw [operandOf_object] at hx
    simp only [hop] at hx
    obtain ⟨n, hn, hx⟩ := bind_eq_ok.mp hx
    cases hx
    exact ⟨_, compiled_filter_eq_ok.mpr ⟨n, hn, rfl⟩, fun s hs => hs⟩

/-- **A run**: when a query compiles, all its readings do, and their selectors are kept. -/
theorem compiled_of_reads {query : Json} {b : Reading κ} (h : r.Reads query b) {n : Node κ}
    (hn : r.nodeOf query false = .ok n) :
    ∃ ms, r.compiled b = .ok ms ∧ ∀ s, Selects ms s → Selects n.nodes s := by
  induction h with
  | refl => exact ⟨n.nodes, compiled_filter_eq_ok.mpr ⟨n, hn, rfl⟩, fun s hs => hs⟩
  | tail _ hstep ih =>
    obtain ⟨ks, hks, hkept⟩ := ih
    obtain ⟨ms, hms, hstepped⟩ := compiled_of_step hstep hks
    exact ⟨ms, hms, fun s hs => hkept s (hstepped s hs)⟩

end

end Registry

end DocFilter
