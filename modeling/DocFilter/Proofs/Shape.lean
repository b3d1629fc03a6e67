import DocFilter.Filter.Basic
import DocFilter.Proofs.Construction
import DocFilter.Proofs.Evaluation

/-!
# The shape of compiled trees

What the compiler gives an operator for its operand depends on the operator's kind
(`Operator.Fits`): a list of scalars and nodes whose length the operator allows, a selector, a
pattern or a node, a scalar or a node. The operators are those of the registry. `Registry.Formed`
says both of a node, and the payoff says it of every node of a tree:

> `Registry.nodeOf_formed`: with a registry that holds the built-in operations, all nodes of a
> compiled query are formed.

What is read for an operator fits it (`Registry.operandOf_fits`), which makes being formed an
invariant of the compiler. With the default registry a formed tree is one of built-in operations
(`Registry.builtinOnly_of_formed`), so that evaluating it needs no count of depth.
-/

namespace DocFilter

variable {κ : Type}

/-- An element of a list operand is a scalar, which stands for itself, or a node. -/
def Operand.IsElement : Operand κ → Prop
  | .value v => v.isContainer = false
  | .node _ => True
  | _ => False

/-- The operands that the compiler gives an operator, by the kind of the operator. -/
inductive Operator.Fits (op : Operator κ) : Operand κ → Prop
  | list {items : List (Operand κ)} (kind : op.kind = .array) (least : op.least ≤ items.length)
      (most : ∀ n, op.most = some n → items.length ≤ n) (elements : ∀ y ∈ items, y.IsElement) :
      Fits op (.list items)
  | selector (kind : op.kind = .context) (s : Selector) : Fits op (.selector s)
  | pattern (kind : op.kind = .pattern) (regex : Regex) : Fits op (.pattern regex)
  | conditions (kind : op.kind = .pattern ∨ op.kind = .value) (n : Node κ) : Fits op (.node n)
  | chained (kind : op.kind = .operator) (n : Node κ)
      (side : n.operator.rightHanded = true → op.rightHanded = true) : Fits op (.node n)
  | scalar (kind : op.kind = .value) {v : Json} (scalar : v.isContainer = false) :
      Fits op (.value v)

namespace Operator.Fits

variable {op : Operator κ} {x : Operand κ}

/-- An operator of lists has a list. -/
theorem list_of_kind (h : op.Fits x) (hop : op.kind = .array) :
    ∃ items, x = .list items ∧ op.least ≤ items.length ∧
      (∀ n, op.most = some n → items.length ≤ n) ∧ ∀ y ∈ items, y.IsElement := by
  cases h with
  | list _ least most elements => exact ⟨_, rfl, least, most, elements⟩
  | conditions kind => simp [hop] at kind
  | selector kind | pattern kind | chained kind | scalar kind =>
    exact absurd (kind.symm.trans hop) (by decide)

/-- An operator of selectors has a selector. -/
theorem selector_of_kind (h : op.Fits x) (hop : op.kind = .context) : ∃ s, x = .selector s := by
  cases h with
  | selector _ s => exact ⟨s, rfl⟩
  | conditions kind => simp [hop] at kind
  | list kind | pattern kind | chained kind | scalar kind =>
    exact absurd (kind.symm.trans hop) (by decide)

/-- An operator of conditions has a node, whose value does not escape it. -/
theorem node_of_kind (h : op.Fits x) (hop : op.kind = .operator) :
    ∃ n : Node κ, x = .node n ∧ (n.operator.rightHanded = true → op.rightHanded = true) := by
  cases h with
  | chained _ n side => exact ⟨n, rfl, side⟩
  | conditions kind => simp [hop] at kind
  | list kind | pattern kind | selector kind | scalar kind =>
    exact absurd (kind.symm.trans hop) (by decide)

/-- An operator of patterns has a pattern or a node. -/
theorem pattern_of_kind (h : op.Fits x) (hop : op.kind = .pattern) :
    (∃ regex, x = .pattern regex) ∨ ∃ n : Node κ, x = .node n := by
  cases h with
  | pattern _ regex => exact .inl ⟨regex, rfl⟩
  | conditions _ n => exact .inr ⟨n, rfl⟩
  | list kind | selector kind | chained kind | scalar kind =>
    exact absurd (kind.symm.trans hop) (by decide)

/-- An operator of values has a scalar or a node. -/
theorem value_of_kind (h : op.Fits x) (hop : op.kind = .value) :
    (∃ v : Json, x = .value v ∧ v.isContainer = false) ∨ ∃ n : Node κ, x = .node n := by
  cases h with
  | scalar _ hv => exact .inl ⟨_, rfl, hv⟩
  | conditions _ n => exact .inr ⟨n, rfl⟩
  | list kind | selector kind | pattern kind | chained kind =>
    exact absurd (kind.symm.trans hop) (by decide)

/-- An operand is never absent. -/
theorem ne_absent (h : op.Fits x) : x ≠ .absent := by
  rintro rfl
  cases h

/-- No literal is a container, neither an operand nor an element of a list. -/
theorem isContainer_of_literal (h : op.Fits x) {v : Json} (hv : x = .value v ∨ .value v ∈ x.items) :
    v.isContainer = false := by
  cases h with
  | list _ _ _ elements =>
    rcases hv with hv | hv
    · cases hv
    · exact elements _ hv
  | scalar _ scalar =>
    rcases hv with hv | hv
    · cases hv
      exact scalar
    · exact absurd hv List.not_mem_nil
  | selector | pattern | conditions | chained =>
    rcases hv with hv | hv
    · cases hv
    · exact absurd hv List.not_mem_nil

/-- An operand is of one form with itself, since its lists hold no lists. -/
theorem paired_self (h : op.Fits x) {R : Node κ → Node κ → Prop} (hR : ∀ m ∈ x.children, R m m) :
    x.Paired R x := by
  cases h with
  | list _ _ _ elements =>
    refine .list (List.forall₂_same.mpr fun y hy => ?_)
    have hy' := elements y hy
    cases y with
    | value => exact .leaf rfl
    | node m => exact .node (hR m (Operand.mem_children_list.mpr hy))
    | _ => cases hy'
  | conditions _ n | chained _ n => exact .item (.node (hR n (.head _)))
  | selector | pattern | scalar => exact .item (.leaf rfl)

end Operator.Fits

namespace Registry

variable {r : Registry κ}

/-- A node applies an operator of the registry to an operand that fits it. -/
structure Formed (r : Registry κ) (n : Node κ) : Prop where
  known : r.get? n.operator.name = some n.operator
  fits : n.operator.Fits n.operand

/-- Some nodes, usually all those of a tree or an operand, are formed. -/
def AllFormed (r : Registry κ) (nodes : List (Node κ)) : Prop :=
  ∀ m ∈ nodes, r.Formed m

/-- An operand that an operator can have in a formed tree. -/
structure Suits (r : Registry κ) (op : Operator κ) (x : Operand κ) : Prop where
  fits : op.Fits x
  formed : r.AllFormed x.nodes

/-! ## What fits -/

theorem elementOf_isElement {item : Json} {x : Operand κ} (h : r.elementOf item = .ok x) :
    x.IsElement := by
  cases hcontainer : item.isContainer with
  | true =>
    rw [elementOf_container r hcontainer] at h
    obtain ⟨n, -, h⟩ := bind_eq_ok.mp h
    cases h
    trivial
  | false =>
    rw [elementOf_scalar r hcontainer] at h
    cases h
    exact hcontainer

/-- A list that is compiled fits an operator of lists. -/
theorem listOperand_array_fits {op : Operator κ} (hop : op.kind = .array) {items : List Json}
    {turns : Nat} {x : Operand κ}
    (h : r.listOperand items (r.elementsOf items) turns op = .ok x) : op.Fits x := by
  rw [listOperand_array hop, elementsOf_eq_mapM] at h
  obtain ⟨⟨⟩, hcount, h⟩ := bind_eq_ok.mp h
  obtain ⟨xs, hxs, h⟩ := bind_eq_ok.mp h
  cases h
  obtain ⟨hleast, hmost⟩ := checkCount_eq_ok.mp hcount
  rw [← length_of_mapM_eq_ok hxs] at hleast hmost
  refine .list hop hleast hmost fun y hy => ?_
  obtain ⟨item, -, helement⟩ := exists_of_mem_mapM_eq_ok hxs y hy
  exact elementOf_isElement helement

theorem patternOperand_fits {op : Operator κ} (hop : op.kind = .pattern) {text : String}
    {x : Operand κ} (h : patternOperand op text = .ok x) : op.Fits x := by
  unfold patternOperand at h
  cases hp : Pattern.compile text with
  | error reason =>
    rw [hp] at h
    cases h
  | ok regex =>
    rw [hp] at h
    cases h
    exact .pattern hop regex

section
variable (hr : r.HoldsBuiltins)
include hr

theorem chained_fits {op : Operator κ} (hop : op.kind = .operator) {n : Node κ} {x : Operand κ}
    (h : r.chained op n = .ok x) : op.Fits x := by
  unfold chained at h
  by_cases hside : (n.operator.rightHanded && !op.rightHanded) = true
  · rw [if_pos hside, hr.implicit, ok_bind] at h
    cases h
    exact .chained hop _ fun h => absurd h Bool.false_ne_true
  · rw [if_neg hside] at h
    cases h
    exact .chained hop n (by simpa using hside)

theorem scalarOperand_fits {op : Operator κ} {v : Json} (hv : v.isContainer = false)
    {x : Operand κ} (h : r.scalarOperand op v = .ok x) : op.Fits x := by
  unfold scalarOperand at h
  cases hkind : op.kind with
  | array =>
    simp only [hkind] at h
    cases h
  | pattern =>
    simp only [hkind] at h
    cases v <;> exact patternOperand_fits hkind h
  | operator =>
    simp only [hkind, hr.implicit, ok_bind] at h
    exact chained_fits hr hkind h
  | context =>
    simp only [hkind] at h
    cases v with
    | string text =>
      cases h
      exact .selector hkind ⟨text⟩
    | _ => cases h
  | value =>
    simp only [hkind] at h
    cases h
    exact .scalar hkind hv

theorem listOperand_fits {op : Operator κ} {items : List Json} {turns : Nat} {x : Operand κ}
    (h : r.listOperand items (r.elementsOf items) turns op = .ok x) : op.Fits x := by
  cases hkind : op.kind with
  | array => exact listOperand_array_fits hkind h
  | context => cases turns <;> simp only [listOperand, hkind] at h <;> cases h
  | operator =>
    cases turns with
    | zero =>
      simp only [listOperand, hkind] at h
      cases h
    | succ turns =>
      rw [listOperand_operator hkind, hr.implicit, ok_bind] at h
      obtain ⟨y, -, h⟩ := bind_eq_ok.mp h
      exact chained_fits hr hkind h
  | pattern | value =>
    cases turns with
    | zero =>
      simp only [listOperand, hkind] at h
      cases h
    | succ turns =>
      rw [listOperand_filters (by simp [hkind]), hr.implicit, ok_bind] at h
      obtain ⟨y, -, h⟩ := bind_eq_ok.mp h
      cases h
      exact .conditions (by simp [hkind]) _

/-- **The operand that is read for an operator fits it.** -/
theorem operandOf_fits {raw : Json} {op : Operator κ} {selected : Bool} {x : Operand κ}
    (h : r.operandOf raw op selected = .ok x) : op.Fits x := by
  cases raw with
  | array items =>
    rw [operandOf_array] at h
    exact listOperand_fits hr h
  | object members =>
    rw [operandOf_object] at h
    cases hkind : op.kind with
    | array | context =>
      simp only [hkind] at h
      cases h
    | operator =>
      simp only [hkind] at h
      obtain ⟨n, -, h⟩ := bind_eq_ok.mp h
      exact chained_fits hr hkind h
    | pattern | value =>
      simp only [hkind] at h
      obtain ⟨n, -, h⟩ := bind_eq_ok.mp h
      cases h
      exact .conditions (by simp [hkind]) n
  | _ =>
    rw [operandOf_scalar r rfl] at h
    exact scalarOperand_fits hr rfl h

/-! ## The compiler -/

/-- To be formed is an invariant of the compiler. -/
theorem invariant_formed : r.Invariant r.Formed where
  applied hop hx := ⟨by rw [Node.plain, name_of_get? hop, hop], operandOf_fits hr hx⟩
  equated n := ⟨hr .equal, .conditions (.inr rfl) n⟩
  conjoined htwo := by
    refine ⟨hr .contextAnd, .list rfl ?_ ?_ ?_⟩
    · rw [List.length_map]
      exact htwo
    · intro _ h
      cases h
    · intro y hy
      obtain ⟨m, -, rfl⟩ := List.mem_map.mp hy
      trivial
  selecting _ _ hn := ⟨hn.known, hn.fits⟩

/-- The operand of an operator suits it. -/
theorem operandOf_suits (raw : Json) {op : Operator κ} {selected : Bool} {x : Operand κ}
    (h : r.operandOf raw op selected = .ok x) : r.Suits op x :=
  ⟨operandOf_fits hr h, ((invariant_formed hr).readWith hr raw).operand h⟩

/-- **Compiled trees are formed.** -/
theorem nodeOf_formed {raw : Json} {disabled : Bool} {n : Node κ}
    (h : r.nodeOf raw disabled = .ok n) : r.AllFormed n.nodes :=
  ((invariant_formed hr).readWith hr raw).filter h

end

/-! ## The default registry -/

/-- The operators of a formed tree are those of built-in operations. -/
theorem builtin_of_formed {n : Node κ} (h : defaults.Formed n) :
    ∃ operation : Builtin, n.operator = operation.operator :=
  let ⟨operation, _, hoperator⟩ := get?_defaults_eq_some.mp h.known
  ⟨operation, hoperator⟩

theorem builtinOnly_of_formed {n : Node κ} (h : defaults.AllFormed n.nodes) : n.BuiltinOnly := by
  intro m hm
  obtain ⟨operation, hoperator⟩ := builtin_of_formed (h m hm)
  exact ⟨operation, by rw [hoperator]; rfl⟩

end Registry

/-- The nodes of a filter with the default registry are formed. -/
theorem Filter.formed_of_ofValue {raw : Json} {f : Filter κ}
    (h : Filter.ofValue Registry.defaults raw = .ok f) :
    f.registry = Registry.defaults ∧ Registry.defaults.AllFormed f.root.nodes := by
  obtain ⟨n, hn, h⟩ := bind_eq_ok.mp h
  cases h
  exact ⟨rfl, Registry.nodeOf_formed Registry.defaults_holdsBuiltins hn⟩

end DocFilter
