import DocFilter.Proofs.Shape

/-!
# Type safety

The compiler gives an operator an operand of its kind, which is less than what the operation can
use: `$and` wants nodes where the compiler lets scalars through, `$eq` wants a literal and no node
that goes on with its answer. `Builtin.Accepts` says what each operation wants in a query, and a
tree is `Node.WellTyped` when all its operations have what they want. Then evaluation goes well:

> `Filter.evaluate_safe`: a well-typed filter fails in `$regex` only, on a pattern that a document
> supplies, and it never fails when no pattern is supplied by a node.

What arrives at an operation when it runs is another matter (`Builtin.Handles`): a value or nothing
stands where the query has a right-handed node. `Builtin.run_error` says how a built-in operation
can fail on what it handles, and `Registry.handles` that it gets nothing else, in each of the three
ways to evaluate a node.
-/

namespace DocFilter

variable {κ : Type}

/-! ## Well-typed trees -/

/-- A literal. -/
def Operand.IsLiteral (x : Operand κ) : Prop :=
  ∃ v, x = .value v

/-- A node that produces a value for the operator around it. -/
def Operand.Produces (x : Operand κ) : Prop :=
  ∃ m : Node κ, x = .node m ∧ m.operator.rightHanded = true

namespace Builtin

/-- The operands that an operation can use in a query. -/
def Accepts (operation : Builtin) (x : Operand κ) : Prop :=
  match operation with
  | equal | notEqual | ordered _ | present | empty => x.IsLiteral ∨ x.Produces
  | modulo | anyOf | noneOf | allOf => ∀ y ∈ x.items, y.IsLiteral
  | conjunction | disjunction | neither | contextAnd | contextOr =>
    ∀ y ∈ x.items, ∃ m, y = .node m
  | difference => ∃ m, x = .node m ∧ m.operator.rightHanded = false
  | regex => (∃ compiled, x = .pattern compiled) ∨ x.Produces
  | field | rounded _ | roundedField _ | negation => True

end Builtin

/-- All operations of a tree have operands that they can use. -/
def Node.WellTyped (n : Node κ) : Prop :=
  ∀ m ∈ n.nodes, ∀ operation : Builtin, m.operator.name = operation.name →
    operation.Accepts m.operand

/-- The failures of `$regex`: its pattern is no text, or no valid pattern. -/
def Failure.OfPattern (cause : Failure) : Prop :=
  cause = .unexpectedOperand Builtin.regex.name .pattern ∨ ∃ reason, cause = .invalidPattern reason

/-- The report of such a failure at a `$regex`. -/
def MatchError.IsPatternFailure (e : MatchError) : Prop :=
  e.operator = Builtin.regex.name ∧ e.source.OfPattern

/-! ## One operation -/

namespace Builtin

/-- The operands on which an operation runs without a failure of its own, but for patterns. -/
def Handles (operation : Builtin) (x : Operand κ) : Prop :=
  match operation with
  | equal | notEqual | ordered _ | present | empty | negation => ∃ v, x = .ofValue v
  | modulo => ∃ divisor remainder, x = .list [.value divisor, .value remainder]
  | anyOf | noneOf | allOf => ∃ items, x = .list items ∧ ∀ y ∈ items, y.IsLiteral
  | conjunction | disjunction | neither | contextAnd | contextOr =>
    ∃ items, x = .list items ∧ ∀ y ∈ items, ∃ m, y = .node m
  | difference => ∃ m, x = .node m
  | regex => (∃ compiled, x = .pattern compiled) ∨ ∃ v, x = .ofValue v
  | field | roundedField _ => ∃ s, x = .selector s
  | rounded _ => True

theorem literal_ofValue {ρ : Type} (operation : Builtin) (v : Option Json) :
    operation.literal (.ofValue v : Operand κ) = (.ok v : Except (Interruption ρ) _) := by
  cases v <;> rfl

theorem run_equal_ofValue (ev : Evaluator κ MatchError) (c v : Option Json) (document : Json) :
    ∃ b, equal.run ev c (.ofValue v) document = answer b := by
  simp only [run, literal_ofValue, ok_bind]
  cases v <;> exact ⟨_, rfl⟩

/-- `$regex` fails on patterns that are handed to it only. -/
theorem run_regex_error {ev : Evaluator κ MatchError} {c : Option Json} {x : Operand κ}
    {document : Json} (hx : regex.Handles x) {e : EvalError}
    (h : regex.run ev c x document = .error e) :
    (∃ v, x = .ofValue v) ∧ ∃ cause, e = .failure cause ∧ cause.OfPattern := by
  simp only [run] at h
  split at h
  · rcases hx with ⟨compiled, rfl⟩ | ⟨v, rfl⟩
    · cases h
    · refine ⟨⟨v, rfl⟩, ?_⟩
      cases v with
      | none => cases h
      | some v =>
        cases v with
        | string source =>
          simp only [Operand.ofValue] at h
          cases hp : Pattern.compile source with
          | ok compiled =>
            rw [hp] at h
            cases h
          | error reason =>
            rw [hp] at h
            cases h
            exact ⟨_, rfl, .inr ⟨reason, rfl⟩⟩
        | _ =>
          cases h
          exact ⟨_, rfl, .inl rfl⟩
  · cases h

section
variable {ev : Evaluator κ MatchError} {document : Json}
  (hequal : ∀ c y, ev.call equal.name c y document = equal.run ev c y document)
include hequal

theorem equals_ne_error (v c : Option Json) (e : EvalError) :
    ev.equals c (.ofValue v) document ≠ .error e := by
  obtain ⟨b, hb⟩ := run_equal_ofValue ev c v document
  rw [Evaluator.equals, hequal, hb]
  intro h
  cases h

theorem equals_literal_ne_error {y : Operand κ} (hy : y.IsLiteral) (c : Option Json)
    (e : EvalError) : ev.equals c y document ≠ .error e := by
  obtain ⟨v, rfl⟩ := hy
  exact equals_ne_error hequal (some v) c e

theorem someEqual_ne_error {items : List (Operand κ)} (hitems : ∀ y ∈ items, y.IsLiteral)
    (c : Option Json) (e : EvalError) : someEqual ev c (.list items) document ≠ .error e := by
  intro h
  obtain ⟨y, hy, h⟩ := exists_of_anyM_eq_error h
  obtain ⟨value, -, h⟩ := exists_of_anyM_eq_error h
  exact equals_literal_ne_error hequal (hitems y hy) value e h

omit hequal in
/-- Asking a node for whether it holds fails with the report of the node. -/
theorem childHolds_error {items : List (Operand κ)} (hitems : ∀ y ∈ items, ∃ m, y = .node m)
    {operation : Builtin} {c : Option Json} {y : Operand κ} (hy : y ∈ items) {e : EvalError}
    (h : operation.childHolds ev c document y = .error e) :
    ∃ m ∈ (Operand.list items).children, ∃ c report,
      ev.node m c document = .error report ∧ e = .nested report := by
  obtain ⟨m, rfl⟩ := hitems y hy
  refine ⟨m, Operand.mem_children_list.mpr hy, c, ?_⟩
  simp only [childHolds, node, ok_bind, Evaluator.holds] at h
  cases hm : ev.node m c document with
  | ok v =>
    rw [hm] at h
    cases h
  | error report =>
    rw [hm] at h
    cases h
    exact ⟨report, rfl, rfl⟩

/-- **How a built-in operation fails** on an operand that it handles: a node in the operand has
failed, or it is `$regex` and has been handed its pattern. -/
theorem run_error {operation : Builtin} {c : Option Json} {x : Operand κ}
    (hx : operation.Handles x) {e : EvalError} (h : operation.run ev c x document = .error e) :
    (∃ m ∈ x.children, ∃ c report, ev.node m c document = .error report ∧ e = .nested report) ∨
      (operation = regex ∧ (∃ v, x = .ofValue v) ∧
        ∃ cause, e = .failure cause ∧ cause.OfPattern) := by
  cases operation with
  | equal =>
    obtain ⟨v, rfl⟩ := hx
    obtain ⟨b, hb⟩ := run_equal_ofValue ev c v document
    rw [hb] at h
    cases h
  | notEqual =>
    obtain ⟨v, rfl⟩ := hx
    rcases bind_eq_error.mp h with h | ⟨b, -, h⟩
    · exact absurd h (equals_ne_error hequal v c e)
    · cases h
  | ordered | present | empty | negation =>
    obtain ⟨v, rfl⟩ := hx
    simp only [run, literal_ofValue, ok_bind] at h
    cases h
  | modulo =>
    obtain ⟨divisor, remainder, rfl⟩ := hx
    simp only [run, list, literal, ok_bind] at h
    cases hx : remainder? c (some divisor) <;> rw [hx] at h <;> cases h
  | anyOf | noneOf =>
    obtain ⟨items, rfl, hitems⟩ := hx
    rcases bind_eq_error.mp h with h | ⟨b, -, h⟩
    · exact absurd h (someEqual_ne_error hequal hitems c e)
    · cases h
  | allOf =>
    obtain ⟨items, rfl, hitems⟩ := hx
    simp only [run, list, ok_bind] at h
    rcases bind_eq_error.mp h with h | ⟨b, -, h⟩
    · obtain ⟨value, -, h⟩ := exists_of_allM_eq_error h
      obtain ⟨y, hy, h⟩ := exists_of_anyM_eq_error h
      exact absurd h (equals_literal_ne_error hequal (hitems y hy) value e)
    · cases h
  | conjunction | contextAnd =>
    obtain ⟨items, rfl, hitems⟩ := hx
    simp only [run, list, ok_bind] at h
    rcases bind_eq_error.mp h with h | ⟨b, -, h⟩
    · obtain ⟨y, hy, h⟩ := exists_of_allM_eq_error h
      exact .inl (childHolds_error hitems hy h)
    · cases h
  | disjunction | neither | contextOr =>
    obtain ⟨items, rfl, hitems⟩ := hx
    simp only [run, list, ok_bind] at h
    rcases bind_eq_error.mp h with h | ⟨b, -, h⟩
    · obtain ⟨y, hy, h⟩ := exists_of_anyM_eq_error h
      exact .inl (childHolds_error hitems hy h)
    · cases h
  | difference =>
    obtain ⟨m, rfl⟩ := hx
    cases h
  | regex => exact .inr ⟨rfl, run_regex_error hx h⟩
  | field | roundedField =>
    obtain ⟨s, rfl⟩ := hx
    cases h
  | rounded => cases h

end

/-! ## What arrives at an operation -/

section
variable {operation : Builtin} {x : Operand κ} (hfits : (operation.operator : Operator κ).Fits x)
  (haccepts : operation.Accepts x)
include hfits haccepts

/-- An operand that is no node arrives as it is. -/
theorem handles_direct (hx : x.node? = none) : operation.Handles x := by
  have hproduces : ¬ x.Produces := by
    rintro ⟨m, rfl, -⟩
    cases hx
  cases operation with
  | equal | notEqual | ordered | present | empty =>
    obtain ⟨v, rfl⟩ := haccepts.resolve_right hproduces
    exact ⟨some v, rfl⟩
  | regex => exact .inl (haccepts.resolve_right hproduces)
  | modulo =>
    -- the compiler has counted the operands
    obtain ⟨items, rfl, hleast, hmost, -⟩ := hfits.list_of_kind rfl
    have htwo : items.length = 2 := Nat.le_antisymm (hmost 2 rfl) hleast
    match items, htwo with
    | [a, b], _ =>
      obtain ⟨divisor, rfl⟩ := haccepts a (.head _)
      obtain ⟨remainder, rfl⟩ := haccepts b (.tail _ (.head _))
      exact ⟨divisor, remainder, rfl⟩
  | anyOf | noneOf | allOf | conjunction | disjunction | neither | contextAnd | contextOr =>
    obtain ⟨items, rfl, -⟩ := hfits.list_of_kind rfl
    exact ⟨items, rfl, haccepts⟩
  | difference => exact ⟨haccepts.choose, haccepts.choose_spec.1⟩
  | field | roundedField => exact hfits.selector_of_kind rfl
  | rounded => trivial
  | negation =>
    obtain ⟨m, rfl, -⟩ := hfits.node_of_kind rfl
    cases hx

/-- A node arrives as it is when no side is right-handed. -/
theorem handles_chained {inner : Node κ} (hx : x = .node inner)
    (hside : ((operation.operator : Operator κ).rightHanded || inner.operator.rightHanded) =
      false) : operation.Handles x := by
  obtain ⟨hop, hinner⟩ := Bool.or_eq_false_iff.mp hside
  have hproduces : ¬ x.Produces := by
    rintro ⟨m, hm, hright⟩
    obtain rfl : inner = m := Operand.node.inj (hx.symm.trans hm)
    exact Bool.false_ne_true (hinner.symm.trans hright)
  cases operation with
  | equal | notEqual | ordered | present | empty =>
    obtain ⟨v, hv⟩ := haccepts.resolve_right hproduces
    cases hx.symm.trans hv
  | regex => exact .inl (haccepts.resolve_right hproduces)
  | modulo | anyOf | noneOf | allOf | conjunction | disjunction | neither | contextAnd
  | contextOr =>
    obtain ⟨items, hitems, -⟩ := hfits.list_of_kind rfl
    cases hx.symm.trans hitems
  | difference => exact ⟨inner, hx⟩
  | field | roundedField | negation => cases hop
  | rounded => trivial

/-- What a right-handed node has produced, or a node for a right-handed operator, arrives as a
value or nothing. -/
theorem handles_produced {inner : Node κ} (hx : x = .node inner)
    (hside : ((operation.operator : Operator κ).rightHanded || inner.operator.rightHanded) = true)
    (v : Option Json) : operation.Handles (.ofValue v : Operand κ) := by
  cases operation with
  | equal | notEqual | ordered | present | empty | negation => exact ⟨v, rfl⟩
  | regex => exact .inr ⟨v, rfl⟩
  | modulo | anyOf | noneOf | allOf | conjunction | disjunction | neither | contextAnd
  | contextOr =>
    obtain ⟨items, hitems, -⟩ := hfits.list_of_kind rfl
    cases hx.symm.trans hitems
  | difference =>
    obtain ⟨m, hm, hinner⟩ := haccepts
    obtain rfl : inner = m := Operand.node.inj (hx.symm.trans hm)
    rw [hinner] at hside
    cases hside
  | field | roundedField =>
    obtain ⟨s, hs⟩ := hfits.selector_of_kind rfl
    cases hx.symm.trans hs
  | rounded => trivial

end

end Builtin

/-! ## Trees -/

/-- Some `$regex` of a tree has a node for its pattern. -/
def Node.SuppliesPattern (n : Node κ) : Prop :=
  ∃ m ∈ n.nodes, m.operator.name = Builtin.regex.name ∧ ∃ inner, m.operand = .node inner

theorem Node.SuppliesPattern.of_child {n m : Node κ} (hm : m ∈ n.operand.children)
    (h : m.SuppliesPattern) : n.SuppliesPattern :=
  let ⟨k, hk, hpattern⟩ := h
  ⟨k, mem_nodes.mpr (.inr (Operand.mem_nodes_of_mem_children hm hk)), hpattern⟩

namespace Registry

variable {host : Host κ} {document : Json}

/-- One step of the induction: an operation fails as one of the nodes in its operand does, or
because it is `$regex` and a node has supplied its pattern. -/
theorem applied_error {n : Node κ} {operation : Builtin}
    (hoperator : n.operator = operation.operator) (haccepts : operation.Accepts n.operand)
    {x : Operand κ} (hhandles : operation.Handles x)
    (hx : x = n.operand ∨ (∃ v, x = .ofValue v) ∧ ∃ inner, n.operand = .node inner)
    (hchildren : ∀ m ∈ n.operand.children, ∀ c e, defaults.evaluate host m c document = .error e →
      e.IsPatternFailure ∧ m.SuppliesPattern)
    {c : Option Json} {e : MatchError}
    (h : n.applied (defaults.perform host) c x document = .error e) :
    e.IsPatternFailure ∧ n.SuppliesPattern := by
  obtain ⟨e', hrun, rfl⟩ := Node.applied_eq_error h
  have hbody : n.operator.body = .builtin operation := by rw [hoperator]; rfl
  rw [perform_builtin hbody] at hrun
  have hequal : ∀ c y, (defaults.evaluator host).call Builtin.equal.name c y document =
      Builtin.equal.run (defaults.evaluator host) c y document :=
    fun c y => evaluator_equal defaults_holdsBuiltins _ c y document
  rcases Builtin.run_error hequal hhandles hrun with
    ⟨m, hm, c', report, hreport, rfl⟩ | ⟨rfl, ⟨v, rfl⟩, cause, rfl, hcause⟩
  · rcases hx with rfl | ⟨⟨v, rfl⟩, -⟩
    · obtain ⟨hfailure, hpattern⟩ := hchildren m hm c' report hreport
      exact ⟨hfailure, hpattern.of_child hm⟩
    · rw [Operand.children_ofValue] at hm
      exact absurd hm List.not_mem_nil
  · have hname : n.operator.name = Builtin.regex.name := by rw [hoperator]; rfl
    refine ⟨⟨hname, hcause⟩, n, n.self_mem_nodes, hname, ?_⟩
    -- a pattern that the query holds is compiled, and does not fail
    rcases hx with hx | ⟨-, hinner⟩
    · rcases haccepts with ⟨compiled, hpattern⟩ | ⟨inner, hinner, -⟩
      · cases v <;> cases hx.trans hpattern
      · exact ⟨inner, hinner⟩
    · exact hinner

/-- **A well-typed tree fails on supplied patterns only.** -/
theorem evaluate_error {n : Node κ} (hformed : defaults.AllFormed n.nodes) (htyped : n.WellTyped)
    {given : Option Json} {e : MatchError}
    (h : defaults.evaluate host n given document = .error e) :
    e.IsPatternFailure ∧ n.SuppliesPattern := by
  induction n using Node.induct generalizing given e with
  | step n ih =>
    have hn := builtinOnly_of_formed hformed
    have hself := hformed n n.self_mem_nodes
    obtain ⟨operation, hoperator⟩ := builtin_of_formed hself
    have hfits : (operation.operator : Operator κ).Fits n.operand := hoperator ▸ hself.fits
    have haccepts : operation.Accepts n.operand :=
      htyped n n.self_mem_nodes operation (by rw [hoperator]; rfl)
    have hchildren : ∀ m ∈ n.operand.children, ∀ c e,
        defaults.evaluate host m c document = .error e → e.IsPatternFailure ∧ m.SuppliesPattern :=
      fun m hm c e he =>
        ih m hm (Node.forall_nodes_child hformed hm) (Node.forall_nodes_child htyped hm) he
    cases hx : n.operand.node? with
    | none =>
      rw [evaluate_direct defaults_holdsBuiltins hn _ _ hx] at h
      exact applied_error hoperator haccepts (Builtin.handles_direct hfits haccepts hx) (.inl rfl)
        hchildren h
    | some inner =>
      have hinner := Operand.node?_eq_some.mp hx
      have hmem : inner ∈ n.operand.children := hinner ▸ List.mem_singleton_self inner
      cases hside : n.operator.rightHanded || inner.operator.rightHanded with
      | true =>
        rw [evaluate_rightHanded defaults_holdsBuiltins hn _ _ hinner hside] at h
        rcases bind_eq_error.mp h with h | ⟨v, -, h⟩
        · obtain ⟨hfailure, hpattern⟩ := hchildren inner hmem _ e h
          exact ⟨hfailure, hpattern.of_child hmem⟩
        · rw [hoperator] at hside
          exact applied_error hoperator haccepts
            (Builtin.handles_produced hfits haccepts hinner hside v)
            (.inr ⟨⟨v, rfl⟩, inner, hinner⟩) hchildren h
      | false =>
        rw [evaluate_chained defaults_holdsBuiltins hn _ _ hinner hside] at h
        rcases bind_eq_error.mp h with h | ⟨v, -, h⟩
        · rw [hoperator] at hside
          exact applied_error hoperator haccepts
            (Builtin.handles_chained hfits haccepts hinner hside) (.inl rfl) hchildren h
        · obtain ⟨hfailure, hpattern⟩ := hchildren inner hmem _ e h
          exact ⟨hfailure, hpattern.of_child hmem⟩

end Registry

/-- **Type safety of filters.** On every document and in every context a well-typed filter has a
result or fails at a `$regex` whose pattern is no text or not valid, and it has a result when no
`$regex` takes its pattern from a node. -/
theorem Filter.evaluate_safe {raw : Json} {f : Filter κ}
    (hf : Filter.ofValue Registry.defaults raw = .ok f) (htyped : f.root.WellTyped)
    (host : Host κ) (context : Option Json) (document : Json) :
    (∀ e, f.evaluate host context document = .error e → e.IsPatternFailure) ∧
      ((∀ m ∈ f.root.nodes, m.operator.name = Builtin.regex.name →
          ∀ inner, m.operand ≠ .node inner) →
        ∃ v, f.evaluate host context document = .ok v) := by
  obtain ⟨hregistry, hformed⟩ := Filter.formed_of_ofValue hf
  rw [Filter.evaluate, hregistry]
  refine ⟨fun e h => (Registry.evaluate_error hformed htyped h).1, fun hpatterns => ?_⟩
  cases h : Registry.defaults.evaluate host f.root context document with
  | ok v => exact ⟨v, rfl⟩
  | error e =>
    obtain ⟨m, hm, hname, inner, hinner⟩ := (Registry.evaluate_error hformed htyped h).2
    exact absurd hinner (hpatterns m hm hname inner)

/-- Whether a field is there, as another field says: nothing supplies a pattern. -/
theorem Filter.evaluate_safe_presence :
    ∃ f, Filter.ofValue (Registry.defaults : Registry Empty)
        (.object [("a", .object [("$exists", .object [("$val", .string "b")])])]) = .ok f ∧
      f.root.WellTyped ∧
      ∃ v, f.evaluate Host.none none (.object [("a", .null), ("b", .string "yes")]) = .ok v := by
  obtain ⟨f, hf, n, inner, hroot, hn, hpresent, hfield⟩ :
      ∃ f, Filter.ofValue (Registry.defaults : Registry Empty)
          (.object [("a", .object [("$exists", .object [("$val", .string "b")])])]) = .ok f ∧
        ∃ n inner, f.root.nodes = [n, inner] ∧ n.operand = .node inner ∧
          n.operator = Builtin.present.operator ∧ inner.operator = Builtin.field.operator :=
    ⟨_, rfl, _, _, rfl, rfl, rfl, rfl⟩
  have hnodes : ∀ m ∈ f.root.nodes, m = n ∨ m = inner := by
    intro m hm
    rw [hroot] at hm
    simpa using hm
  have htyped : f.root.WellTyped := by
    intro m hm operation hname
    rcases hnodes m hm with rfl | rfl
    · rw [hpresent] at hname
      obtain rfl : Builtin.present = operation := Builtin.eq_of_name_eq hname
      exact .inr ⟨inner, hn, by rw [hfield]; rfl⟩
    · rw [hfield] at hname
      obtain rfl : Builtin.field = operation := Builtin.eq_of_name_eq hname
      trivial
  refine ⟨f, hf, htyped, (Filter.evaluate_safe hf htyped _ _ _).2 ?_⟩
  intro m hm hname
  rcases hnodes m hm with rfl | rfl
  · rw [hpresent] at hname
    exact absurd hname (by decide)
  · rw [hfield] at hname
    exact absurd hname (by decide)

end DocFilter
