import DocFilter.Proofs.Catalogue
import DocFilter.Proofs.Limits

/-!
# Evaluation without a depth

Runs are cut off where calls are nested too deep for them. A tree of built-in operations nests calls
no deeper than it is itself: an operation evaluates what stands in its operand, and the equality
that it calls by its name calls nothing (`Registry.applyWithin_ne_cutOff`). So evaluation satisfies
the equation that one would write down for it:

> `Registry.evaluate_eq`: a node is evaluated by applying operators with an evaluator that is
> evaluation itself.

The three ways to evaluate a node are spelt out after it, one theorem each.
-/

namespace DocFilter

variable {κ : Type}

/-! ## The depth of calls -/

/-- All nodes of a tree apply built-in operations. -/
def Node.BuiltinOnly (n : Node κ) : Prop :=
  ∀ m ∈ n.nodes, ∃ operation : Builtin, m.operator.body = .builtin operation

/-- All nodes in an operand apply built-in operations. -/
def Operand.BuiltinOnly (x : Operand κ) : Prop :=
  ∀ m ∈ x.nodes, ∃ operation : Builtin, m.operator.body = .builtin operation

/-- Equality evaluates nothing, so that it has no reports to pass on. -/
theorem Builtin.run_equal_ne_nested {ρ : Type} (ev : Evaluator κ ρ) (c : Option Json)
    (x : Operand κ) (document : Json) (report : ρ) :
    equal.run ev c x document ≠ .error (.nested report) := by
  intro h
  cases x <;> cases h

namespace Registry

variable {r : Registry κ} {host : Host κ}

theorem applyWithin_succ {op : Operator κ} {operation : Builtin}
    (hop : op.body = .builtin operation) (depth : Nat) (c : Option Json) (x : Operand κ)
    (document : Json) :
    r.applyWithin host (depth + 1) op c x document =
      operation.run (r.evaluatorAt host depth) c x document := by
  rw [applyWithin, Host.run, hop]
  rfl

/-- Equality calls nothing. -/
theorem evaluatorAt_equal (hr : r.HoldsBuiltins) (depth : Nat) (c : Option Json) (x : Operand κ)
    (document : Json) :
    (r.evaluatorAt host (depth + 1)).call Builtin.equal.name c x document =
      Builtin.equal.run (r.evaluatorAt host depth) c x document := by
  simp only [evaluatorAt, evaluatorWith, hr Builtin.equal]
  exact applyWithin_succ (show Builtin.equal.operator.body = .builtin .equal from rfl) depth c x
    document

/-- A tree is not cut off when its operators are not, on operands that are no deeper than theirs. -/
theorem evaluateWith_ne_cutOff {depth : Nat} {n : Node κ} {document : Json}
    (h : ∀ m ∈ n.nodes, ∀ c (x : Operand κ), (∀ k ∈ x.nodes, k ∈ m.operand.nodes) →
      x.depth ≤ m.operand.depth →
        r.applyWithin host depth m.operator c x document ≠ .error (.nested none))
    (given : Option Json) :
    n.evaluateWith (r.applyWithin host depth) given document ≠ .error none := by
  intro hcut
  obtain ⟨m, hm, given', x, hx, hfails⟩ := Node.exists_applied_eq_error hcut
  obtain ⟨e, he, hreport⟩ := Node.applied_eq_error hfails
  cases e with
  | failure cause => cases hreport
  | nested report =>
    obtain rfl : none = report := hreport
    exact h m hm _ x hx.nodes_subset hx.depth_le he

/-- **Two calls more than an operand is deep are enough for it.** -/
theorem applyWithin_ne_cutOff (hr : r.HoldsBuiltins) {op : Operator κ} {x : Operand κ}
    (hop : ∃ operation : Builtin, op.body = .builtin operation) (hx : x.BuiltinOnly) {depth : Nat}
    (hdepth : x.depth + 2 ≤ depth) (c : Option Json) (document : Json) :
    r.applyWithin host depth op c x document ≠ .error (.nested none) := by
  induction depth generalizing op x c document with
  | zero => omega
  | succ depth ih =>
    obtain ⟨operation, hop⟩ := hop
    rw [applyWithin_succ hop]
    intro hcut
    cases (Builtin.run_passes operation c).of_error hcut with
    | @node m hm c' _ hnode =>
      refine evaluateWith_ne_cutOff (fun k hk c y hy hle => ?_) c' hnode
      have hkx := Operand.mem_nodes_of_mem_children hm hk
      have hkdepth := Operand.depth_le_of_mem_nodes x hkx
      rw [k.depth_eq] at hkdepth
      refine ih (hx k hkx) (fun l hl => hx l ?_) (by omega) c document
      exact Operand.nodes_trans (Node.mem_nodes.mpr (.inr (hy l hl))) x hkx
    | @equal y hy c' e hequal =>
      -- equality is called on an operand that need not be smaller, but it calls nothing itself
      obtain ⟨below, rfl⟩ : ∃ below, depth = below + 1 := ⟨depth - 1, by omega⟩
      rw [evaluatorAt_equal hr] at hequal
      exact Builtin.run_equal_ne_nested _ c' y document none hequal

/-! ## The equation of evaluation -/

theorem perform_builtin {op : Operator κ} {operation : Builtin} (hop : op.body = .builtin operation)
    (c : Option Json) (x : Operand κ) (document : Json) :
    r.perform host op c x document = operation.run (r.evaluator host) c x document := by
  rw [perform, Host.run, hop]

theorem call_equal (hr : r.HoldsBuiltins) (ev : Evaluator κ MatchError) (c : Option Json)
    (x : Operand κ) (document : Json) :
    r.call host Builtin.equal.name c x document = Builtin.equal.run ev c x document := by
  have hbody : (Builtin.equal.operator : Operator κ).body = .builtin .equal := rfl
  have hrun : r.applyWithin host 1 Builtin.equal.operator c x document ≠ .error (.nested none) := by
    rw [applyWithin_succ hbody]
    exact Builtin.run_equal_ne_nested _ c x document none
  simp only [call, evaluatorWith, hr Builtin.equal]
  rw [apply_eq_perform hrun, perform_builtin hbody]
  rfl

theorem evaluator_equal (hr : r.HoldsBuiltins) (ev : Evaluator κ MatchError) (c : Option Json)
    (x : Operand κ) (document : Json) :
    (r.evaluator host).call Builtin.equal.name c x document = Builtin.equal.run ev c x document :=
  call_equal hr ev c x document

/-- A node whose operator is that of a built-in operation runs it, and reports its failures. -/
theorem applied_builtin {n : Node κ} {operation : Builtin} (hop : n.operator = operation.operator)
    (c : Option Json) (x : Operand κ) (document : Json) :
    n.applied (r.perform host) c x document =
      (operation.run (r.evaluator host) c x document).mapError fun e =>
        e.report n.operator n.operand c := by
  have hbody : n.operator.body = .builtin operation := by
    rw [hop]
    rfl
  rw [Node.applied, perform_builtin hbody]

/-- **The equation of evaluation.** A node is evaluated by performing operators, whose calls are
evaluation again. -/
theorem evaluate_eq (hr : r.HoldsBuiltins) {n : Node κ} (hn : n.BuiltinOnly) (given : Option Json)
    (document : Json) :
    r.evaluate host n given document = n.evaluateWith (r.perform host) given document := by
  -- the operators in a tree are applied to operands less deep than the tree
  have hrun : n.evaluateWith (r.applyWithin host (n.depth + 1)) given document ≠ .error none := by
    refine evaluateWith_ne_cutOff (fun m hm c x hx hle => ?_) given
    have hmdepth := Node.depth_le_of_mem_nodes n hm
    rw [m.depth_eq] at hmdepth
    refine applyWithin_ne_cutOff hr (hn m hm) (fun k hk => hn k ?_) (by omega) c document
    exact Node.nodes_trans (Node.mem_nodes.mpr (.inr (hx k hk))) n hm
  exact evaluate_eq_evaluateWith hrun

/-! ## The three ways -/

section
variable (hr : r.HoldsBuiltins) {n : Node κ} (hn : n.BuiltinOnly) (given : Option Json)
  (document : Json)
include hr hn

/-- When one of two operators is right-handed, the operand comes first. -/
theorem evaluate_rightHanded {inner : Node κ} (hinner : n.operand = .node inner)
    (hside : (n.operator.rightHanded || inner.operator.rightHanded) = true) :
    r.evaluate host n given document =
      r.evaluate host inner (Node.contextIn n.selector given document) document >>= fun v =>
        n.applied (r.perform host) (Node.contextIn n.selector given document) (.ofValue v)
          document := by
  have hmem : inner ∈ n.operand.children := hinner ▸ List.mem_singleton_self inner
  rw [evaluate_eq hr hn, Node.evaluateWith_rightHanded _ hinner hside,
    evaluate_eq hr (Node.forall_nodes_child hn hmem)]

/-- When none is, the operand goes on with what the operator has produced. -/
theorem evaluate_chained {inner : Node κ} (hinner : n.operand = .node inner)
    (hside : (n.operator.rightHanded || inner.operator.rightHanded) = false) :
    r.evaluate host n given document =
      n.applied (r.perform host) (Node.contextIn n.selector given document) n.operand document >>=
        fun v => r.evaluate host inner v document := by
  have hmem : inner ∈ n.operand.children := hinner ▸ List.mem_singleton_self inner
  simp only [evaluate_eq hr hn, Node.evaluateWith_chained _ hinner hside,
    evaluate_eq hr (Node.forall_nodes_child hn hmem)]

/-- Operands that are no nodes are taken as they are. -/
theorem evaluate_direct (hoperand : n.operand.node? = none) :
    r.evaluate host n given document =
      n.applied (r.perform host) (Node.contextIn n.selector given document) n.operand document := by
  rw [evaluate_eq hr hn, Node.evaluateWith_direct _ hoperand]

/-- An operation with an operand that is no node is run on it. -/
theorem evaluate_leaf {operation : Builtin} (hop : n.operator = operation.operator)
    (hoperand : n.operand.node? = none) :
    r.evaluate host n given document =
      (operation.run (r.evaluator host) (Node.contextIn n.selector given document) n.operand
        document).mapError fun e =>
          e.report n.operator n.operand (Node.contextIn n.selector given document) := by
  rw [evaluate_direct hr hn given document hoperand, applied_builtin hop]

end

end Registry

end DocFilter
