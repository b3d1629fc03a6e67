import DocFilter.Proofs.Operations

/-!
# Evaluating one node

`Node.evaluateWith` evaluates a node with any way to apply operators. Its three cases are spelt out
first, one theorem each. Then there are two ways to follow an evaluation through a tree: side by
side with another one (`Node.Coupled.of_operand`), and from an error down to the node at which it
has come up.

> `Node.exists_applied_eq_error`: when a tree fails, the operator of one of its nodes fails on what
> it receives, and that node by itself fails alike.
-/

namespace DocFilter

variable {κ ρ ρ' : Type}

namespace Node

/-! ## The three ways -/

section
variable [ReportKind ρ]
  (A : Operator κ → Option Json → Operand κ → Json → Except (Interruption ρ) (Option Json))

/-- The operator of a node, applied to an operand in a context; its errors are reported with the
operand that the node has. -/
def applied (n : Node κ) (context : Option Json) (x : Operand κ) (document : Json) :
    Except ρ (Option Json) :=
  (A n.operator context x document).mapError fun e => e.report n.operator n.operand context

theorem evaluateWith_rightHanded {n inner : Node κ} (hn : n.operand = .node inner)
    (hside : (n.operator.rightHanded || inner.operator.rightHanded) = true) (given : Option Json)
    (document : Json) :
    n.evaluateWith A given document =
      inner.evaluateWith A (contextIn n.selector given document) document >>= fun v =>
        n.applied A (contextIn n.selector given document) (.ofValue v) document := by
  obtain ⟨selector, operator, operand⟩ := n
  subst hn
  rw [evaluateWith, if_pos hside]
  rfl

theorem evaluateWith_chained {n inner : Node κ} (hn : n.operand = .node inner)
    (hside : (n.operator.rightHanded || inner.operator.rightHanded) = false) (given : Option Json)
    (document : Json) :
    n.evaluateWith A given document =
      n.applied A (contextIn n.selector given document) n.operand document >>= fun v =>
        inner.evaluateWith A v document := by
  obtain ⟨selector, operator, operand⟩ := n
  subst hn
  rw [evaluateWith, if_neg (by rw [hside]; exact Bool.false_ne_true)]
  rfl

theorem evaluateWith_direct {n : Node κ} (hn : n.operand.node? = none) (given : Option Json)
    (document : Json) :
    n.evaluateWith A given document =
      n.applied A (contextIn n.selector given document) n.operand document := by
  obtain ⟨selector, operator, operand⟩ := n
  cases operand with
  | node inner => exact absurd hn (by simp [Operand.node?])
  | _ => rfl

end

/-! ## Two evaluations side by side -/

/-- Two nodes between which the operations around them can make no difference but by their related
outcomes. -/
structure Coupled (C : Coupling ρ ρ')
    (evaluate : Node κ → Option Json → Json → Except ρ (Option Json))
    (evaluate' : Node κ → Option Json → Json → Except ρ' (Option Json)) (document : Json)
    (n m : Node κ) : Prop where
  selector : n.selector = m.selector
  rightHanded : n.operator.rightHanded = m.operator.rightHanded
  outcome (given : Option Json) :
    C.Rel ((evaluate n given document).mapError .nested)
      ((evaluate' m given document).mapError .nested)

/-- **One step**: nodes are coupled when what they do with their operands is, and the nodes in these
are coupled. -/
theorem Coupled.of_operand [ReportKind ρ] [ReportKind ρ'] {C : Coupling ρ ρ'}
    {A : Operator κ → Option Json → Operand κ → Json → Except (Interruption ρ) (Option Json)}
    {B : Operator κ → Option Json → Operand κ → Json → Except (Interruption ρ') (Option Json)}
    {document : Json} {n m : Node κ} (hselector : n.selector = m.selector)
    (hright : n.operator.rightHanded = m.operator.rightHanded)
    (happlied : ∀ c, C.Rel ((n.applied A c n.operand document).mapError .nested)
      ((m.applied B c m.operand document).mapError .nested))
    (hproduced : ∀ c v, C.Rel ((n.applied A c (.ofValue v) document).mapError .nested)
      ((m.applied B c (.ofValue v) document).mapError .nested))
    (hoperand : (n.operand.node? = none ∧ m.operand.node? = none) ∨
      ∃ inner inner', n.operand = .node inner ∧ m.operand = .node inner' ∧
        Coupled C (evaluateWith A) (evaluateWith B) document inner inner') :
    Coupled C (evaluateWith A) (evaluateWith B) document n m := by
  refine ⟨hselector, hright, fun given => ?_⟩
  rcases hoperand with ⟨hnone, hnone'⟩ | ⟨inner, inner', hinner, hinner', hcoupled⟩
  · rw [evaluateWith_direct A hnone, evaluateWith_direct B hnone', hselector]
    exact happlied _
  · -- the two nodes go the same way
    have hside : (n.operator.rightHanded || inner.operator.rightHanded) =
        (m.operator.rightHanded || inner'.operator.rightHanded) := by
      rw [hright, hcoupled.rightHanded]
    cases hcase : n.operator.rightHanded || inner.operator.rightHanded with
    | true =>
      rw [evaluateWith_rightHanded A hinner hcase,
        evaluateWith_rightHanded B hinner' (hside ▸ hcase), hselector, mapError_bind,
        mapError_bind]
      exact C.bind (hcoupled.outcome _) fun v => hproduced _ v
    | false =>
      rw [evaluateWith_chained A hinner hcase, evaluateWith_chained B hinner' (hside ▸ hcase),
        hselector, mapError_bind, mapError_bind]
      exact C.bind (happlied _) hcoupled.outcome

/-! ## The node at which an error comes up -/

/-- What the operator of a node is applied to in a context: the operand as it is, or what the node
in the operand has come to when one side is right-handed. -/
inductive Receives (evaluate : Node κ → Option Json → Json → Except ρ (Option Json)) (n : Node κ)
    (c : Option Json) (document : Json) : Operand κ → Prop
  | unresolved (h : ∀ inner, n.operand = .node inner →
      (n.operator.rightHanded || inner.operator.rightHanded) = false) :
      Receives evaluate n c document n.operand
  | produced {inner : Node κ} {v : Option Json} (hinner : n.operand = .node inner)
      (hside : (n.operator.rightHanded || inner.operator.rightHanded) = true)
      (hv : evaluate inner c document = .ok v) : Receives evaluate n c document (.ofValue v)

section
variable {evaluate : Node κ → Option Json → Json → Except ρ (Option Json)} {n : Node κ}
  {c : Option Json} {document : Json} {x : Operand κ} (hx : n.Receives evaluate c document x)
include hx

/-- What a node receives holds no nodes but those of its operand. -/
theorem Receives.nodes_subset : ∀ m ∈ x.nodes, m ∈ n.operand.nodes := by
  intro m hm
  cases hx with
  | unresolved => exact hm
  | produced =>
    rw [Operand.nodes_ofValue] at hm
    exact absurd hm List.not_mem_nil

theorem Receives.depth_le : x.depth ≤ n.operand.depth := by
  cases hx with
  | unresolved => exact Nat.le_refl _
  | produced =>
    rw [Operand.depth_ofValue]
    exact Nat.zero_le _

end

section
variable [ReportKind ρ]
  {A : Operator κ → Option Json → Operand κ → Json → Except (Interruption ρ) (Option Json)}
  {document : Json}

/-- A node fails when its operator does on what it receives. -/
theorem Receives.evaluateWith {n : Node κ} {given : Option Json} {x : Operand κ}
    (hx : n.Receives (Node.evaluateWith A) (contextIn n.selector given document) document x) {e : ρ}
    (h : n.applied A (contextIn n.selector given document) x document = .error e) :
    n.evaluateWith A given document = .error e := by
  cases hx with
  | produced hinner hside hv =>
    rw [evaluateWith_rightHanded A hinner hside, hv, ok_bind]
    exact h
  | unresolved hside =>
    cases hx : n.operand.node? with
    | none =>
      rw [evaluateWith_direct A hx]
      exact h
    | some inner =>
      have hinner := Operand.node?_eq_some.mp hx
      rw [evaluateWith_chained A hinner (hside inner hinner), h, error_bind]

/-- **How a node fails**: its operator does on what it receives, or the node in its operand has
failed. -/
theorem evaluateWith_eq_error {n : Node κ} {given : Option Json} {e : ρ}
    (h : n.evaluateWith A given document = .error e) :
    (∃ x, n.Receives (evaluateWith A) (contextIn n.selector given document) document x ∧
        n.applied A (contextIn n.selector given document) x document = .error e) ∨
      ∃ inner ∈ n.operand.children, ∃ c, inner.evaluateWith A c document = .error e := by
  cases hx : n.operand.node? with
  | none =>
    rw [evaluateWith_direct A hx] at h
    refine .inl ⟨n.operand, .unresolved fun inner hinner => ?_, h⟩
    rw [hinner] at hx
    cases hx
  | some inner =>
    have hinner := Operand.node?_eq_some.mp hx
    have hmem : inner ∈ n.operand.children := hinner ▸ List.mem_singleton_self inner
    cases hside : n.operator.rightHanded || inner.operator.rightHanded with
    | true =>
      rw [evaluateWith_rightHanded A hinner hside] at h
      rcases bind_eq_error.mp h with h | ⟨v, hv, h⟩
      · exact .inr ⟨inner, hmem, _, h⟩
      · exact .inl ⟨_, .produced hinner hside hv, h⟩
    | false =>
      rw [evaluateWith_chained A hinner hside] at h
      rcases bind_eq_error.mp h with h | ⟨v, -, h⟩
      · refine .inl ⟨n.operand, .unresolved fun m hm => ?_, h⟩
        obtain rfl : inner = m := Operand.node.inj (hinner.symm.trans hm)
        exact hside
      · exact .inr ⟨inner, hmem, v, h⟩

/-- A step that reports its errors fails where the step does. -/
theorem applied_eq_error {n : Node κ} {c : Option Json} {x : Operand κ} {e : ρ}
    (h : n.applied A c x document = .error e) :
    ∃ e', A n.operator c x document = .error e' ∧ e = e'.report n.operator n.operand c := by
  unfold applied at h
  cases hA : A n.operator c x document with
  | ok v =>
    rw [hA] at h
    cases h
  | error e' =>
    rw [hA] at h
    cases h
    exact ⟨e', rfl, rfl⟩

/-- **The error of a tree comes up at one of its nodes.** The induction follows the error down to
the node whose operator has failed. -/
theorem exists_applied_eq_error {n : Node κ} {given : Option Json} {e : ρ}
    (h : n.evaluateWith A given document = .error e) :
    ∃ m ∈ n.nodes, ∃ given x,
      m.Receives (evaluateWith A) (contextIn m.selector given document) document x ∧
        m.applied A (contextIn m.selector given document) x document = .error e := by
  induction n using Node.induct generalizing given with
  | step n ih =>
    rcases evaluateWith_eq_error h with ⟨x, hx, h⟩ | ⟨inner, hinner, c, h⟩
    · exact ⟨n, n.self_mem_nodes, given, x, hx, h⟩
    · obtain ⟨m, hm, hfails⟩ := ih inner hinner h
      exact ⟨m, mem_nodes.mpr (.inr (Operand.mem_nodes_of_mem_children hinner hm)), hfails⟩

end

end Node

end DocFilter
