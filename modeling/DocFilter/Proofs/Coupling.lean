import DocFilter.Proofs.Evaluation

/-!
# Two filters side by side

Two trees of one form can be evaluated with two registries, two hosts, in the same context and on
the same document. Where their nodes are related place by place, by a `Coupling` of their outcomes,
a built-in operation cannot tell their operands apart (`Builtin.run_coupled`), and so

> `Registry.coupled_of_paired`: two nodes with the same selector and the same built-in operation are
> coupled when their operands are coupled place by place.

That is the step of an induction on the two trees. What is left to the user of a coupling is how the
failures of the two nodes are reported (`Coupling.Reports`).
-/

namespace DocFilter

variable {κ : Type}

/-- What is related stays so when its failures are reported at the one node and at the other. -/
def Coupling.Reports (C : Coupling MatchError MatchError) (n m : Node κ) : Prop :=
  ∀ (c : Option Json) {x y : EvalResult}, C.Rel x y →
    C.Rel ((x.mapError fun e => e.report n.operator n.operand c).mapError .nested)
      ((y.mapError fun e => e.report m.operator m.operand c).mapError .nested)

/-- Two nodes whose evaluations are coupled. -/
abbrev Coupled (C : Coupling MatchError MatchError) (r r' : Registry κ) (host host' : Host κ)
    (document : Json) : Node κ → Node κ → Prop :=
  Node.Coupled C (r.evaluate host) (r'.evaluate host') document

namespace Registry

variable {C : Coupling MatchError MatchError} {r r' : Registry κ} {host host' : Host κ}
  {document : Json} {x y : Operand κ} (hr : r.HoldsBuiltins) (hr' : r'.HoldsBuiltins)
include hr hr'

/-- Both registries hold the same equality, which compares literals and calls nothing. -/
theorem equals_coupled (hliteral : C.Rel (Builtin.equal.literal x) (Builtin.equal.literal y))
    (c : Option Json) :
    C.Rel ((r.evaluator host).equals c x document) ((r'.evaluator host').equals c y document) := by
  rw [Evaluator.equals_eq_map, Evaluator.equals_eq_map, evaluator_equal hr (r.evaluator host),
    evaluator_equal hr' (r.evaluator host)]
  refine C.map (C.bind hliteral fun expected => ?_) truthy
  cases expected <;> exact C.ok _

/-- To ask related elements of lists whether they hold is coupled; what is no node is refused
alike. -/
theorem item_coupled (hx : x.ItemPaired (Coupled C r r' host host' document) y) :
    x.Coupled C (r.evaluator host) (r'.evaluator host') document y := by
  cases hx with
  | leaf hx =>
    refine ⟨fun operation => Builtin.literal_coupled_self C operation x, fun operation c => ?_,
      equals_coupled hr hr' (Builtin.literal_coupled_self C .equal x)⟩
    refine Builtin.childHolds_coupled_self ?_ operation c
    cases x with
    | node => cases hx
    | _ => rfl
  | node h =>
    refine ⟨fun _ => C.failure _ _, fun operation c => ?_, equals_coupled hr hr' (C.failure _ _)⟩
    exact Builtin.childHolds_coupled (h.outcome c) operation

theorem alike_of_paired (hx : x.Paired (Coupled C r r' host host' document) y) :
    x.Alike C (r.evaluator host) (r'.evaluator host') document y := by
  cases hx with
  | list h => exact .list (h.imp fun _ _ => item_coupled hr hr')
  | item h =>
    cases h with
    | leaf hx => exact .leaf hx
    | node h => exact .node h.selector

theorem applied_coupled {n m : Node κ} {operation : Builtin}
    (hn : n.operator.body = .builtin operation) (hm : m.operator.body = .builtin operation)
    (hreports : C.Reports n m) (hx : x.Paired (Coupled C r r' host host' document) y)
    (c : Option Json) :
    C.Rel ((n.applied (r.perform host) c x document).mapError .nested)
      ((m.applied (r'.perform host') c y document).mapError .nested) := by
  have halike := alike_of_paired hr hr' hx
  have hequal : ∀ c, C.Rel ((r.evaluator host).equals c x document)
      ((r'.evaluator host').equals c y document) :=
    equals_coupled hr hr' (Builtin.literal_coupled halike .equal)
  have hrun := Builtin.run_coupled halike hequal operation c
  rw [← perform_builtin hn, ← perform_builtin hm] at hrun
  exact hreports c hrun

/-- **One step**: nodes that do the same are coupled when their operands are. -/
theorem coupled_of_paired {n m : Node κ} (hn : n.BuiltinOnly) (hm : m.BuiltinOnly)
    (hselector : n.selector = m.selector)
    (hright : n.operator.rightHanded = m.operator.rightHanded)
    (hbody : n.operator.body = m.operator.body) (hreports : C.Reports n m)
    (hoperand : n.operand.Paired (Coupled C r r' host host' document) m.operand) :
    Coupled C r r' host host' document n m := by
  obtain ⟨operation, hop⟩ := hn n n.self_mem_nodes
  have hop' : m.operator.body = .builtin operation := hbody ▸ hop
  have hcoupled : n.Coupled C (Node.evaluateWith (r.perform host))
      (Node.evaluateWith (r'.perform host')) document m := by
    refine .of_operand hselector hright (applied_coupled hr hr' hop hop' hreports hoperand)
      (fun c v => applied_coupled hr hr' hop hop' hreports (Operand.paired_ofValue v) c) ?_
    refine hoperand.node?.imp_right ?_
    rintro ⟨inner, inner', hinner, hinner', h⟩
    refine ⟨inner, inner', hinner, hinner', h.selector, h.rightHanded, fun given => ?_⟩
    have hmem : inner ∈ n.operand.children := hinner ▸ List.mem_singleton_self inner
    have hmem' : inner' ∈ m.operand.children := hinner' ▸ List.mem_singleton_self inner'
    rw [← evaluate_eq hr (Node.forall_nodes_child hn hmem),
      ← evaluate_eq hr' (Node.forall_nodes_child hm hmem')]
    exact h.outcome given
  refine ⟨hselector, hright, fun given => ?_⟩
  rw [evaluate_eq hr hn, evaluate_eq hr' hm]
  exact hcoupled.outcome given

end Registry

end DocFilter
