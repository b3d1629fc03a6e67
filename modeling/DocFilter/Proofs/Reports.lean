import DocFilter.Filter.Basic
import DocFilter.Operator.Script
import DocFilter.Proofs.Limits
import Mathlib.Data.Set.Basic

/-!
# The node that a report names

An error goes up a tree in two ways. A node passes the report of the node in its operand on as it
is. An operation wraps the reports of the nodes that it evaluates (`Interruption.nested`), hands the
errors of the operators that it calls on, and the node around it takes the wrapping off again. A
report is made in one place only, where an operation fails by itself.

`Node.Blamed` says that a report is that of a node: it has the name of the operator, the text of the
operand as the query has it, and the context, and the operator fails in this context on the operand
that it receives with just the failure in the report. That this is a failure and no report from
further inside is in its type. Evaluated by itself the node gives the same report, so that nothing
around it has changed it. All of this is about operators and nodes as they are applied and evaluated
with no depth counted.

> `Filter.evaluate_blames`: the report of a filter is that of a node of its tree.

The operations of a host may fail by themselves and pass on what evaluation has given them, but
make up no reports (`Host.PassesOn`). They may call operators and evaluate nodes as deep as they
like. Then they are like the built-in operations in this (`Host.run_passes`), and one induction goes
for both. It is on the depth of a run. A report comes from a run
(`Registry.exists_of_evaluate_eq_error`), an operation that hands a report on has it from a node
with one call less to nest (`Registry.apply_nested`), and in the tree of that node either some node
has failed by itself, or an operation has handed the report on again (`Registry.evaluateWith_blames`).
-/

namespace DocFilter

variable {κ : Type}

/-! ## The report of a node -/

namespace Node

/-- The report is that of this node. -/
structure Blamed (r : Registry κ) (host : Host κ) (document : Json) (n : Node κ) (e : MatchError) :
    Prop where
  operator : e.operator = n.operator.name
  operand : e.operand = n.operand.text
  /-- The operator fails by itself in the context of the report. -/
  fails : ∃ x, n.Receives (r.evaluate host) e.context document x ∧
    r.apply host n.operator e.context x document = .error (.failure e.source)
  /-- The node has that context when it is evaluated, and gives the report. -/
  alone : ∃ given, contextIn n.selector given document = e.context ∧
    r.evaluate host n given document = .error e

variable {r : Registry κ} {host : Host κ} {document : Json}

/-- What a node receives in a run, it receives with no depth counted. -/
theorem Receives.of_run {depth : Nat} {n : Node κ} {c : Option Json} {x : Operand κ}
    (hx : n.Receives (Node.evaluateWith (r.applyWithin host depth)) c document x) :
    n.Receives (r.evaluate host) c document x := by
  cases hx with
  | unresolved hside => exact .unresolved hside
  | @produced inner v hinner hside hv =>
    exact .produced hinner hside (Registry.evaluate_eq_of_run (.ok v) hv)

/-- **A node is blamed for what its operator fails with by itself.** -/
theorem blamed_of_run {depth : Nat} {n : Node κ} {given : Option Json} {x : Operand κ}
    {cause : Failure}
    (hx : n.Receives (evaluateWith (r.applyWithin host depth)) (contextIn n.selector given document)
      document x)
    (h : r.applyWithin host depth n.operator (contextIn n.selector given document) x document =
      .error (.failure cause)) :
    n.Blamed r host document
      ⟨n.operator.name, n.operand.text, contextIn n.selector given document, cause⟩ := by
  have hfails : n.applied (r.applyWithin host depth) (contextIn n.selector given document) x
      document = .error
        (some ⟨n.operator.name, n.operand.text, contextIn n.selector given document, cause⟩) := by
    rw [applied, h]
    rfl
  refine ⟨rfl, rfl, ⟨x, hx.of_run, Registry.apply_eq_of_run (.error (.failure cause)) h⟩, given,
    rfl, ?_⟩
  exact Registry.evaluate_eq_of_run (.error _) (hx.evaluateWith hfails)

end Node

/-! ## Operations that pass reports on -/

/-- What the operations of a host evaluate besides the nodes in their operands, on the document that
they are given: nodes that they have made, with all nodes of these, and other documents. -/
structure Provisions (κ : Type) where
  nodes : Set (Node κ)
  documents : Set Json
  closed {n m : Node κ} (hn : n ∈ nodes) (hm : m ∈ n.nodes) : m ∈ nodes

namespace Provisions

/-- Nothing besides. -/
def none : Provisions κ := ⟨∅, ∅, fun hn _ => hn⟩

variable (P : Provisions κ)

/-- The nodes that an operation with this operand may evaluate. -/
def HasNode (x : Operand κ) (n : Node κ) : Prop :=
  n ∈ x.nodes ∨ n ∈ P.nodes

/-- The documents on which it may do so. -/
def HasDocument (document d : Json) : Prop :=
  d = document ∨ d ∈ P.documents

variable {P} {x y : Operand κ} {n : Node κ} {d₁ d₂ d₃ : Json}

theorem HasNode.below (hn : P.HasNode x n) : ∀ m ∈ n.nodes, P.HasNode x m := by
  intro m hm
  rcases hn with hn | hn
  · exact .inl (Operand.nodes_trans hm x hn)
  · exact .inr (P.closed hn hm)

theorem HasNode.trans (hy : ∀ m ∈ y.nodes, P.HasNode x m) (hn : P.HasNode y n) :
    P.HasNode x n := by
  rcases hn with hn | hn
  · exact hy n hn
  · exact .inr hn

theorem HasDocument.trans (h : P.HasDocument d₁ d₂) (h' : P.HasDocument d₂ d₃) :
    P.HasDocument d₁ d₃ := by
  rcases h' with rfl | h'
  · exact h
  · exact .inr h'

end Provisions

/-- An error that an operation may end with: a failure of its own, the report of a node that it has
evaluated, or the error of an operator that it has called. -/
inductive Evaluator.Passes (ev : Evaluator κ MatchError) (P : Provisions κ) (x : Operand κ)
    (document : Json) : EvalError → Prop
  | failure (cause : Failure) : Passes ev P x document (.failure cause)
  | node {n : Node κ} (hn : P.HasNode x n) {d : Json} (hd : P.HasDocument document d)
      {c : Option Json} {report : MatchError} (h : ev.node n c d = .error report) :
      Passes ev P x document (.nested report)
  | call {y : Operand κ} (hy : ∀ n ∈ y.nodes, P.HasNode x n) {d : Json}
      (hd : P.HasDocument document d) {name : String} {c : Option Json} {e : EvalError}
      (h : ev.call name c y d = .error e) : Passes ev P x document e

/-- The operations of a host make up no reports, whatever comes of the nodes that they evaluate and
of the operators that they call. -/
def Host.PassesOn (host : Host κ) (P : Provisions κ) : Prop :=
  ∀ key ev c x document,
    FailsOnly (Evaluator.Passes ev P x document) ((host key c x document).run ev)

/-- **Nor do the built-in operations**, so that the body of an operator makes up no reports. -/
theorem Host.run_passes {host : Host κ} {P : Provisions κ} (hhost : host.PassesOn P)
    (ev : Evaluator κ MatchError) (op : Operator κ) (c : Option Json) (x : Operand κ)
    (document : Json) : FailsOnly (ev.Passes P x document) (host.run ev op c x document) := by
  rw [Host.run]
  cases op.body with
  | custom key => exact hhost key ev c x document
  | builtin operation =>
    refine (Builtin.run_passes operation c).imp fun e he => ?_
    cases he with
    | failure cause => exact .failure cause
    | node hm h =>
      exact .node (.inl (Operand.mem_nodes_of_mem_children hm (Node.self_mem_nodes _))) (.inl rfl) h
    | @equal y hy _ _ h =>
      refine .call (fun n hn => .inl ?_) (.inl rfl) h
      rcases hy with rfl | hy
      · exact hn
      · exact Operand.mem_nodes_of_mem_items hy hn

/-- Scripted operations evaluate their operands on the document that they are given. -/
theorem Script.passesOn_run (P : Provisions Script) : Script.run.PassesOn P := by
  intro script ev c x document
  have hself : ∀ n ∈ x.nodes, P.HasNode x n := fun n hn => .inl hn
  cases script with
  | fail text => exact .failure _
  | call name =>
    show FailsOnly _ (Procedure.run ev (.call name c x document .done))
    rw [Procedure.run]
    cases h : ev.call name c x document with
    | ok v => trivial
    | error e =>
      cases e with
      | failure cause => exact .failure cause
      | nested report => exact .call hself (.inl rfl) h
  | holds =>
    cases x with
    | node n =>
      cases h : ev.node n c document with
      | ok v =>
        simp only [Script.run, Procedure.run, h]
        trivial
      | error report =>
        simp only [Script.run, Procedure.run, h]
        exact .node (hself n n.self_mem_nodes) (.inl rfl) h
    | _ => trivial
  | operand | resolve | count => cases x <;> trivial
  | _ => trivial

/-! ## Calls -/

/-- An evaluator that gives what another one gives, and nothing where that is cut off. -/
def Evaluator.uncut (ev : Evaluator κ (Option MatchError)) : Evaluator κ MatchError where
  node n c document := (seen? ReportKind.error? (ev.node n c document)).getD (.ok none)
  call name c x document := (seen? Interruption.error? (ev.call name c x document)).getD (.ok none)

namespace Evaluator

variable {ev : Evaluator κ (Option MatchError)}

theorem within_uncut (ev : Evaluator κ (Option MatchError)) : ev.Within ev.uncut where
  node n c document := ReportKind.shows.cut_or_getD (ev.node n c document) _
  call name c x document := Interruption.shows.cut_or_getD (ev.call name c x document) _

theorem node_eq_error_of_uncut {n : Node κ} {c : Option Json} {document : Json} {e : MatchError}
    (h : ev.uncut.node n c document = .error e) : ev.node n c document = .error (some e) :=
  ReportKind.shows.eq_error_of_getD h

theorem call_eq_error_of_uncut {name : String} {c : Option Json} {x : Operand κ} {document : Json}
    {e : MatchError} (h : ev.uncut.call name c x document = .error (.nested e)) :
    ev.call name c x document = .error (.nested (some e)) :=
  Interruption.shows.eq_error_of_getD h

end Evaluator

namespace Registry

variable {r : Registry κ} {host : Host κ} {P : Provisions κ}

/-- The report is that of a node within reach of an operand. -/
def Blames (r : Registry κ) (host : Host κ) (P : Provisions κ) (x : Operand κ) (document : Json)
    (e : MatchError) : Prop :=
  ∃ n, P.HasNode x n ∧ ∃ d, P.HasDocument document d ∧ n.Blamed r host d e

/-- What is within reach of a call is within reach of the operation that calls. -/
theorem Blames.of_call {x y : Operand κ} (hy : ∀ n ∈ y.nodes, P.HasNode x n) {document d : Json}
    (hd : P.HasDocument document d) {e : MatchError} (h : r.Blames host P y d e) :
    r.Blames host P x document e := by
  obtain ⟨n, hn, d', hd', hblamed⟩ := h
  exact ⟨n, hn.trans hy, d', hd.trans hd', hblamed⟩

/-- When operations hand on no reports but those of nodes within their reach, the report of a tree is
that of a node within reach of the tree. -/
theorem evaluateWith_blames {depth : Nat} {document : Json}
    (happly : ∀ op c x report,
      r.applyWithin host depth op c x document = .error (.nested (some report)) →
        r.Blames host P x document report)
    {n : Node κ} {given : Option Json} {e : MatchError}
    (h : n.evaluateWith (r.applyWithin host depth) given document = .error (some e)) :
    r.Blames host P (.node n) document e := by
  obtain ⟨m, hm, given', x, hx, hfails⟩ := Node.exists_applied_eq_error h
  obtain ⟨e', he', hreport⟩ := Node.applied_eq_error hfails
  cases e' with
  | failure cause =>
    cases hreport
    exact ⟨m, .inl hm, document, .inl rfl, Node.blamed_of_run hx he'⟩
  | nested report =>
    obtain rfl : some e = report := hreport
    refine (happly m.operator _ x e he').of_call (fun k hk => .inl ?_) (.inl rfl)
    exact Node.nodes_trans (Node.mem_nodes.mpr (.inr (hx.nodes_subset k hk))) n hm

/-- **A report that an operation hands on is that of a node within its reach.** -/
theorem apply_nested (hhost : host.PassesOn P) {depth : Nat} {op : Operator κ} {c : Option Json}
    {x : Operand κ} {document : Json} {report : MatchError}
    (h : r.applyWithin host depth op c x document = .error (.nested (some report))) :
    r.Blames host P x document report := by
  induction depth generalizing op c x document report with
  | zero => cases h
  | succ depth ih =>
    have hrun : host.run (r.evaluatorAt host depth).uncut op c x document =
        .error (.nested report) := by
      rcases host.run_within (Evaluator.within_uncut _) op c x document with hcut | hsame
      · cases h.symm.trans hcut
      · exact Interruption.shows.injective (hsame.symm.trans h)
    -- what the body has not made up comes from an evaluation with one call less to nest
    cases (Host.run_passes hhost _ op c x document).of_error hrun with
    | node hn hd h =>
      have hreport := evaluateWith_blames (fun _ _ _ _ h => ih h)
        (Evaluator.node_eq_error_of_uncut h)
      exact hreport.of_call hn.below hd
    | @call y hy d hd name c e h =>
      replace h := Evaluator.call_eq_error_of_uncut h
      simp only [evaluatorAt, evaluatorWith] at h
      cases hname : r.get? name with
      | none =>
        -- a name that is not there is a failure of its own, and no report
        rw [hname] at h
        cases h
      | some callee =>
        rw [hname] at h
        exact (ih h).of_call hy hd

end Registry

/-- **A report names the innermost node that failed.** When the operations of the host fail by
themselves or with what evaluation has given them, the report of a filter is that of a node of its
tree, or of one that an operation of the host has brought along: the name of its operator, the text
of its operand and the context are those with which the operator has failed by itself, and nothing
around the node has changed the report. -/
theorem Filter.evaluate_blames {P : Provisions κ} {host : Host κ} (hhost : host.PassesOn P)
    (f : Filter κ) {context : Option Json} {document : Json} {e : MatchError}
    (h : f.evaluate host context document = .error e) :
    ∃ n, (n ∈ f.root.nodes ∨ n ∈ P.nodes) ∧ ∃ d, (d = document ∨ d ∈ P.documents) ∧
      n.Blamed f.registry host d e := by
  obtain ⟨enough, hruns⟩ := Registry.exists_of_evaluate_eq_error h
  exact Registry.evaluateWith_blames (fun _ _ _ _ => Registry.apply_nested hhost)
    (hruns enough (Nat.le_refl enough))

/-- Below an operation of the host, which is below a conjunction, a document supplies no pattern. -/
theorem Filter.evaluate_blames_pattern :
    ∃ (f : Filter Script) (e : MatchError),
      ofValue (Registry.defaults.insert ⟨"$sure", .operator, 0, none, false, .custom .holds⟩)
        (.object [("$and", .array [
          .object [("a", .object [("$sure", .object [("$regex",
            .object [("$val", .string "p")])])])],
          .object [("b", .bool true)]])]) = .ok f ∧
      Script.run.PassesOn .none ∧
      f.evaluate Script.run none (.object [("a", .string "x"), ("p", .string "(")]) = .error e ∧
      e.operator = "$regex" ∧ e.operand = "$val(\"p\")" ∧ e.context = some (.string "x") ∧
      ∃ n ∈ f.root.nodes, n.Blamed f.registry Script.run
        (.object [("a", .string "x"), ("p", .string "(")]) e := by
  obtain ⟨f, e, hf, he, hoperator, hoperand, hcontext⟩ :
      ∃ (f : Filter Script) (e : MatchError),
        ofValue (Registry.defaults.insert ⟨"$sure", .operator, 0, none, false, .custom .holds⟩)
          (.object [("$and", .array [
            .object [("a", .object [("$sure", .object [("$regex",
              .object [("$val", .string "p")])])])],
            .object [("b", .bool true)]])]) = .ok f ∧
        f.evaluate Script.run none (.object [("a", .string "x"), ("p", .string "(")]) = .error e ∧
        e.operator = "$regex" ∧ e.operand = "$val(\"p\")" ∧
        e.context = some (.string "x") :=
    ⟨_, _, rfl, rfl, rfl, rfl, rfl⟩
  have hhost : Script.run.PassesOn .none := Script.passesOn_run .none
  obtain ⟨n, hn, d, hd, hblamed⟩ := Filter.evaluate_blames hhost f he
  have hn : n ∈ f.root.nodes := hn.resolve_right (Set.notMem_empty n)
  obtain rfl := hd.resolve_right (Set.notMem_empty d)
  exact ⟨f, e, hf, hhost, he, hoperator, hoperand, hcontext, n, hn, hblamed⟩

end DocFilter
