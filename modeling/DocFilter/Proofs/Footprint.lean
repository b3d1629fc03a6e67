import DocFilter.Proofs.Shape

/-!
# What a filter reads

A filter looks at a document through its selectors only. Two documents on which all of them
resolve alike are the same document to it, in every context:

> `Filter.evaluate_eq_of_selectors`: the two evaluations have the same value, the same absence or
> the same error.

One operation is `Registry.perform_congr`, one node `Registry.evaluate_congr_node`: it takes the
same context, the same answers of the nodes that it asks, and the same evaluation of the node that
it hands a value on to. The theorem is an induction on the tree with that lemma for its step.
-/

namespace DocFilter

variable {κ : Type}

namespace Registry

variable {r : Registry κ} {host : Host κ} {d₁ d₂ : Json}

/-! ## One node on two documents -/

/-- An operation reads a document through the nodes that it asks, through the selector of the node
that it subtracts, and through its operand if that is a selector. -/
theorem perform_congr (hr : r.HoldsBuiltins) {op : Operator κ} {operation : Builtin}
    (hop : op.body = .builtin operation) {c : Option Json} {x : Operand κ}
    (hasks : ∀ given, operation.asks? c = some given →
      ∀ m, .node m ∈ x.items → r.evaluate host m given d₁ = r.evaluate host m given d₂)
    (hoperand : ∀ s, x = .selector s → s.resolve d₁ = s.resolve d₂)
    (hsubtrahend : operation = .difference →
      ∀ m, x = .node m → ∀ s, m.selector = some s → s.resolve d₁ = s.resolve d₂) :
    r.perform host op c x d₁ = r.perform host op c x d₂ := by
  rw [perform_builtin hop, perform_builtin hop]
  refine Builtin.run_congr ⟨hasks, ?_, hoperand, hsubtrahend⟩
  intro y _ given
  -- equality compares with the context, whatever the document is
  rw [evaluator_equal hr (r.evaluator host), evaluator_equal hr (r.evaluator host)]
  rfl

/-- What a right-handed operand has produced reads no document. -/
theorem perform_ofValue_congr (hr : r.HoldsBuiltins) {op : Operator κ} {operation : Builtin}
    (hop : op.body = .builtin operation) (c v : Option Json) :
    r.perform host op c (.ofValue v) d₁ = r.perform host op c (.ofValue v) d₂ := by
  refine perform_congr hr hop (fun given _ m hm => ?_) (fun s hs => ?_) (fun _ m hm => ?_)
  · rw [Operand.items_ofValue] at hm
    exact absurd hm List.not_mem_nil
  · cases v <;> cases hs
  · cases v <;> cases hm

/-- A node is evaluated alike on two documents when it finds the same context in them, and when
what it reads below is alike. -/
theorem evaluate_congr_node (hr : r.HoldsBuiltins) {n : Node κ} (hn : n.BuiltinOnly)
    {operation : Builtin} (hop : n.operator.body = .builtin operation) {given c : Option Json}
    (h₁ : Node.contextIn n.selector given d₁ = c) (h₂ : Node.contextIn n.selector given d₂ = c)
    (hasks : ∀ given, operation.asks? c = some given → ∀ m, .node m ∈ n.operand.items →
      r.evaluate host m given d₁ = r.evaluate host m given d₂)
    (hoperand : ∀ s, n.operand = .selector s → s.resolve d₁ = s.resolve d₂)
    (hsubtrahend : operation = .difference →
      ∀ m, n.operand = .node m → ∀ s, m.selector = some s → s.resolve d₁ = s.resolve d₂)
    (hproduced : ∀ m, n.operand = .node m →
      (n.operator.rightHanded || m.operator.rightHanded) = true →
        r.evaluate host m c d₁ = r.evaluate host m c d₂)
    (hhanded : ∀ m, n.operand = .node m →
      (n.operator.rightHanded || m.operator.rightHanded) = false →
        ∀ v, r.perform host n.operator c n.operand d₁ = .ok v →
          r.evaluate host m v d₁ = r.evaluate host m v d₂) :
    r.evaluate host n given d₁ = r.evaluate host n given d₂ := by
  have hperform := perform_congr hr hop hasks hoperand hsubtrahend
  have happlied : n.applied (r.perform host) c n.operand d₁ =
      n.applied (r.perform host) c n.operand d₂ := by
    rw [Node.applied, Node.applied, hperform]
  cases hx : n.operand.node? with
  | none =>
    rw [evaluate_direct hr hn _ _ hx, evaluate_direct hr hn _ _ hx, h₁, h₂, happlied]
  | some m =>
    have hm := Operand.node?_eq_some.mp hx
    cases hside : n.operator.rightHanded || m.operator.rightHanded with
    | true =>
      have hvalue : ∀ v, n.applied (r.perform host) c (.ofValue v) d₁ =
          n.applied (r.perform host) c (.ofValue v) d₂ := by
        intro v
        rw [Node.applied, Node.applied, perform_ofValue_congr hr hop]
      simp only [evaluate_rightHanded hr hn _ _ hm hside, h₁, h₂, hproduced m hm hside, hvalue]
    | false =>
      rw [evaluate_chained hr hn _ _ hm hside, evaluate_chained hr hn _ _ hm hside, h₁, h₂,
        ← happlied]
      cases hv : r.perform host n.operator c n.operand d₁ with
      | error e =>
        rw [Node.applied, hv]
        rfl
      | ok v =>
        rw [Node.applied, hv]
        exact hhanded m hm hside v hv

/-! ## The selectors of a tree -/

/-- The selectors of a child are selectors of the tree. -/
theorem selectors_child {n m : Node κ} (hm : m ∈ n.operand.children) {s : Selector}
    (hs : s ∈ m.selectors) : s ∈ n.selectors := by
  obtain ⟨k, hk, hsk⟩ := Node.mem_selectors.mp hs
  exact Node.mem_selectors.mpr ⟨k, Node.mem_nodes.mpr
    (.inr (Operand.mem_nodes_of_mem_children hm hk)), hsk⟩

/-- **A tree reads a document through its selectors.** -/
theorem evaluate_congr (hr : r.HoldsBuiltins) {n : Node κ} (hn : n.BuiltinOnly)
    (hs : ∀ s ∈ n.selectors, s.resolve d₁ = s.resolve d₂) (given : Option Json) :
    r.evaluate host n given d₁ = r.evaluate host n given d₂ := by
  induction n using Node.induct generalizing given with
  | step n ih =>
    have hself : ∀ s, n.selector = some s ∨ n.operand = .selector s →
        s.resolve d₁ = s.resolve d₂ :=
      fun s h => hs s (Node.mem_selectors.mpr ⟨n, n.self_mem_nodes, h⟩)
    have hchild : ∀ m ∈ n.operand.children, ∀ c,
        r.evaluate host m c d₁ = r.evaluate host m c d₂ :=
      fun m hm => ih m hm (Node.forall_nodes_child hn hm) fun s h => hs s (selectors_child hm h)
    have hinner : ∀ m, n.operand = .node m → m ∈ n.operand.children :=
      fun m hm => hm ▸ List.mem_singleton_self m
    have hcontext : Node.contextIn n.selector given d₂ = Node.contextIn n.selector given d₁ := by
      cases given with
      | some c => rfl
      | none =>
        cases hselector : n.selector with
        | none => rfl
        | some s => exact (hself s (.inl hselector)).symm
    obtain ⟨operation, hop⟩ := hn n n.self_mem_nodes
    refine evaluate_congr_node hr hn hop rfl hcontext ?_ (fun s h => hself s (.inr h)) ?_
      (fun m hm _ => hchild m (hinner m hm) _) (fun m hm _ v _ => hchild m (hinner m hm) v)
    · exact fun c _ m hm => hchild m (Operand.mem_children_of_mem_items hm) c
    · intro _ m hm s h
      have hms := Node.mem_selectors.mpr ⟨m, m.self_mem_nodes, .inl h⟩
      exact hs s (selectors_child (hinner m hm) hms)

end Registry

/-- **The footprint of a filter** is its selectors: documents on which they resolve alike are
evaluated alike, errors and their texts included. -/
theorem Filter.evaluate_eq_of_selectors {raw : Json} {f : Filter κ}
    (hf : Filter.ofValue Registry.defaults raw = .ok f) (host : Host κ) (context : Option Json)
    {d₁ d₂ : Json} (hs : ∀ s ∈ f.root.selectors, s.resolve d₁ = s.resolve d₂) :
    f.evaluate host context d₁ = f.evaluate host context d₂ := by
  obtain ⟨hregistry, hformed⟩ := Filter.formed_of_ofValue hf
  rw [Filter.evaluate, Filter.evaluate, hregistry]
  exact Registry.evaluate_congr Registry.defaults_holdsBuiltins
    (Registry.builtinOnly_of_formed hformed) hs context

/-- A field and a reference, on two documents that differ elsewhere. -/
theorem Filter.evaluate_eq_of_selectors_reference :
    ∃ f, Filter.ofValue (Registry.defaults : Registry Empty)
        (.object [("a", .object [("$exists", .object [("$val", .string "b")])])]) = .ok f ∧
      f.evaluate Host.none none (.object [("a", .null), ("b", .bool true), ("c", .null)]) =
        f.evaluate Host.none none (.object [("a", .null), ("b", .bool true)]) := by
  obtain ⟨f, hf, hselectors⟩ : ∃ f, Filter.ofValue (Registry.defaults : Registry Empty)
        (.object [("a", .object [("$exists", .object [("$val", .string "b")])])]) = .ok f ∧
      f.root.selectors = [⟨"a"⟩, ⟨"b"⟩] := ⟨_, rfl, rfl⟩
  refine ⟨f, hf, Filter.evaluate_eq_of_selectors hf _ _ fun s hs => ?_⟩
  rw [hselectors] at hs
  obtain rfl | rfl : s = ⟨"a"⟩ ∨ s = ⟨"b"⟩ := by simpa using hs
  · rfl
  · rfl

end DocFilter
