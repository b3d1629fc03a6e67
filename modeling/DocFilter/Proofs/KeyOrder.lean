import DocFilter.Filter.Basic
import DocFilter.Proofs.Shape
import DocFilter.Proofs.Similar

/-!
# The order of keys in documents

Putting the keys of a document into another order changes nothing that a query can find out. In
whatever context, and with its keys reordered too, a filter comes to the same result up to the order
of keys, or fails in the same way, and so it matches or does not match alike:

> `Filter.evaluate_reordered`: evaluating a filter on similar documents in similar contexts gives
> similar values, or reports of the same failure at the same node.

Values flow through the evaluator in three places: as the context of a node, as the operand that a
right-handed operator has produced (`Operand.Similar`), and in the report of a failure
(`MatchError.Similar`). That no operation can tell similar values apart in any of them is
`Builtin.run_similar`, one lemma for each operation that is not put together from parts. Trees
follow by induction (`Registry.evaluate_similar`), where the literals of the query are scalars and
have no keys.

Similar documents have no key twice, which holds of all documents that are read from text
(`Document.distinct_of_ofText`).
-/

namespace DocFilter

variable {κ : Type}

/-! ## Similar errors, operands and results -/

/-- Two reports of the same failure at the same node, on values that differ in the order of keys. -/
structure MatchError.Similar (e e' : MatchError) : Prop where
  operator : e.operator = e'.operator
  operand : e.operand = e'.operand
  source : e.source = e'.source
  context : Option.Rel Json.Similar e.context e'.context

/-- The same failure, or similar reports. -/
inductive EvalError.Similar : EvalError → EvalError → Prop
  | failure (cause : Failure) : EvalError.Similar (.failure cause) (.failure cause)
  | nested {e e' : MatchError} (h : e.Similar e') : EvalError.Similar (.nested e) (.nested e')

theorem EvalError.Similar.report {e e' : EvalError} (h : e.Similar e') (operator : Operator κ)
    (x : Operand κ) {c c' : Option Json} (hc : Option.Rel Json.Similar c c') :
    (e.report operator x c).Similar (e'.report operator x c') := by
  cases h with
  | failure => exact ⟨rfl, rfl, rfl, hc⟩
  | nested h => exact h

/-- Literals, in an operand or in its list, are scalars. -/
def Operand.ScalarLiterals (x : Operand κ) : Prop :=
  ∀ v, x = .value v ∨ .value v ∈ x.items → v.isContainer = false

/-- The operand that a node has, or similar values that operands have produced. -/
inductive Operand.Similar : Operand κ → Operand κ → Prop
  | same {x : Operand κ} (h : x.ScalarLiterals) : Similar x x
  | produced {v w : Json} (h : v.Similar w) : Similar (.value v) (.value w)

theorem Operand.similar_ofValue {o o' : Option Json} (h : Option.Rel Json.Similar o o') :
    (Operand.ofValue o : Operand κ).Similar (.ofValue o') := by
  cases h with
  | none => exact .same fun v hv => by rcases hv with hv | hv <;> cases hv
  | some h => exact .produced h

/-- Similar values, or similar errors. -/
abbrev SimilarResults : EvalResult → EvalResult → Prop :=
  Corresponds EvalError.Similar (Option.Rel Json.Similar)

/-- Similar values, or similar reports. -/
abbrev SimilarOutcomes : Except MatchError (Option Json) → Except MatchError (Option Json) → Prop :=
  Corresponds MatchError.Similar (Option.Rel Json.Similar)

/-! ## Parts of operations -/

namespace Builtin

variable {operation : Builtin} {x x' : Operand κ} {c c' : Option Json} {d d' : Json}

theorem answer_similar {b b' : Bool} (h : b = b') : SimilarResults (answer b) (answer b') := by
  subst h
  exact .ok (.some (.of_scalar rfl))

/-- An operation that answers what it finds out, in whatever way, answers alike. -/
theorem answer_bind_similar {asked asked' : Except EvalError Bool}
    (h : Corresponds EvalError.Similar Eq asked asked') {f : Bool → Bool} :
    SimilarResults (asked >>= fun b => answer (f b)) (asked' >>= fun b => answer (f b)) :=
  h.bind fun _ _ hb => answer_similar (congrArg f hb)

theorem unexpected_similar {α β : Type} {R : α → β → Prop} (expected : Expectation) :
    Corresponds EvalError.Similar R (operation.unexpected expected)
      (operation.unexpected expected) :=
  .error (.failure _)

section
variable (hx : x.Similar x')
include hx

theorem literal_similar : SimilarResults (operation.literal x) (operation.literal x') := by
  cases hx with
  | same h =>
    cases x with
    | value v => exact .ok (.some (.of_scalar (h v (.inl rfl))))
    | absent => exact .ok .none
    | _ => exact unexpected_similar _
  | produced h => exact .ok (.some h)

/-- Both operands are the same list, of elements that are similar to themselves. -/
theorem list_similar : Corresponds EvalError.Similar
    (fun items items' => items = items' ∧ x = .list items ∧ ∀ y ∈ items, ∀ operation : Builtin,
      SimilarResults (operation.literal y) (operation.literal y))
    (operation.list x) (operation.list x') := by
  cases hx with
  | same h =>
    cases x with
    | list items =>
      refine .ok ⟨rfl, rfl, fun y hy operation => ?_⟩
      cases y with
      | value v => exact .ok (.some (.of_scalar (h v (.inr hy))))
      | absent => exact .ok .none
      | _ => exact unexpected_similar _
    | _ => exact unexpected_similar _
  | produced => exact unexpected_similar _

theorem node_similar : Corresponds EvalError.Similar Eq (operation.node x) (operation.node x') := by
  cases hx with
  | same =>
    cases x with
    | node => exact .ok rfl
    | _ => exact unexpected_similar _
  | produced => exact unexpected_similar _

theorem selected_similar (hd : d.Similar d') :
    SimilarResults (operation.selected d x) (operation.selected d' x') := by
  cases hx with
  | same =>
    cases x with
    | selector s => exact .ok (s.resolve_similar hd)
    | _ => exact unexpected_similar _
  | produced => exact unexpected_similar _

end

theorem candidates_similar (hc : Option.Rel Json.Similar c c') :
    List.Forall₂ (Option.Rel Json.Similar) (candidates c) (candidates c') := by
  cases hc with
  | none => exact .cons .none .nil
  | @some v w h =>
    cases h.layer with
    | array hitems =>
      show List.Forall₂ _ (List.map some _) (List.map some _)
      rw [List.forall₂_map_left_iff, List.forall₂_map_right_iff]
      exact hitems.imp fun _ _ h => .some h
    | object => exact .cons (.some h) .nil
    | scalar hscalar =>
      cases v with
      | array | object => cases hscalar
      | _ => exact .cons (.some h) .nil

theorem difference?_similar {b b' : Option Json} (hc : Option.Rel Json.Similar c c')
    (hb : Option.Rel Json.Similar b b') :
    Option.Rel Json.Similar (difference? c b) (difference? c' b') := by
  have hdifference : difference? c b = difference? c' b' := by
    rw [difference?, difference?, toNumber?_similar hc, toNumber?_similar hb]
  rw [hdifference]
  refine Json.Similar.rel_refl fun v hv => .scalar ?_
  unfold difference? at hv
  split at hv
  · exact isContainer_of_numberJson? hv
  · cases hv

/-! ## Operations that call no others -/

section
variable {ev ev' : Evaluator κ MatchError}

/-- Equality needs of its operand only that it is read alike, which elements of lists are too. -/
theorem run_equal_similar (hx : SimilarResults (equal.literal x) (equal.literal x'))
    (hc : Option.Rel Json.Similar c c') :
    SimilarResults (equal.run ev c x d) (equal.run ev' c' x' d') := by
  refine hx.bind fun e e' he => ?_
  cases he with
  | none => exact answer_similar (looseEq_similar hc .none)
  | some he => exact answer_similar (deepEq_similar he hc)

theorem run_regex_same (text : String) :
    SimilarResults (regex.run ev (some (.string text)) x d)
      (regex.run ev' (some (.string text)) x d') := by
  cases x with
  | pattern | absent => exact answer_similar rfl
  | value v =>
    cases v with
    | string source =>
      simp only [run]
      cases Pattern.compile source with
      | ok => exact answer_similar rfl
      | error => exact .error (.failure _)
    | _ => exact unexpected_similar _
  | _ => exact unexpected_similar _

variable (hx : x.Similar x') (hc : Option.Rel Json.Similar c c')
include hx hc

theorem run_ordered_similar {relation : Relation} :
    SimilarResults ((ordered relation).run ev c x d) ((ordered relation).run ev' c' x' d') := by
  refine (literal_similar hx).bind fun bound bound' hbound => answer_similar ?_
  rw [compareValues?_similar hc hbound]

theorem run_modulo_similar : SimilarResults (modulo.run ev c x d) (modulo.run ev' c' x' d') := by
  refine (list_similar hx).bind ?_
  rintro items _ ⟨rfl, -, hitems⟩
  match items with
  | [divisor, remainder] =>
    refine (hitems divisor (by simp) modulo).bind fun y y' hy => ?_
    refine (hitems remainder (by simp) modulo).bind fun z z' hz => ?_
    have hremainder : remainder? c y = remainder? c' y' := by
      rw [remainder?, remainder?, toNumber?_similar hc, toNumber?_similar hy]
    have hnumber : ∀ n, isNumber n z = isNumber n z' := by
      intro n
      cases hz with
      | none => rfl
      | some h => cases h.layer <;> rfl
    rw [hremainder]
    cases remainder? c' y' with
    | none => exact answer_similar rfl
    | some n => exact answer_similar (hnumber n)
  | [] | [_] | _ :: _ :: _ :: _ => exact unexpected_similar _

/-- Only strings have a text to match, and only strings are sources of patterns. -/
theorem run_regex_similar : SimilarResults (regex.run ev c x d) (regex.run ev' c' x' d') := by
  cases hc with
  | none => exact answer_similar rfl
  | @some v w h =>
    cases h.layer with
    | array | object => exact answer_similar rfl
    | scalar =>
      cases v with
      | string text =>
        cases hx with
        | same => exact run_regex_same text
        | produced h =>
          cases h.layer with
          | scalar => exact run_regex_same text
          | array | object => exact unexpected_similar _
      | _ => exact answer_similar rfl

theorem run_present_similar : SimilarResults (present.run ev c x d) (present.run ev' c' x' d') := by
  refine (literal_similar hx).bind fun wanted wanted' hwanted => answer_similar ?_
  rw [isSome_related hc]
  exact looseEq_similar (.some (.of_scalar rfl)) hwanted

theorem run_empty_similar : SimilarResults (empty.run ev c x d) (empty.run ev' c' x' d') := by
  refine (literal_similar hx).bind fun wanted wanted' hwanted => answer_similar ?_
  rw [isEmptyValue_similar hc, truthy_similar hwanted]

theorem run_difference_similar (hd : d.Similar d') :
    SimilarResults (difference.run ev c x d) (difference.run ev' c' x' d') := by
  refine (node_similar hx).bind ?_
  rintro inner _ rfl
  have hother : Option.Rel Json.Similar (inner.selector.bind fun s => s.resolve d)
      (inner.selector.bind fun s => s.resolve d') := by
    cases inner.selector with
    | none => exact .none
    | some s =>
      rw [Option.bind_some, Option.bind_some]
      exact s.resolve_similar hd
  exact .ok (difference?_similar hc hother)

end

/-! ## Operations that call others -/

section
variable {r : Registry κ} {host : Host κ} (hr : r.HoldsBuiltins)
include hr

theorem equals_similar (hx : SimilarResults (equal.literal x) (equal.literal x'))
    (hc : Option.Rel Json.Similar c c') :
    Corresponds EvalError.Similar Eq ((r.evaluator host).equals c x d)
      ((r.evaluator host).equals c' x' d') := by
  rw [Evaluator.equals_eq_map, Evaluator.equals_eq_map,
    Registry.evaluator_equal hr (r.evaluator host), Registry.evaluator_equal hr (r.evaluator host)]
  exact (run_equal_similar hx hc).map fun _ _ h => truthy_similar h

variable (hx : x.Similar x') (hc : Option.Rel Json.Similar c c')
include hx hc

theorem someEqual_similar :
    Corresponds EvalError.Similar Eq (someEqual (r.evaluator host) c x d)
      (someEqual (r.evaluator host) c' x' d') := by
  refine (list_similar hx).bind ?_
  rintro items _ ⟨rfl, -, hitems⟩
  refine .anyM (List.forall₂_same.mpr fun y hy => .anyM ?_)
  exact (candidates_similar hc).imp fun v w hvw => equals_similar hr (hitems y hy equal) hvw

theorem run_allOf_similar :
    SimilarResults (allOf.run (r.evaluator host) c x d)
      (allOf.run (r.evaluator host) c' x' d') := by
  refine (list_similar hx).bind ?_
  rintro items _ ⟨rfl, -, hitems⟩
  refine answer_bind_similar (.allM ?_)
  refine (candidates_similar hc).imp fun v w hvw => .anyM (List.forall₂_same.mpr fun y hy => ?_)
  exact equals_similar hr (hitems y hy equal) hvw

end

/-- An operation that asks a child whether it holds is told the same. -/
theorem childHolds_similar {ev : Evaluator κ MatchError} {y : Operand κ}
    (hy : ∀ m, y = .node m → SimilarOutcomes (ev.node m c d) (ev.node m c' d')) :
    Corresponds EvalError.Similar Eq (operation.childHolds ev c d y)
      (operation.childHolds ev c' d' y) := by
  cases y with
  | node m =>
    show Corresponds _ _ (ev.holds m c d) (ev.holds m c' d')
    rw [Evaluator.holds_eq_map, Evaluator.holds_eq_map]
    exact ((hy m rfl).map fun _ _ h => truthy_similar h).mapError fun _ _ h => .nested h
  | _ => exact unexpected_similar _

/-- An operation that asks the elements of its list answers alike if what it asks of every list
corresponds. -/
theorem asking_similar (hx : x.Similar x') {ask ask' : List (Operand κ) → Except EvalError Bool}
    (h : ∀ items, x = .list items → Corresponds EvalError.Similar Eq (ask items) (ask' items))
    {f : Bool → Bool} :
    SimilarResults (operation.list x >>= fun items => ask items >>= fun b => answer (f b))
      (operation.list x' >>= fun items => ask' items >>= fun b => answer (f b)) := by
  refine (list_similar hx).bind ?_
  rintro items _ ⟨rfl, hitems, -⟩
  exact answer_bind_similar (h items hitems)

section
variable {r : Registry κ} {host : Host κ} (hr : r.HoldsBuiltins) (hx : x.Similar x')
  (hc : Option.Rel Json.Similar c c') (hd : d.Similar d')
  (hnode : ∀ m, .node m ∈ x.items → ∀ {given given'}, Option.Rel Json.Similar given given' →
    SimilarOutcomes (r.evaluate host m given d) (r.evaluate host m given' d'))
include hr hx hc hd hnode

/-- **No built-in operation can tell similar values apart**, in its context, in its operand or in
the document, if the nodes in its list cannot. -/
theorem run_similar (operation : Builtin) :
    SimilarResults (operation.run (r.evaluator host) c x d)
      (operation.run (r.evaluator host) c' x' d') := by
  have hchildren : ∀ items, x = .list items → ∀ {given given'},
      Option.Rel Json.Similar given given' → List.Forall₂ (fun y z =>
        Corresponds EvalError.Similar Eq (operation.childHolds (r.evaluator host) given d y)
          (operation.childHolds (r.evaluator host) given' d' z)) items items := by
    rintro items rfl given given' hgiven
    refine List.forall₂_same.mpr fun y hy => childHolds_similar ?_
    rintro m rfl
    exact hnode m hy hgiven
  cases operation with
  | equal => exact run_equal_similar (literal_similar hx) hc
  | notEqual => exact answer_bind_similar (equals_similar hr (literal_similar hx) hc)
  | ordered relation => exact run_ordered_similar hx hc
  | modulo => exact run_modulo_similar hx hc
  | regex => exact run_regex_similar hx hc
  | present => exact run_present_similar hx hc
  | empty => exact run_empty_similar hx hc
  | anyOf | noneOf => exact answer_bind_similar (someEqual_similar hr hx hc)
  | allOf => exact run_allOf_similar hr hx hc
  | field => exact selected_similar hx hd
  | rounded rounding => exact .ok (rounding.value?_similar hc)
  | roundedField rounding =>
    exact (selected_similar hx hd).bind fun _ _ h => .ok (rounding.value?_similar h)
  | negation =>
    refine (literal_similar hx).bind fun v w h => answer_similar ?_
    rw [truthy_similar h]
  | conjunction => exact asking_similar hx fun items h => .allM (hchildren items h .none)
  | disjunction | neither => exact asking_similar hx fun items h => .anyM (hchildren items h .none)
  | contextAnd => exact asking_similar hx fun items h => .allM (hchildren items h hc)
  | contextOr => exact asking_similar hx fun items h => .anyM (hchildren items h hc)
  | difference => exact run_difference_similar hx hc hd

end

end Builtin

/-! ## Trees -/

theorem Node.contextIn_similar (selector : Option Selector) {given given' : Option Json}
    (hgiven : Option.Rel Json.Similar given given') {d d' : Json} (hd : d.Similar d') :
    Option.Rel Json.Similar (contextIn selector given d) (contextIn selector given' d') := by
  cases hgiven with
  | none =>
    cases selector with
    | none => exact .none
    | some s =>
      show Option.Rel Json.Similar (s.resolve d) (s.resolve d')
      exact s.resolve_similar hd
  | some h => exact .some h

namespace Registry

variable {r : Registry κ} {host : Host κ} {d d' : Json}

section
variable (hr : r.HoldsBuiltins) (hd : d.Similar d')
include hr hd

theorem applied_similar {n : Node κ} {operation : Builtin}
    (hop : n.operator.body = .builtin operation) {x x' : Operand κ} (hx : x.Similar x')
    {c c' : Option Json} (hc : Option.Rel Json.Similar c c')
    (hnode : ∀ m, .node m ∈ x.items → ∀ {given given'}, Option.Rel Json.Similar given given' →
      SimilarOutcomes (r.evaluate host m given d) (r.evaluate host m given' d')) :
    SimilarOutcomes (n.applied (r.perform host) c x d) (n.applied (r.perform host) c' x' d') := by
  rw [Node.applied, Node.applied, perform_builtin hop, perform_builtin hop]
  exact (Builtin.run_similar hr hx hc hd hnode operation).mapError fun _ _ h => h.report _ _ hc

/-- **Evaluation respects similarity** of the document and of the context. -/
theorem evaluate_similar {n : Node κ} (hn : n.BuiltinOnly)
    (hliterals : ∀ m ∈ n.nodes, m.operand.ScalarLiterals) {given given' : Option Json}
    (hgiven : Option.Rel Json.Similar given given') :
    SimilarOutcomes (r.evaluate host n given d) (r.evaluate host n given' d') := by
  induction n using Node.induct generalizing given given' with
  | step n ih =>
    obtain ⟨operation, hop⟩ := hn n n.self_mem_nodes
    have hx : n.operand.Similar n.operand := .same (hliterals n n.self_mem_nodes)
    have hc := Node.contextIn_similar n.selector hgiven hd
    have hchildren : ∀ m ∈ n.operand.children, ∀ {given given'},
        Option.Rel Json.Similar given given' →
        SimilarOutcomes (r.evaluate host m given d) (r.evaluate host m given' d') := by
      intro m hm given given' h
      exact ih m hm (Node.forall_nodes_child hn hm) (Node.forall_nodes_child hliterals hm) h
    have hitems : ∀ m, .node m ∈ n.operand.items → ∀ {given given'},
        Option.Rel Json.Similar given given' →
        SimilarOutcomes (r.evaluate host m given d) (r.evaluate host m given' d') :=
      fun m hm => hchildren m (Operand.mem_children_of_mem_items hm)
    cases hoperand : n.operand.node? with
    | none =>
      rw [evaluate_direct hr hn _ _ hoperand, evaluate_direct hr hn _ _ hoperand]
      exact applied_similar hr hd hop hx hc hitems
    | some inner =>
      have hinner := Operand.node?_eq_some.mp hoperand
      have hmem : inner ∈ n.operand.children := hinner ▸ List.mem_singleton_self inner
      cases hside : n.operator.rightHanded || inner.operator.rightHanded with
      | true =>
        rw [evaluate_rightHanded hr hn _ _ hinner hside,
          evaluate_rightHanded hr hn _ _ hinner hside]
        refine (hchildren inner hmem hc).bind fun v w hvw => ?_
        refine applied_similar hr hd hop (Operand.similar_ofValue hvw) hc fun m hm => ?_
        rw [Operand.items_ofValue] at hm
        exact absurd hm List.not_mem_nil
      | false =>
        rw [evaluate_chained hr hn _ _ hinner hside, evaluate_chained hr hn _ _ hinner hside]
        exact (applied_similar hr hd hop hx hc hitems).bind fun v w hvw => hchildren inner hmem hvw

end

end Registry

/-- **The order of keys in documents is irrelevant.** With their keys in another order, at any
depth, a document and a context give the same value but for the order of keys, or else the same
failure, reported of the same operator and operand. So a document matches in both orders or in
neither. -/
theorem Filter.evaluate_reordered {raw : Json} {f : Filter κ}
    (hf : ofValue Registry.defaults raw = .ok f) (host : Host κ) {context context' : Option Json}
    (hcontext : Option.Rel Json.Similar context context') {document document' : Json}
    (hdocument : document.Similar document') :
    SimilarOutcomes (f.evaluate host context document) (f.evaluate host context' document') ∧
      Corresponds MatchError.Similar Eq (f.matchesIn host context document)
        (f.matchesIn host context' document') := by
  obtain ⟨hregistry, hformed⟩ := formed_of_ofValue hf
  have hevaluate : SimilarOutcomes (f.evaluate host context document)
      (f.evaluate host context' document') := by
    rw [evaluate, evaluate, hregistry]
    refine Registry.evaluate_similar Registry.defaults_holdsBuiltins hdocument
      (Registry.builtinOnly_of_formed hformed) (fun m hm v hv => ?_) hcontext
    exact (hformed m hm).fits.isContainer_of_literal hv
  exact ⟨hevaluate, hevaluate.map fun _ _ h => truthy_similar h⟩

/-- Two fields with the same array of objects are equal, whichever order the keys are put into. -/
theorem Filter.evaluate_reordered_fields :
    ∃ (f : Filter Empty) (document document' : Json),
      ofValue Registry.defaults (.object [("a", .object [("$val", .string "b")])]) = .ok f ∧
      document = .object [("a", .array [.object [("x", .bool true), ("y", .null)]]),
        ("b", .array [.object [("x", .bool true), ("y", .null)]])] ∧
      document' = .object [("b", .array [.object [("y", .null), ("x", .bool true)]]),
        ("a", .array [.object [("x", .bool true), ("y", .null)]])] ∧
      document.Similar document' ∧
      f.matchesIn Host.none none document = .ok true ∧
      f.matchesIn Host.none none document' = .ok true := by
  have hitem : (Json.object [("x", .bool true), ("y", .null)]).Distinct :=
    .object (by decide) (List.forall_mem_cons.mpr
      ⟨.scalar rfl, List.forall_mem_singleton.mpr (.scalar rfl)⟩)
  have hitems : (Json.array [.object [("x", .bool true), ("y", .null)]]).Distinct :=
    .array (List.forall_mem_singleton.mpr hitem)
  have hdocument : (Json.object [("a", .array [.object [("x", .bool true), ("y", .null)]]),
      ("b", .array [.object [("x", .bool true), ("y", .null)]])]).Distinct :=
    .object (by decide) (List.forall_mem_cons.mpr ⟨hitems, List.forall_mem_singleton.mpr hitems⟩)
  -- first the two fields change places, then two keys inside the array under one of them
  have hsimilar : (Json.object [("a", .array [.object [("x", .bool true), ("y", .null)]]),
      ("b", .array [.object [("x", .bool true), ("y", .null)]])]).Similar
      (.object [("b", .array [.object [("y", .null), ("x", .bool true)]]),
        ("a", .array [.object [("x", .bool true), ("y", .null)]])]) :=
    ⟨hdocument, .tail (.single (.keys (.swap _ _ _)))
      (.member [] _ "b" (.item [] [] (.keys (.swap _ _ _))))⟩
  obtain ⟨f, hf, hmatches⟩ : ∃ f : Filter Empty,
      ofValue Registry.defaults (.object [("a", .object [("$val", .string "b")])]) = .ok f ∧
      f.matchesIn Host.none none
        (.object [("a", .array [.object [("x", .bool true), ("y", .null)]]),
          ("b", .array [.object [("x", .bool true), ("y", .null)]])]) = .ok true :=
    ⟨_, rfl, rfl⟩
  have hanswer := (Filter.evaluate_reordered hf Host.none .none hsimilar).2
  rw [hmatches] at hanswer
  refine ⟨f, _, _, hf, rfl, rfl, hsimilar, hmatches, ?_⟩
  generalize f.matchesIn Host.none none _ = answer at hanswer ⊢
  cases hanswer with
  | ok h => rw [← h]

end DocFilter
