import DocFilter.Proofs.Field

/-!
# The connectives of filters

`$and`, `$or` and `$nor` ask the filters in their lists from left to right, each of them about the
whole document. `Connective.answer` is what comes out: the answers are asked for one after the
other, until one of them decides the outcome or one of them is a failure, which is then the
outcome. The operations that group conditions about the value at hand, `$ctxAnd` and `$ctxOr`, are
the same connectives in another context (`Registry.evaluate_connective`).

A filter in the list of a connective is compiled as it is alone, so the payoff is about filters:

> `Filter.matchesIn_connective`: queries that compile also compile in the list of a connective,
> also under a field, and there the answer is the connective of their own answers, whatever the
> context.
-/

namespace DocFilter

variable {κ : Type}

/-- The connectives of filters: all of them hold, some of them does, none of them does. -/
inductive Connective where
  | all
  | any
  | neither
  deriving DecidableEq, Repr

namespace Connective

variable {ε α β : Type}

/-- The operation that asks filters about the whole document. -/
def operation : Connective → Builtin
  | all => .conjunction
  | any => .disjunction
  | neither => .neither

/-- What comes out when the answers of `xs` are asked for from left to right: the first one that
decides is the last one asked for, and a failure before that is what comes out. -/
def answer (k : Connective) (holds : α → Except ε Bool) (xs : List α) : Except ε Bool :=
  match k with
  | all => xs.allM holds
  | any => xs.anyM holds
  | neither => (xs.anyM holds).map (!·)

theorem answer_congr (k : Connective) {p q : α → Except ε Bool} {xs : List α}
    (h : ∀ x ∈ xs, p x = q x) : k.answer p xs = k.answer q xs := by
  cases k with
  | all => exact allM_congr h
  | any => exact anyM_congr h
  | neither => exact congrArg (Except.map (!·)) (anyM_congr h)

theorem answer_map (k : Connective) (f : β → α) (p : α → Except ε Bool) (xs : List β) :
    k.answer p (xs.map f) = k.answer (fun x => p (f x)) xs := by
  cases k with
  | all => exact allM_map f p xs
  | any => exact anyM_map f p xs
  | neither => exact congrArg (Except.map (!·)) (anyM_map f p xs)

/-- A connective passes failures on, so they can be told in other words before or after it. -/
theorem answer_mapError {ε' : Type} (k : Connective) (g : ε → ε') (p : α → Except ε Bool)
    (xs : List α) :
    k.answer (fun x => (p x).mapError g) xs = (k.answer p xs).mapError g := by
  cases k with
  | all => exact allM_mapError g p xs
  | any => exact anyM_mapError g p xs
  | neither =>
    show ((xs.anyM fun x => (p x).mapError g).map (!·)) = _
    rw [anyM_mapError]
    show _ = ((xs.anyM p).map (!·)).mapError g
    cases xs.anyM p <;> rfl

/-- The answer after which a connective asks for the next one. -/
def proceeds : Connective → Bool
  | all => true
  | any | neither => false

theorem answer_cons_proceeds (k : Connective) {p : α → Except ε Bool} {x : α}
    (hx : p x = .ok k.proceeds) (xs : List α) : k.answer p (x :: xs) = k.answer p xs := by
  cases k with
  | all => rw [answer, List.allM_cons, hx]; rfl
  | any => rw [answer, List.anyM_cons, hx]; rfl
  | neither => rw [answer, List.anyM_cons, hx]; rfl

theorem answer_cons_error (k : Connective) {p : α → Except ε Bool} {x : α} {e : ε}
    (hx : p x = .error e) (xs : List α) : k.answer p (x :: xs) = .error e := by
  cases k with
  | all => rw [answer, List.allM_cons, hx]; rfl
  | any => rw [answer, List.anyM_cons, hx]; rfl
  | neither => rw [answer, List.anyM_cons, hx]; rfl

/-- A failure that is met before the outcome is decided is the outcome. -/
theorem answer_eq_error (k : Connective) {p : α → Except ε Bool} {x : α} {e : ε}
    (hx : p x = .error e) (after : List α) :
    ∀ {before : List α}, (∀ y ∈ before, p y = .ok k.proceeds) →
      k.answer p (before ++ x :: after) = .error e
  | [], _ => k.answer_cons_error hx after
  | y :: before, h => by
    have hrest := answer_eq_error k hx after fun z hz => h z (List.mem_cons_of_mem y hz)
    rw [List.cons_append, k.answer_cons_proceeds (h y List.mem_cons_self), hrest]

end Connective

/-! ## Evaluating -/

/-- The connective that an operation is, in whatever context it asks. -/
def Builtin.connective? : Builtin → Option Connective
  | conjunction | contextAnd => some .all
  | disjunction | contextOr => some .any
  | neither => some .neither
  | _ => none

/-- An operation that is a connective asks the nodes in its list. -/
theorem Builtin.run_connective {operation : Builtin} {k : Connective}
    (hk : operation.connective? = some k) {context given : Option Json}
    (hasks : operation.asks? context = some given) (ev : Evaluator κ MatchError)
    (nodes : List (Node κ)) (document : Json) :
    operation.run ev context (.list (nodes.map .node)) document =
      k.answer (fun m => ev.holds m given document) nodes >>= answer := by
  have hall : (nodes.map Operand.node).allM (operation.childHolds ev given document) =
      nodes.allM fun m => ev.holds m given document := allM_map _ _ _
  have hany : (nodes.map Operand.node).anyM (operation.childHolds ev given document) =
      nodes.anyM fun m => ev.holds m given document := anyM_map _ _ _
  cases operation with
  | conjunction | contextAnd =>
    cases hk
    cases hasks
    simp only [run, list, ok_bind, hall]
    rfl
  | disjunction | contextOr =>
    cases hk
    cases hasks
    simp only [run, list, ok_bind, hany]
    rfl
  | neither =>
    cases hk
    cases hasks
    simp only [run, list, ok_bind, hany]
    exact (map_bind _ _ _).symm
  | _ => cases hk

namespace Registry

variable {r : Registry κ}

/-- **A connective of nodes.** The reports of the nodes are unwrapped again, so they come out as
they were made. -/
theorem evaluate_connective (hr : r.HoldsBuiltins) (host : Host κ) {n : Node κ} (hn : n.BuiltinOnly)
    {operation : Builtin} (hop : n.operator.body = .builtin operation) {k : Connective}
    (hk : operation.connective? = some k) {nodes : List (Node κ)}
    (hx : n.operand = .list (nodes.map .node)) {given context : Option Json} {document : Json}
    (hasks : operation.asks? (Node.contextIn n.selector given document) = some context) :
    r.evaluate host n given document =
      (k.answer (fun m => (r.evaluate host m context document).map truthy) nodes).map
        fun b => some (.bool b) := by
  have hdirect : n.operand.node? = none := by
    rw [hx]
    rfl
  -- the reports stay wrapped while the connective asks, and only its outcome is unwrapped
  have hholds : k.answer (fun m => (r.evaluator host).holds m context document) nodes =
      (k.answer (fun m => (r.evaluate host m context document).map truthy) nodes).mapError
        .nested := by
    rw [← Connective.answer_mapError]
    exact k.answer_congr fun m _ => (r.evaluator host).holds_eq_map m context document
  rw [evaluate_direct hr hn _ _ hdirect, Node.applied, perform_builtin hop, hx,
    Builtin.run_connective hk hasks, hholds]
  cases k.answer (fun m => (r.evaluate host m context document).map truthy) nodes <;> rfl

/-! ## Compiling -/

/-- Queries that compile are compiled alike as the elements of a list. -/
theorem elementsOf_filters {queries : List Json} {filters : List (Filter κ)}
    (h : queries.mapM (Filter.ofValue r) = .ok filters) :
    r.elementsOf queries = .ok (filters.map fun f => .node f.root) := by
  have helement : ∀ q ∈ queries,
      r.elementOf q = (Filter.ofValue r q).map fun f => .node f.root := by
    intro q hq
    obtain ⟨f, -, hf⟩ := exists_of_mapM_eq_ok h q hq
    rw [Filter.ofValue_eq] at hf ⊢
    have hcontainer : q.isContainer = true := by
      cases q with
      | array | object => simp only [Json.isContainer]
      | _ => cases hf
    rw [elementOf_container r hcontainer]
    cases r.nodeOf q false <;> rfl
  rw [elementsOf_eq_mapM, mapM_congr helement, mapM_then_map, h]
  rfl

/-- An operator of lists that bounds their length from below only takes such queries. -/
theorem operandOf_filters {op : Operator κ} (hop : op.kind = .array) (hmost : op.most = none)
    {queries : List Json} (hleast : op.least ≤ queries.length) {filters : List (Filter κ)}
    (h : queries.mapM (Filter.ofValue r) = .ok filters) (selected : Bool) :
    r.operandOf (.array queries) op selected =
      .ok (.list (filters.map fun f => .node f.root)) := by
  have hcount : checkCount op queries.length = .ok () := by
    refine checkCount_eq_ok.mpr ⟨hleast, fun n hn => ?_⟩
    cases hmost.symm.trans hn
  rw [operandOf_array, listOperand_array hop, hcount, elementsOf_filters h]
  rfl

end Registry

/-! ## Filters -/

/-- **The connectives of filters.** Take queries that compile, at least two. In the list of a
connective, as a filter or under a field, they compile, and in whatever context the answer is the
connective of the answers that the queries give of their own. -/
theorem Filter.matchesIn_connective (k : Connective) {queries : List Json}
    (htwo : 2 ≤ queries.length) {filters : List (Filter κ)}
    (hfilters : queries.mapM (Filter.ofValue Registry.defaults) = .ok filters)
    {key : Option String}
    (hkey : ∀ name ∈ key, (Registry.defaults : Registry κ).get? name = none) :
    ∃ f, Filter.ofValue Registry.defaults
        (.under key (.object [(k.operation.name, .array queries)])) = .ok f ∧
      ∀ host context document,
        f.matchesIn host context document =
            k.answer (fun g => g.matches? host document) filters ∧
          ∀ before g after e, filters = before ++ g :: after →
            (∀ m ∈ before, m.matches? host document = .ok k.proceeds) →
            g.matches? host document = .error e → f.matchesIn host context document = .error e := by
  have hr := Registry.defaults_holdsBuiltins (κ := κ)
  have hshape : (k.operation.operator : Operator κ).kind = .array ∧
      (k.operation.operator : Operator κ).most = none ∧
      (k.operation.operator : Operator κ).least = 2 ∧
      (k.operation.operator : Operator κ).isReference = false := by
    cases k <;> exact ⟨rfl, rfl, rfl, rfl⟩
  obtain ⟨hkind, hmost, hleast, href⟩ := hshape
  have hf := Filter.ofValue_under_operator hkey (hr k.operation) href (.array queries)
  rw [Registry.operandOf_filters hkind hmost (hleast ▸ htwo) hfilters] at hf
  refine ⟨_, hf, fun host context document => ?_⟩
  suffices h : Filter.matchesIn _ host context document =
      k.answer (fun g => g.matches? host document) filters by
    refine ⟨h, ?_⟩
    rintro before g after e rfl hbefore hg
    rw [h]
    exact k.answer_eq_error (p := fun m => m.matches? host document) hg after hbefore
  obtain ⟨-, hformed⟩ := Filter.formed_of_ofValue hf
  have hnodes : Operand.list (filters.map fun g => .node g.root) =
      .list ((filters.map (·.root)).map .node) := by
    rw [List.map_map]
    rfl
  have hasks : k.operation.asks? (Node.contextIn (key.map Selector.mk) context document) =
      some none := by
    cases k <;> rfl
  have hconnective : k.operation.connective? = some k := by
    cases k <;> rfl
  have hevaluate := Registry.evaluate_connective hr host
    (Registry.builtinOnly_of_formed hformed) rfl hconnective hnodes hasks
  -- a filter carries the registry it is compiled with, so alone it asks as it is asked here
  have hown : ∀ g ∈ filters, (Registry.defaults.evaluate host g.root none document).map truthy =
      g.matches? host document := by
    intro g hg
    obtain ⟨q, -, hq⟩ := exists_of_mem_mapM_eq_ok hfilters g hg
    obtain ⟨hregistry, -⟩ := Filter.formed_of_ofValue hq
    rw [Filter.matches?, Filter.matchesIn, Filter.evaluate, hregistry]
  rw [Filter.matchesIn, Filter.evaluate, hevaluate, k.answer_map, k.answer_congr hown]
  cases k.answer (fun g => g.matches? host document) filters <;> rfl

/-- A conjunction under a field, whose second filter fails on a pattern of the document. -/
theorem Filter.matchesIn_connective_failing :
    ∃ f, Filter.ofValue (Registry.defaults : Registry Empty) (.object [("f", .object [("$and",
        .array [.object [("a", .bool true)],
          .object [("b", .object [("$regex", .object [("$val", .string "c")])])]])])]) = .ok f ∧
      f.matchesIn Host.none (some .null)
          (.object [("a", .bool true), ("b", .string "x"), ("c", .bool true)]) =
        .error ⟨"$regex", "$val(\"c\")", some (.string "x"),
          .unexpectedOperand "$regex" .pattern⟩ := by
  obtain ⟨a, b, hfilters, ha, hb⟩ : ∃ a b, [Json.object [("a", .bool true)],
        .object [("b", .object [("$regex", .object [("$val", .string "c")])])]].mapM
          (Filter.ofValue (Registry.defaults : Registry Empty)) = .ok [a, b] ∧
      a.matches? Host.none
          (.object [("a", .bool true), ("b", .string "x"), ("c", .bool true)]) = .ok true ∧
      b.matches? Host.none
          (.object [("a", .bool true), ("b", .string "x"), ("c", .bool true)]) =
        .error ⟨"$regex", "$val(\"c\")", some (.string "x"),
          .unexpectedOperand "$regex" .pattern⟩ := ⟨_, _, rfl, rfl, rfl⟩
  have hkey : ∀ name ∈ some "f", (Registry.defaults : Registry Empty).get? name = none := by
    rintro name ⟨⟩
    rfl
  obtain ⟨f, hf, hanswer⟩ := Filter.matchesIn_connective .all (by decide) hfilters hkey
  refine ⟨f, hf, (hanswer Host.none _ _).2 [a] b [] _ rfl ?_ hb⟩
  intro m hm
  obtain rfl := List.mem_singleton.mp hm
  exact ha

end DocFilter
