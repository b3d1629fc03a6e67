import DocFilter.Proofs.Connectives

/-!
# Conditions side by side

The members of a filter, and the conditions in an object under a field, are compiled one by one
(`Registry.partOf`) and then conjoined about one context. Each of them can also be written as a
filter of its own, under the same field if there is one. The conjunction of these filters is what
the object means:

> `Filter.matchesIn_siblings`: an object of two members or more compiles exactly when each member
> does alone, and its answer is the conjunction of theirs, from left to right.

The object finds the value of its field once and each of the single filters finds it anew, which
comes to the same by `Registry.evaluate_select`.
-/

namespace DocFilter

variable {κ : Type}

namespace Registry

variable {r : Registry κ} {key : Option String}

/-- Compiles one of the members of an object, as a filter or as a condition on a field. -/
def partOf (r : Registry κ) (key : Option String) (m : String × Json) :
    Except QueryError (Node κ) :=
  match key with
  | some _ => r.conditionOf m.1 m.2
  | none => r.memberOf m.1 m.2 false

end Registry

/-- The node, told to select a field if there is one. -/
def Node.under : Option String → Node κ → Node κ
  | some field, n => { n with selector := some ⟨field⟩ }
  | none, n => n

namespace Registry

variable {r : Registry κ} {key : Option String}

/-- Under a field, a part does not select by itself. -/
theorem partOf_selector {m : String × Json} {n : Node κ} {field : String}
    (h : r.partOf (some field) m = .ok n) : n.selector = none :=
  boundOf_selector ((boundOf_single r m.1 m.2).trans h)

/-- A part is evaluated in the context that its field finds, if it stands under a field. -/
theorem evaluate_under {m : String × Json} {n : Node κ} (h : r.partOf key m = .ok n)
    (host : Host κ) (given : Option Json) (document : Json) :
    r.evaluate host (n.under key) given document =
      r.evaluate host n (Node.contextIn (key.map Selector.mk) given document) document := by
  cases key with
  | none => rw [Node.under, Option.map_none, Node.contextIn_none]
  | some field => exact r.evaluate_select host (partOf_selector h) _ given document

/-- The conditions on a field are all operators when each of them is compiled. -/
theorem checkOperators_of_conditions {members : Members} {nodes : List (Node κ)}
    (h : (members.mapM fun m => r.conditionOf m.1 m.2) = .ok nodes) :
    r.checkOperators members = .ok () := by
  refine checkOperators_eq_ok.mpr fun m hm => ?_
  obtain ⟨n, -, hn⟩ := exists_of_mapM_eq_ok h m hm
  rw [contains]
  cases hop : r.get? m.1 with
  | some op => rfl
  | none =>
    rw [conditionOf, hop] at hn
    cases hn

theorem HoldsBuiltins.conjoin_eq_ok (hr : r.HoldsBuiltins) {nodes : List (Node κ)}
    (htwo : 2 ≤ nodes.length) {n : Node κ} (h : r.conjoin nodes = .ok n) :
    n = .plain Builtin.contextAnd.operator (.list (nodes.map .node)) := by
  match nodes, htwo with
  | n₁ :: n₂ :: rest, _ =>
    rw [hr.conjoin_several] at h
    exact (Except.ok.inj h).symm

end Registry

namespace Filter

variable {r : Registry κ} {key : Option String} (hkey : ∀ field ∈ key, r.get? field = none)
include hkey

/-- A single member is its part. -/
theorem ofValue_part (m : String × Json) :
    ofValue r (.under key (.object [m])) =
      (r.partOf key m).map fun n => ⟨n.under key, r⟩ := by
  cases key with
  | none =>
    rw [Json.under, ofValue_eq, Registry.nodeOf_single]
    rfl
  | some field =>
    rw [Json.under, ofValue_field (hkey field rfl), Registry.boundOf_single]
    rfl

/-- Members together are the conjunction of their parts. -/
theorem ofValue_parts {members : Members} {f : Filter κ} :
    ofValue r (.under key (.object members)) = .ok f ↔
      ∃ nodes n, members.mapM (r.partOf key) = .ok nodes ∧ r.conjoin nodes = .ok n ∧
        f = ⟨n.under key, r⟩ := by
  cases key with
  | none =>
    rw [Json.under, ofValue_eq, map_eq_ok]
    simp only [Registry.nodeOf, Registry.membersOf_eq_mapM, bind_eq_ok]
    constructor
    · rintro ⟨n, ⟨nodes, hnodes, hn⟩, rfl⟩
      exact ⟨nodes, n, hnodes, hn, rfl⟩
    · rintro ⟨nodes, n, hnodes, hn, rfl⟩
      exact ⟨n, ⟨nodes, hnodes, hn⟩, rfl⟩
  | some field =>
    rw [Json.under, ofValue_field (hkey field rfl), map_eq_ok]
    simp only [Registry.boundOf, Registry.conditionsOf_eq_mapM, bind_eq_ok]
    constructor
    · rintro ⟨n, ⟨-, -, nodes, hnodes, hn⟩, rfl⟩
      exact ⟨nodes, n, hnodes, hn, rfl⟩
    · rintro ⟨nodes, n, hnodes, hn, rfl⟩
      exact ⟨n, ⟨(), Registry.checkOperators_of_conditions hnodes, nodes, hnodes, hn⟩, rfl⟩

/-- The members are compiled together when each of them is. -/
theorem exists_ofValue_parts (hr : r.HoldsBuiltins) {members : Members} (hsome : members ≠ []) :
    (∃ f, ofValue r (.under key (.object members)) = .ok f) ↔
      ∀ m ∈ members, ∃ g, ofValue r (.under key (.object [m])) = .ok g := by
  have heach : (∀ m ∈ members, ∃ g, ofValue r (.under key (.object [m])) = .ok g) ↔
      ∃ nodes, members.mapM (r.partOf key) = .ok nodes := by
    rw [exists_mapM_eq_ok]
    refine forall₂_congr fun m _ => ?_
    simp only [ofValue_part hkey, map_eq_ok]
    constructor
    · rintro ⟨g, n, hn, -⟩
      exact ⟨n, hn⟩
    · rintro ⟨n, hn⟩
      exact ⟨_, n, hn, rfl⟩
  rw [heach]
  simp only [ofValue_parts hkey]
  constructor
  · rintro ⟨f, nodes, n, hnodes, -, -⟩
    exact ⟨nodes, hnodes⟩
  · rintro ⟨nodes, hnodes⟩
    -- conjoining fails only when there is nothing to conjoin
    have hlength := length_of_mapM_eq_ok hnodes
    match nodes, hlength with
    | [], hlength => exact absurd (List.length_eq_zero_iff.mp hlength.symm) hsome
    | [n], _ => exact ⟨_, [n], n, hnodes, rfl, rfl⟩
    | n₁ :: n₂ :: rest, _ =>
      exact ⟨_, _, _, hnodes, hr.conjoin_several n₁ n₂ rest, rfl⟩

end Filter

/-- **Conditions side by side are a conjunction.** An object of two members or more, as a filter or
under a field, compiles exactly when each of its members does alone; and its answer is the
conjunction of theirs in the same context, from left to right. -/
theorem Filter.matchesIn_siblings {key : Option String}
    (hkey : ∀ field ∈ key, (Registry.defaults : Registry κ).get? field = none) {members : Members}
    (htwo : 2 ≤ members.length) :
    ((∃ f, Filter.ofValue (Registry.defaults : Registry κ) (.under key (.object members)) = .ok f) ↔
        ∀ m ∈ members, ∃ g, Filter.ofValue (Registry.defaults : Registry κ)
          (.under key (.object [m])) = .ok g) ∧
      ∀ (f : Filter κ) (gs : List (Filter κ)),
        Filter.ofValue Registry.defaults (.under key (.object members)) = .ok f →
        (members.mapM fun m => Filter.ofValue Registry.defaults (.under key (.object [m]))) =
          .ok gs →
        ∀ host context document, f.matchesIn host context document =
          gs.allM fun g => g.matchesIn host context document := by
  have hr := Registry.defaults_holdsBuiltins (κ := κ)
  have hsome : members ≠ [] := by
    rintro rfl
    exact absurd htwo (by decide)
  refine ⟨Filter.exists_ofValue_parts hkey hr hsome, fun f gs hf hgs host context document => ?_⟩
  obtain ⟨-, hformed⟩ := Filter.formed_of_ofValue hf
  obtain ⟨nodes, n, hnodes, hn, rfl⟩ := (Filter.ofValue_parts hkey).mp hf
  -- the single filters are the nodes, each told to select the field
  simp only [Filter.ofValue_part hkey, mapM_then_map, hnodes] at hgs
  obtain rfl := Except.ok.inj hgs
  have hroot : n.under key =
      ⟨key.map Selector.mk, Builtin.contextAnd.operator, .list (nodes.map .node)⟩ := by
    rw [hr.conjoin_eq_ok (length_of_mapM_eq_ok hnodes ▸ htwo) hn]
    cases key <;> rfl
  rw [hroot] at hformed
  have hconnective : Builtin.contextAnd.connective? = some .all := rfl
  have hasks : Builtin.contextAnd.asks?
      (Node.contextIn (key.map Selector.mk) context document) =
        some (Node.contextIn (key.map Selector.mk) context document) := rfl
  have htogether := Registry.evaluate_connective hr host
    (Registry.builtinOnly_of_formed hformed) rfl hconnective rfl hasks
  -- each part is asked in the context that it finds alone under the field
  have heach : ∀ m ∈ nodes, (Registry.defaults.evaluate host m
        (Node.contextIn (key.map Selector.mk) context document) document).map truthy =
      (⟨m.under key, Registry.defaults⟩ : Filter κ).matchesIn host context document := by
    intro m hm
    obtain ⟨member, -, hmember⟩ := exists_of_mem_mapM_eq_ok hnodes m hm
    rw [Filter.matchesIn, Filter.evaluate, Registry.evaluate_under hmember]
  rw [allM_map, ← allM_congr heach, Filter.matchesIn, Filter.evaluate, hroot, htogether]
  show _ = Connective.all.answer _ nodes
  cases Connective.all.answer _ nodes <;> rfl

/-- A reference and a negation on a field that is absent, as is the field referred to. -/
theorem Filter.matchesIn_siblings_absent :
    ∃ f, Filter.ofValue (Registry.defaults : Registry Empty) (.object [("f", .object
        [("$val", .string "g"), ("$not", .object [("$exists", .bool true)])])]) = .ok f ∧
      f.matchesIn Host.none none (.object [("h", .null)]) = .ok true := by
  have hkey : ∀ field ∈ some "f", (Registry.defaults : Registry Empty).get? field = none := by
    rintro field ⟨⟩
    rfl
  have htwo : 2 ≤ [("$val", Json.string "g"),
    ("$not", .object [("$exists", .bool true)])].length := by decide
  obtain ⟨hcompiles, hanswer⟩ := Filter.matchesIn_siblings hkey htwo
  obtain ⟨g₁, g₂, h₁, h₂, hmatches⟩ : ∃ g₁ g₂ : Filter Empty,
      Filter.ofValue Registry.defaults (.under (some "f") (.object [("$val", .string "g")])) =
        .ok g₁ ∧
      Filter.ofValue Registry.defaults (.under (some "f")
        (.object [("$not", .object [("$exists", .bool true)])])) = .ok g₂ ∧
      ([g₁, g₂].allM fun g => g.matchesIn Host.none none (.object [("h", .null)])) = .ok true :=
    ⟨_, _, rfl, rfl, rfl⟩
  obtain ⟨f, hf⟩ := hcompiles.mpr (by simp [h₁, h₂])
  refine ⟨f, hf, (hanswer f [g₁, g₂] hf ?_ Host.none none _).trans hmatches⟩
  rw [List.mapM_cons, List.mapM_cons, h₁, h₂]
  rfl

end DocFilter
