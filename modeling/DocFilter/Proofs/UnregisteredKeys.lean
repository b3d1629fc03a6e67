import DocFilter.Proofs.Field
import DocFilter.Proofs.Renaming

/-!
# Keys that name no operator

What becomes of a key that the registry does not hold depends on where it stands, and not on how
it is written: a key that looks like an operator, such as a misspelt one, is no exception. Among
the conditions on a field, and where a filter may not select, it fails the query. In all other
filters it is the name of a field:

> `Filter.ofValue_unregistered`: the query fails in the former places; in the latter a query that
> compiles selects by the key; and it compiles exactly when it does with another unregistered key.

The places are readings of the query, so they may be nested in any way that the compiler follows.
-/

namespace DocFilter

variable {κ : Type}

namespace Registry

variable {r : Registry κ} {members : Members} {key : String} {raw : Json}

/-- The conditions on a field must all be operators. -/
theorem boundOf_unregistered (hmem : (key, raw) ∈ members) (hkey : r.get? key = none) (n : Node κ) :
    r.boundOf (.object members) ≠ .ok n := by
  intro h
  obtain ⟨⟨⟩, hcheck, -⟩ := bind_eq_ok.mp h
  have hcontains := checkOperators_eq_ok.mp hcheck _ hmem
  rw [contains, hkey] at hcontains
  exact Bool.false_ne_true hcontains

/-- A filter that may not select fails on a field. -/
theorem nodeOf_disabled_unregistered (hmem : (key, raw) ∈ members) (hkey : r.get? key = none)
    (n : Node κ) : r.nodeOf (.object members) true ≠ .ok n := by
  intro h
  obtain ⟨m, hm, -⟩ := nodeOf_member h hmem
  simp only [memberOf, hkey] at hm
  cases hm

/-- A filter that may select has a node for each of its fields. -/
theorem nodeOf_selects (hmem : (key, raw) ∈ members) (hkey : r.get? key = none) {n : Node κ}
    (h : r.nodeOf (.object members) false = .ok n) : Selects n.nodes ⟨key⟩ := by
  obtain ⟨m, hm, hkeeps⟩ := nodeOf_member h hmem
  simp only [memberOf, hkey] at hm
  rw [if_neg Bool.false_ne_true, fieldOf_eq] at hm
  obtain ⟨body, -, hm⟩ := bind_eq_ok.mp hm
  cases hm
  exact ⟨_, hkeeps _ (Node.self_mem_nodes _), rfl⟩

/-- Replacing a key that is not registered by another one changes no look-up. -/
theorem unmoved_replace {other : String} (hkey : r.get? key = none) (hother : r.get? other = none) :
    r.Unmoved fun k => if k = key then other else k := by
  intro k
  show r.get? (if k = key then other else k) = r.get? k
  by_cases hk : k = key
  · rw [if_pos hk, hother, hk, hkey]
  · rw [if_neg hk]

end Registry

/-- **Where an unregistered key fails, and where it is a field.** It fails the query among the
conditions on a field and in a filter that may not select; in a filter that may, a query that
compiles selects by it; and the query compiles exactly when it does with any other unregistered key
in its place. -/
theorem Filter.ofValue_unregistered (r : Registry κ) (query : Json) {members : Members}
    {key : String} {raw : Json} (hmem : (key, raw) ∈ members) (hkey : r.get? key = none) :
    (r.Reads query (.field (.object members)) ∨ r.Reads query (.filter (.object members) true) →
        ∃ e, Filter.ofValue r query = .error e) ∧
      (r.Reads query (.filter (.object members) false) →
        ∀ f, Filter.ofValue r query = .ok f → ∃ m ∈ f.root.nodes, m.selector = some ⟨key⟩) ∧
      ∀ other, r.get? other = none →
        ((∃ f, Filter.ofValue r (query.rename fun k => if k = key then other else k) = .ok f) ↔
          ∃ f, Filter.ofValue r query = .ok f) := by
  refine ⟨fun hreads => ?_, fun hreads f hf => ?_, fun other hother => ?_⟩
  · cases hf : Filter.ofValue r query with
    | error e => exact ⟨e, rfl⟩
    | ok f =>
      obtain ⟨n, hn⟩ := Filter.exists_ofValue.mp ⟨f, hf⟩
      rcases hreads with hreads | hreads
      · obtain ⟨ms, hms, -⟩ := Registry.compiled_of_reads hreads hn
        obtain ⟨m, hm, -⟩ := Registry.compiled_field_eq_ok.mp hms
        exact absurd hm (Registry.boundOf_unregistered hmem hkey m)
      · obtain ⟨ms, hms, -⟩ := Registry.compiled_of_reads hreads hn
        obtain ⟨m, hm, -⟩ := Registry.compiled_filter_eq_ok.mp hms
        exact absurd hm (Registry.nodeOf_disabled_unregistered hmem hkey m)
  · obtain ⟨n, hn, hf⟩ := bind_eq_ok.mp hf
    cases hf
    obtain ⟨ms, hms, hkept⟩ := Registry.compiled_of_reads hreads hn
    obtain ⟨m, hm, rfl⟩ := Registry.compiled_filter_eq_ok.mp hms
    exact hkept ⟨key⟩ (Registry.nodeOf_selects hmem hkey hm)
  · rw [Filter.exists_ofValue, Filter.exists_ofValue,
      Registry.nodeOf_rename (Registry.unmoved_replace hkey hother)]
    exact exists_renamed_eq_ok

/-- A misspelt operator under a field fails, and one at the top becomes a field. -/
theorem Filter.ofValue_unregistered_misspelt :
    (∃ e, Filter.ofValue (Registry.defaults : Registry Empty)
        (.object [("a", .object [("$inn", .bool true)])]) = .error e) ∧
      ∃ f, Filter.ofValue (Registry.defaults : Registry Empty) (.object [("$adn",
          .array [.object [("a", .bool true)], .object [("b", .bool true)]])]) = .ok f ∧
        ∃ m ∈ f.root.nodes, m.selector = some ⟨"$adn"⟩ := by
  have hinn : (Registry.defaults : Registry Empty).get? "$inn" = none := rfl
  have hadn : (Registry.defaults : Registry Empty).get? "$adn" = none := rfl
  have ha : (Registry.defaults : Registry Empty).get? "a" = none := rfl
  have hfield : (Registry.defaults : Registry Empty).Reads
      (.object [("a", .object [("$inn", .bool true)])]) (.field (.object [("$inn", .bool true)])) :=
    .single (.select (.head _) ha)
  refine ⟨(Filter.ofValue_unregistered _ _ (.head _) hinn).1 (.inl hfield), ?_⟩
  obtain ⟨f, hf⟩ : ∃ f, Filter.ofValue (Registry.defaults : Registry Empty) (.object [("$adn",
      .array [.object [("a", .bool true)], .object [("b", .bool true)]])]) = .ok f := ⟨_, rfl⟩
  exact ⟨f, hf, (Filter.ofValue_unregistered _ _ (.head _) hadn).2.1 .refl f hf⟩

/-- So a misspelt operator need not fail: this query compiles, as conditions on a field. -/
theorem Filter.ofValue_misspelt :
    (Registry.defaults : Registry Empty).get? "$adn" = none ∧
      ∃ f, Filter.ofValue (Registry.defaults : Registry Empty) (.object [("$adn",
          .array [.object [("a", .bool true)], .object [("b", .bool true)]])]) = .ok f ∧
        f.text = "$adn: $ctxOr([a: $eq(true), b: $eq(true)])" :=
  ⟨rfl, _, rfl, by decide⟩

end DocFilter
