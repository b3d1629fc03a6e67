import DocFilter.Proofs.Coupling
import DocFilter.Proofs.Field
import DocFilter.Proofs.Renaming
import DocFilter.Proofs.Shape

/-!
# Extending the registry

A program that hosts the query language can insert operators of its own and add aliases. Where the
new names are none of the old ones (`Registry.Extends`), every operator that was there is found as
before. So a query that does not use the new names is looked up as before, key by key, and

> `Filter.ofValue_of_extends`: it compiles to the same tree, or fails with the same error, and is
> evaluated to the same value, or fails with the same report, whatever the new operators do.

For evaluation it takes more than that the tree holds built-in operations only: these call equality
by its name, and evaluate nodes with the registry at hand. Both registries hold the same built-in
operations, so this is a coupling of the tree with itself (`Registry.coupled_same`).
-/

namespace DocFilter

variable {κ : Type}

namespace Registry

/-- The registries that come of a registry by new operators and new aliases. -/
inductive Extends (r₀ : Registry κ) : Registry κ → Prop
  | refl : Extends r₀ r₀
  | insert {r : Registry κ} {op : Operator κ} (h : Extends r₀ r) (fresh : r₀.get? op.name = none) :
      Extends r₀ (r.insert op)
  | addAlias {r r' : Registry κ} {name target : String} (h : Extends r₀ r)
      (fresh : r₀.get? name = none) (halias : r.addAlias name target = .ok r') : Extends r₀ r'

namespace Extends

variable {r₀ r : Registry κ}

/-- What was there before is found as before. -/
theorem get?_of_some (h : r₀.Extends r) {name : String} {op : Operator κ}
    (hop : r₀.get? name = some op) : r.get? name = some op := by
  induction h with
  | refl => exact hop
  | @insert r other _ fresh ih =>
    have hne : other.name ≠ name := by
      rintro rfl
      rw [hop] at fresh
      cases fresh
    rw [get?_insert, if_neg hne, ih]
  | @addAlias r r' other target _ fresh halias ih =>
    obtain ⟨copied, -, -, rfl⟩ := addAlias_eq_ok.mp halias
    have hne : other ≠ name := by
      rintro rfl
      rw [hop] at fresh
      cases fresh
    rw [get?_insert, if_neg hne, ih]

theorem holdsBuiltins (h : r₀.Extends r) (hr : r₀.HoldsBuiltins) : r.HoldsBuiltins :=
  fun operation => h.get?_of_some (hr operation)

/-- A key that is not new is looked up as before. -/
theorem get?_eq (h : r₀.Extends r) {key : String}
    (hkey : r.contains key = true → r₀.contains key = true) : r.get? key = r₀.get? key := by
  cases hop : r₀.get? key with
  | some op => exact h.get?_of_some hop
  | none =>
    rw [contains, contains, hop] at hkey
    cases hnew : r.get? key with
    | none => rfl
    | some op =>
      rw [hnew] at hkey
      cases hkey rfl

/-- Keys that are not new match themselves, and nothing else changes. -/
def correspondence (h : r₀.Extends r) (hr : r₀.HoldsBuiltins) : r.Correspondence r₀ where
  keys key key' := key' = key ∧ (r.contains key = true → r₀.contains key = true)
  operators := Eq
  nodes := Eq
  errors := Eq
  shape := @Operator.SameShape.of_eq κ
  lookup := by
    rintro key _ ⟨rfl, hkey⟩
    rw [h.get?_eq hkey]
    exact rel_self _
  implied operation := by
    rw [h.holdsBuiltins hr operation, hr operation]
    exact .some rfl
  applied := by
    rintro op _ x x' rfl hx
    rw [hx.eq]
  selecting := by
    rintro key _ n _ ⟨rfl, -⟩ - rfl
    rfl
  rightHanded := by
    rintro n _ rfl
    rfl
  alike he := by
    cases he with
    | unknownOperator h | contextDisabled h => rw [h.1]
    | expectedArray h | expectedSelector h | tooFewOperands h | tooManyOperands h
    | invalidPattern h => rw [h]
    | _ => rfl

/-- **A query without new keys is compiled as before.** -/
theorem nodeOf_eq (h : r₀.Extends r) (hr : r₀.HoldsBuiltins) {raw : Json}
    (hkeys : ∀ key ∈ raw.allKeys, r.contains key = true → r₀.contains key = true)
    (disabled : Bool) : r.nodeOf raw disabled = r₀.nodeOf raw disabled := by
  have hread := (h.correspondence hr).readAlike_self fun key hkey => ⟨rfl, hkeys key hkey⟩
  have hfilter := hread.filter disabled
  generalize r.nodeOf raw disabled = x, r₀.nodeOf raw disabled = y at hfilter ⊢
  cases hfilter with
  | ok h => exact congrArg Except.ok h
  | error h => exact congrArg Except.error h

end Extends

end Registry

/-! ## Evaluation -/

/-- The same outcome. -/
def Coupling.same : Coupling MatchError MatchError where
  Rel := Eq
  ok _ := rfl
  failure _ _ := rfl
  bind := by
    rintro α β x _ f g rfl hfg
    exact congrArg (x >>= ·) (funext hfg)

namespace Registry

variable {r r' : Registry κ} {host host' : Host κ} {document : Json}
  (hr : r.HoldsBuiltins) (hr' : r'.HoldsBuiltins)
include hr hr'

/-- A tree of built-in operations is coupled with itself, by induction on the tree. -/
theorem coupled_same {n : Node κ} (hn : defaults.AllFormed n.nodes) :
    Coupled .same r r' host host' document n n := by
  induction n using Node.induct with
  | step n ih =>
    have hbuiltin : n.BuiltinOnly := builtinOnly_of_formed hn
    have hoperand : n.operand.Paired (Coupled .same r r' host host' document) n.operand :=
      (hn n n.self_mem_nodes).fits.paired_self fun m hm =>
        ih m hm (Node.forall_nodes_child hn hm)
    refine coupled_of_paired hr hr' hbuiltin hbuiltin rfl rfl rfl (fun c x y hxy => ?_) hoperand
    obtain rfl : x = y := hxy
    rfl

/-- **Two registries with the built-in operations evaluate a tree of these alike.** -/
theorem evaluate_eq_of_formed {n : Node κ} (hn : defaults.AllFormed n.nodes)
    (given : Option Json) : r.evaluate host n given document = r'.evaluate host' n given document :=
  mapError_injective (fun _ _ => Interruption.nested.inj) ((coupled_same hr hr' hn).outcome given)

end Registry

/-- **Extending the registry is conservative.** When the default registry is extended by operators
and aliases of new names, a query in which none of these names is a key, at any depth, compiles to
the same tree or fails with the same error; and in every context and on every document, the filter
comes to the same value or the same report, whatever the operators of the host do. -/
theorem Filter.ofValue_of_extends {r : Registry κ} (hr : Registry.defaults.Extends r) {query : Json}
    (hquery : ∀ key ∈ query.allKeys, r.contains key = true →
      (Registry.defaults : Registry κ).contains key = true) :
    (ofValue r query).map root = (ofValue Registry.defaults query).map root ∧
      ∀ f g : Filter κ, ofValue r query = .ok f → ofValue Registry.defaults query = .ok g →
        ∀ host host' context document,
          f.evaluate host context document = g.evaluate host' context document := by
  have hbuiltins : r.HoldsBuiltins := hr.holdsBuiltins Registry.defaults_holdsBuiltins
  have hnode := hr.nodeOf_eq Registry.defaults_holdsBuiltins hquery false
  refine ⟨?_, fun f g hf hg host host' context document => ?_⟩
  · rw [ofValue_eq, ofValue_eq, hnode]
    cases Registry.defaults.nodeOf query false with
    | ok n => simp only [Except.map]
    | error e => simp only [Except.map]
  · rw [ofValue_eq, map_eq_ok] at hf hg
    obtain ⟨n, hn, rfl⟩ := hf
    obtain ⟨m, hm, rfl⟩ := hg
    rw [hnode, hm] at hn
    cases hn
    have hformed := Registry.nodeOf_formed Registry.defaults_holdsBuiltins hm
    exact Registry.evaluate_eq_of_formed hbuiltins Registry.defaults_holdsBuiltins hformed context

/-- An operator that always fails, and a second name for it, do nothing to a query of other keys. -/
theorem Filter.ofValue_of_extends_failing :
    ∃ (r : Registry Unit) (f g : Filter Unit),
      (Registry.defaults.insert ⟨"$down", .value, 0, none, true, .custom ()⟩).addAlias "$off" "$down" =
        .ok r ∧
      Registry.defaults.Extends r ∧
      ofValue r (.object [("a", .object [("$ne", .bool true)]),
        ("b", .array [.bool true, .null])]) = .ok f ∧
      ofValue Registry.defaults (.object [("a", .object [("$ne", .bool true)]),
        ("b", .array [.bool true, .null])]) = .ok g ∧
      f.root = g.root ∧
      f.evaluate (fun _ _ _ _ => .done (.error (.failure (.custom "down")))) none
          (.object [("b", .null)]) =
        g.evaluate (fun _ _ _ _ => .done (.ok none)) none (.object [("b", .null)]) := by
  obtain ⟨r, f, g, halias, hfresh, hfresh', hquery, hf, hg⟩ : ∃ (r : Registry Unit)
      (f g : Filter Unit),
      (Registry.defaults.insert ⟨"$down", .value, 0, none, true, .custom ()⟩).addAlias "$off" "$down" =
        .ok r ∧
      (Registry.defaults : Registry Unit).get? "$down" = none ∧
      (Registry.defaults : Registry Unit).get? "$off" = none ∧
      (∀ key ∈ (Json.object [("a", .object [("$ne", .bool true)]),
        ("b", .array [.bool true, .null])]).allKeys, r.contains key = true →
          (Registry.defaults : Registry Unit).contains key = true) ∧
      ofValue r (.object [("a", .object [("$ne", .bool true)]),
        ("b", .array [.bool true, .null])]) = .ok f ∧
      ofValue Registry.defaults (.object [("a", .object [("$ne", .bool true)]),
        ("b", .array [.bool true, .null])]) = .ok g :=
    ⟨_, _, _, rfl, rfl, rfl, by decide, rfl, rfl⟩
  have hextends : Registry.defaults.Extends r := .addAlias (.insert .refl hfresh) hfresh' halias
  obtain ⟨hroot, hevaluate⟩ := Filter.ofValue_of_extends hextends hquery
  rw [hf, hg] at hroot
  refine ⟨r, f, g, halias, hextends, hf, hg, ?_, hevaluate f g hf hg _ _ _ _⟩
  exact Except.ok.inj hroot

end DocFilter
