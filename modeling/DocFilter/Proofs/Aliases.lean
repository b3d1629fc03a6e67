import DocFilter.Config
import DocFilter.Proofs.Extension

/-!
# Aliases

An alias is another name for an operator, and it is no more than that. A registry that holds the
built-in operators and aliases (`Registry.Aliased`) has a built-in operation for each of its names
(`Registry.standsFor`). A query can be written with the names of the operations in the place of the
aliases, and the default registry compiles it to a tree that differs in the names of operators only
(`Node.Unaliased`). Such trees come to the same in every context and on every document:

> `Filter.ofValue_of_aliases`: a query with aliases compiles exactly when the one without them does,
> and both filters come to the same value, or fail for the same cause in the same context.

An operator that a query uses without naming it, and the equality that other operations call, go by
the built-in names in both registries. So aliases and built-in names stand side by side in the first
tree, and the induction is on the two trees together.
-/

namespace DocFilter

variable {κ : Type}

/-! ## Registries of aliases -/

namespace Registry

/-- The name of the built-in operation that a name stands for; other names stand for themselves. -/
def standsFor (r : Registry κ) (name : String) : String :=
  match r.get? name with
  | some ⟨_, _, _, _, _, .builtin operation⟩ => operation.name
  | _ => name

/-- A registry of the built-in operators under their own names and under others. -/
structure Aliased (r : Registry κ) : Prop where
  builtins : r.HoldsBuiltins
  copy {name : String} {op : Operator κ} (hop : r.get? name = some op) :
    ∃ operation : Builtin, op = { operation.operator with name }

theorem aliased_defaults : (defaults : Registry κ).Aliased where
  builtins := defaults_holdsBuiltins
  copy hop := by
    obtain ⟨operation, rfl, rfl⟩ := get?_defaults_eq_some.mp hop
    exact ⟨operation, rfl⟩

namespace Aliased

variable {r r' : Registry κ}

/-- One more alias, of a built-in operator or of an alias. -/
theorem addAlias (h : r.Aliased) {name target : String}
    (fresh : (defaults : Registry κ).get? name = none)
    (halias : r.addAlias name target = .ok r') : r'.Aliased := by
  obtain ⟨op, hop, -, rfl⟩ := addAlias_eq_ok.mp halias
  obtain ⟨operation, rfl⟩ := h.copy hop
  refine ⟨h.builtins.insert fun other hother => ?_, fun {key found} hfound => ?_⟩
  · have hbuiltin : (defaults : Registry κ).get? name = some other.operator :=
      get?_defaults_eq_some.mpr ⟨other, hother.symm, rfl⟩
    rw [fresh] at hbuiltin
    cases hbuiltin
  · rw [get?_insert] at hfound
    by_cases hkey : name = key
    · rw [if_pos hkey] at hfound
      cases hfound
      exact ⟨operation, by rw [hkey]⟩
    · rw [if_neg hkey] at hfound
      exact h.copy hfound

/-- Any number of aliases. -/
theorem addAliases (h : r.Aliased) {aliases : List (String × String)}
    (fresh : ∀ a ∈ aliases, (defaults : Registry κ).get? a.1 = none)
    (haliases : Config.addAliases r aliases = .ok r') : r'.Aliased := by
  induction aliases generalizing r with
  | nil =>
    cases haliases
    exact h
  | cons a rest ih =>
    obtain ⟨name, target⟩ := a
    obtain ⟨hname, hrest⟩ := List.forall_mem_cons.mp fresh
    obtain ⟨next, hnext, haliases⟩ := bind_eq_ok.mp haliases
    exact ih (h.addAlias hname hnext) hrest haliases

/-- What a name stands for is looked up in the default registry as the name is in this one. -/
theorem standsFor_cases (h : r.Aliased) (name : String) :
    (∃ operation : Builtin, r.get? name = some { operation.operator with name } ∧
        r.standsFor name = operation.name) ∨
      (r.get? name = none ∧ r.standsFor name = name ∧
        (defaults : Registry κ).get? name = none) := by
  cases hop : r.get? name with
  | some op =>
    obtain ⟨operation, rfl⟩ := h.copy hop
    refine .inl ⟨operation, rfl, ?_⟩
    rw [standsFor, hop]
    rfl
  | none =>
    refine .inr ⟨rfl, by rw [standsFor, hop], ?_⟩
    cases hdefault : (defaults : Registry κ).get? name with
    | none => rfl
    | some op =>
      obtain ⟨operation, rfl, -⟩ := get?_defaults_eq_some.mp hdefault
      rw [h.builtins operation] at hop
      cases hop

/-- All operations of a tree are built-in. -/
theorem builtinOnly (h : r.Aliased) {raw : Json} {disabled : Bool} {n : Node κ}
    (hn : r.nodeOf raw disabled = .ok n) : n.BuiltinOnly := by
  have hinvariant : r.Invariant fun m => ∃ operation : Builtin,
      m.operator.body = .builtin operation :=
    { applied := fun hop _ => by
        obtain ⟨operation, rfl⟩ := h.copy hop
        exact ⟨operation, rfl⟩
      equated := fun _ => ⟨.equal, rfl⟩
      conjoined := fun _ => ⟨.contextAnd, rfl⟩
      selecting := fun _ _ hm => hm }
  exact (hinvariant.readWith h.builtins raw).filter hn

end Aliased

end Registry

/-! ## Compiling -/

/-- The first tree is the second one, but that its operators may go by other names. -/
inductive Node.Unaliased : Node κ → Node κ → Prop
  | node (selector : Option Selector) (operation : Builtin) (name : String) {x y : Operand κ}
      (h : Operand.Paired Node.Unaliased x y) :
      Unaliased ⟨selector, { operation.operator with name }, x⟩ ⟨selector, operation.operator, y⟩

/-- Aliases match what they stand for. -/
def Registry.Aliased.correspondence {r : Registry κ} (h : r.Aliased) :
    r.Correspondence Registry.defaults where
  keys key key' := key' = r.standsFor key
  operators op op' := ∃ (operation : Builtin) (name : String),
    op = { operation.operator with name } ∧ op' = operation.operator
  nodes := Node.Unaliased
  errors _ _ := True
  shape := by
    rintro _ _ ⟨operation, name, rfl, rfl⟩
    exact ⟨rfl, rfl, rfl, rfl⟩
  lookup := by
    rintro key _ rfl
    rcases h.standsFor_cases key with ⟨operation, hkey, hfor⟩ | ⟨hkey, hfor, hdefault⟩
    · rw [hkey, hfor, Registry.defaults_holdsBuiltins operation]
      exact .some ⟨operation, key, rfl, rfl⟩
    · rw [hkey, hfor, hdefault]
      exact .none
  implied operation := by
    rw [h.builtins operation, Registry.defaults_holdsBuiltins operation]
    exact .some ⟨operation, operation.name, rfl, rfl⟩
  applied := by
    rintro _ _ x x' ⟨operation, name, rfl, rfl⟩ hx
    exact .node none operation name hx
  selecting := by
    rintro key _ n n' rfl hkey hn
    rcases h.standsFor_cases key with ⟨operation, hfound, -⟩ | ⟨-, hfor, -⟩
    · rw [hkey] at hfound
      cases hfound
    · rw [hfor]
      cases hn with
      | node _ operation name hx => exact .node _ operation name hx
  rightHanded := by
    rintro _ _ ⟨selector, operation, name, hx⟩
    rfl
  alike _ := trivial

/-! ## Evaluating -/

/-- Two reports of the same failure in the same context. The nodes may go by other names. -/
structure MatchError.SameCause (e e' : MatchError) : Prop where
  source : e.source = e'.source
  context : e.context = e'.context

/-- The same failure, or reports of the same failure. -/
inductive EvalError.SameCause : EvalError → EvalError → Prop
  | failure (cause : Failure) : SameCause (.failure cause) (.failure cause)
  | nested {e e' : MatchError} (h : e.SameCause e') : SameCause (.nested e) (.nested e')

/-- The same result, or the same failure. -/
def Coupling.sameCause : Coupling MatchError MatchError where
  Rel := Corresponds EvalError.SameCause Eq
  ok _ := .ok rfl
  failure _ cause := .error (.failure cause)
  bind h hfg := by
    refine h.bind ?_
    rintro a _ rfl
    exact hfg a

/-- Reports keep the failure and the context, at whatever node. -/
theorem Coupling.reports_sameCause (n m : Node κ) : Coupling.sameCause.Reports n m := by
  intro c x y hxy
  refine (hxy.mapError (F := MatchError.SameCause) ?_).mapError fun _ _ h => .nested h
  rintro _ _ (cause | h)
  · exact ⟨rfl, rfl⟩
  · exact h

namespace Registry

variable {r r' : Registry κ} {host host' : Host κ} {document : Json}
  (hr : r.HoldsBuiltins) (hr' : r'.HoldsBuiltins)
include hr hr'

/-- Trees that differ in the names of operators are coupled, by induction on both. -/
theorem coupled_unaliased {n m : Node κ} (h : n.Unaliased m) (hn : n.BuiltinOnly)
    (hm : m.BuiltinOnly) : Coupled .sameCause r r' host host' document n m := by
  induction n using Node.induct generalizing m with
  | step n ih =>
    cases h with
    | node selector operation name hx =>
      refine coupled_of_paired hr hr' hn hm rfl rfl rfl (Coupling.reports_sameCause _ _) ?_
      refine hx.imp fun k hk l hl hkl => ?_
      exact ih k hk hkl (Node.forall_nodes_child hn hk) (Node.forall_nodes_child hm hl)

end Registry

/-- **Aliases are transparent.** When the default registry is given aliases with names that it does
not hold, and each key of a query that is an alias is replaced by the name that it stands for, the
two queries compile or do not compile together, the one with the aliases and the other with the
default registry; the two trees differ in the names of operators at most; and in every context and
on every document both filters come to the same value, or fail with the same failure in the same
context. -/
theorem Filter.ofValue_of_aliases {aliases : List (String × String)} {r : Registry κ}
    (hr : Config.addAliases Registry.defaults aliases = .ok r)
    (hfresh : ∀ a ∈ aliases, (Registry.defaults : Registry κ).get? a.1 = none) (query : Json) :
    ((∃ f, ofValue r query = .ok f) ↔
        ∃ g : Filter κ, ofValue Registry.defaults (query.rename r.standsFor) = .ok g) ∧
      ∀ f g : Filter κ, ofValue r query = .ok f →
        ofValue Registry.defaults (query.rename r.standsFor) = .ok g →
          f.root.Unaliased g.root ∧ ∀ host host' context document,
            Corresponds MatchError.SameCause Eq (f.evaluate host context document)
              (g.evaluate host' context document) := by
  have haliased : r.Aliased := Registry.aliased_defaults.addAliases hfresh hr
  have hread : haliased.correspondence.ReadAlike query (query.rename r.standsFor) :=
    haliased.correspondence.readAlike_rename fun _ _ => rfl
  have htrees := hread.filter false
  refine ⟨?_, fun f g hf hg => ?_⟩
  · rw [exists_ofValue, exists_ofValue]
    exact htrees.exists_ok_iff
  · rw [ofValue_eq, map_eq_ok] at hf hg
    obtain ⟨n, hn, rfl⟩ := hf
    obtain ⟨m, hm, rfl⟩ := hg
    have hunaliased : n.Unaliased m := htrees.of_ok hn hm
    have hbuiltin := Registry.builtinOnly_of_formed
      (Registry.nodeOf_formed Registry.defaults_holdsBuiltins hm)
    refine ⟨hunaliased, fun host host' context document => ?_⟩
    have hcoupled : Coupled .sameCause r Registry.defaults host host' document n m :=
      Registry.coupled_unaliased haliased.builtins Registry.defaults_holdsBuiltins hunaliased
        (haliased.builtinOnly hn) hbuiltin
    refine Corresponds.of_mapError (hcoupled.outcome context) fun e e' h => ?_
    cases h with
    | nested h => exact h

/-- An alias of an alias, over a pattern that the document supplies and that is none. -/
theorem Filter.ofValue_of_aliases_failing :
    ∃ (r : Registry Empty) (f g : Filter Empty),
      Config.addAliases Registry.defaults [("$like", "$regex"), ("$fits", "$like")] = .ok r ∧
      (Json.object [("a", .object [("$fits", .object [("$val", .string "p")])])]).rename
          r.standsFor =
        .object [("a", .object [("$regex", .object [("$val", .string "p")])])] ∧
      ofValue r (.object [("a", .object [("$fits", .object [("$val", .string "p")])])]) = .ok f ∧
      ofValue Registry.defaults
        (.object [("a", .object [("$regex", .object [("$val", .string "p")])])]) = .ok g ∧
      f.root.Unaliased g.root ∧
      Corresponds MatchError.SameCause Eq
        (f.evaluate Host.none none (.object [("a", .string "x"), ("p", .string "(")]))
        (g.evaluate Host.none none (.object [("a", .string "x"), ("p", .string "(")])) := by
  obtain ⟨r, f, g, hr, hlike, hfits, hrename, hf, hg⟩ : ∃ (r : Registry Empty) (f g : Filter Empty),
      Config.addAliases Registry.defaults [("$like", "$regex"), ("$fits", "$like")] = .ok r ∧
      (Registry.defaults : Registry Empty).get? "$like" = none ∧
      (Registry.defaults : Registry Empty).get? "$fits" = none ∧
      (Json.object [("a", .object [("$fits", .object [("$val", .string "p")])])]).rename
          r.standsFor =
        .object [("a", .object [("$regex", .object [("$val", .string "p")])])] ∧
      ofValue r (.object [("a", .object [("$fits", .object [("$val", .string "p")])])]) = .ok f ∧
      ofValue Registry.defaults
        (.object [("a", .object [("$regex", .object [("$val", .string "p")])])]) = .ok g :=
    ⟨_, _, _, rfl, rfl, rfl, rfl, rfl, rfl⟩
  have hfresh : ∀ a ∈ [("$like", "$regex"), ("$fits", "$like")],
      (Registry.defaults : Registry Empty).get? a.1 = none :=
    List.forall_mem_cons.mpr ⟨hlike, List.forall_mem_singleton.mpr hfits⟩
  obtain ⟨-, hboth⟩ := Filter.ofValue_of_aliases hr hfresh
    (.object [("a", .object [("$fits", .object [("$val", .string "p")])])])
  rw [hrename] at hboth
  obtain ⟨htrees, hevaluate⟩ := hboth f g hf hg
  exact ⟨r, f, g, hr, hrename, hf, hg, htrees, hevaluate _ _ _ _⟩

end DocFilter
