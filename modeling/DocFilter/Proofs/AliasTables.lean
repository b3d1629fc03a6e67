import DocFilter.Config
import DocFilter.Proofs.Histories

/-!
# Tables of aliases

The aliases of a configuration are added to the default registry in the order of their names, each
of them to what the aliases before it have made of the registry. So an alias can point at an operator
of the query language or at an alias in front of it in that order (`Config.Known`); one that points
at itself, at a later alias or at nothing is refused. While the table is read, the registry holds

> `Config.Loaded`: the operators of the query language and the aliases read so far, each being what
> its targets lead to (`Config.Reaches`), and nothing else.

One more alias keeps this up (`Config.Loaded.addAlias`), and whether it can be added is decided by the
table alone (`Config.Loaded.exists_get?_iff`). By induction on the table,

> `Config.registry_of_aliases`: which tables load, what they make of the registry, and which error
> the others end with.
-/

namespace DocFilter

variable {κ : Type}

/-! ## Registries -/

namespace Registry

theorem length_insertInto {op : Operator κ} {ops : List (Operator κ)}
    (h : ∀ o ∈ ops, o.name ≠ op.name) : (insertInto op ops).length = ops.length + 1 := by
  induction ops with
  | nil => rfl
  | cons o ops ih =>
    obtain ⟨hne, hrest⟩ := List.forall_mem_cons.mp h
    unfold insertInto
    rw [if_neg (Ne.symm hne)]
    split_ifs with hlt
    · rfl
    · rw [List.length_cons, ih hrest, List.length_cons]

/-- An operator of a new name is one more. -/
theorem size_insert {r : Registry κ} {op : Operator κ} (hfresh : r.get? op.name = none) :
    (r.insert op).size = r.size + 1 :=
  length_insertInto fun o ho hname => List.find?_eq_none.mp hfresh o ho (beq_iff_eq.mpr hname)

/-- So are operators of distinct new names. -/
theorem size_foldl_insert {ops : List (Operator κ)} {r : Registry κ}
    (hnodup : (ops.map (·.name)).Nodup) (hfresh : ∀ op ∈ ops, r.get? op.name = none) :
    (ops.foldl insert r).size = r.size + ops.length := by
  induction ops generalizing r with
  | nil => rfl
  | cons op ops ih =>
    obtain ⟨hnew, hnodup⟩ := List.nodup_cons.mp hnodup
    obtain ⟨hop, hfresh⟩ := List.forall_mem_cons.mp hfresh
    have hnext : ∀ o ∈ ops, (r.insert op).get? o.name = none := by
      intro o ho
      rw [get?_insert, if_neg fun hname => hnew (List.mem_map.mpr ⟨o, ho, hname.symm⟩)]
      exact hfresh o ho
    rw [List.foldl_cons, ih hnodup hnext, size_insert hop, List.length_cons, Nat.add_assoc,
      Nat.add_comm 1]

theorem size_defaults : (defaults : Registry κ).size = Builtin.all.length := by
  have hnodup : ((builtins : List (Operator κ)).map (·.name)).Nodup := Builtin.nodup_names_all
  rw [defaults, size_foldl_insert hnodup fun _ _ => rfl, builtins_eq, List.length_map]
  exact Nat.zero_add _

theorem addAlias_of_none {r : Registry κ} {target : String} (h : r.get? target = none)
    (name : String) : r.addAlias name target = .error (.unknownAliasTarget name target) := by
  rw [addAlias, h]

theorem addAlias_of_invalid {r : Registry κ} {name target : String} {op : Operator κ}
    (h : r.get? target = some op) (hname : ¬ OperatorName name) :
    r.addAlias name target = .error (.invalidName name) := by
  rw [← isOperatorName_iff] at hname
  rw [addAlias, h]
  simp only [Operator.renamed, if_neg hname, Except.map]

theorem addAlias_of_some {r : Registry κ} {name target : String} {op : Operator κ}
    (h : r.get? target = some op) (hname : OperatorName name) :
    r.addAlias name target = .ok (r.insert { op with name }) :=
  addAlias_eq_ok.mpr ⟨op, h, isOperatorName_iff.mpr hname, rfl⟩

end Registry

namespace Config

/-! ## What a table says -/

section
variable (aliases : List (String × String))

/-- The target of an alias is an operator of the query language, or an alias of the table with a
smaller name. -/
def Known (a : String × String) : Prop :=
  (∃ operation : Builtin, operation.name = a.2) ∨ ∃ b ∈ aliases, b.1 = a.2 ∧ b.1 < a.1

/-- An alias that can be added: its name is a dollar sign and a word, and its target is known. -/
def Loadable (a : String × String) : Prop :=
  OperatorName a.1 ∧ Known aliases a

/-- Why an alias is refused. Its target is looked at first. -/
inductive Refused (a : String × String) : DefinitionError → Prop
  | unknownTarget (h : ¬ Known aliases a) : Refused a (.unknownAliasTarget a.1 a.2)
  | invalidName (h : Known aliases a) (hname : ¬ OperatorName a.1) : Refused a (.invalidName a.1)

/-- Following targets from a name leads to an operation of the query language. -/
inductive Reaches : String → Builtin → Prop
  | builtin (operation : Builtin) : Reaches operation.name operation
  | follow {name target : String} {operation : Builtin} (h : (name, target) ∈ aliases)
      (rest : Reaches target operation) : Reaches name operation

end

variable {aliases : List (String × String)}

theorem Refused.not_loadable {a : String × String} {e : DefinitionError}
    (h : Refused aliases a e) : ¬ Loadable aliases a := by
  cases h with
  | unknownTarget h => exact fun hload => h hload.2
  | invalidName h hname => exact fun hload => hname hload.1

theorem Refused.eq {a : String × String} {e e' : DefinitionError} (h : Refused aliases a e)
    (h' : Refused aliases a e') : e = e' := by
  cases h with
  | unknownTarget h =>
    cases h' with
    | unknownTarget => rfl
    | invalidName h' => exact absurd h' h
  | invalidName h =>
    cases h' with
    | unknownTarget h' => exact absurd h h'
    | invalidName => rfl

/-- A table in the order of its names, none of which is that of an operator of the query language. -/
structure Proper (aliases : List (String × String)) : Prop where
  increasing : aliases.Pairwise fun a b => a.1 < b.1
  fresh : ∀ a ∈ aliases, ∀ operation : Builtin, a.1 ≠ operation.name

/-- No two aliases of a table have one name. -/
theorem Proper.eq_of_name_eq (h : Proper aliases) {a b : String × String} (ha : a ∈ aliases)
    (hb : b ∈ aliases) (hname : a.1 = b.1) : a = b := by
  have hnodup : (aliases.map (·.1)).Nodup := (List.pairwise_map.mpr h.increasing).imp ne_of_lt
  exact List.inj_on_of_nodup_map hnodup ha hb hname

/-- A name leads to one operation at most. -/
theorem Reaches.eq (hproper : Proper aliases) {name : String} {operation operation' : Builtin}
    (h : Reaches aliases name operation) (h' : Reaches aliases name operation') :
    operation = operation' := by
  induction h with
  | builtin operation =>
    generalize hname : operation.name = name at h'
    cases h' with
    | builtin operation' => exact Builtin.eq_of_name_eq hname
    | follow hmem rest => exact absurd hname.symm (hproper.fresh _ hmem operation)
  | @follow name target operation hmem rest ih =>
    cases h' with
    | builtin operation' => exact absurd rfl (hproper.fresh _ hmem operation')
    | follow hmem' rest' =>
      cases hproper.eq_of_name_eq hmem hmem' rfl
      exact ih rest'

/-! ## Reading a table -/

/-- What the registry holds when the aliases in `before` have been read. -/
structure Loaded (aliases before : List (String × String)) (r : Registry κ) : Prop where
  found : ∀ name, (∃ op, r.get? name = some op) ↔
    (∃ operation : Builtin, operation.name = name) ∨ ∃ a ∈ before, a.1 = name
  reached : ∀ name op, r.get? name = some op →
    ∃ operation, Reaches aliases name operation ∧ op = { operation.operator with name }
  size : r.size = Builtin.all.length + before.length

namespace Loaded

variable {before after : List (String × String)} {r r' : Registry κ}

theorem defaults : Loaded aliases [] (Registry.defaults : Registry κ) where
  found name := by
    simp only [Registry.get?_defaults_eq_some, List.not_mem_nil, false_and, exists_false, or_false]
    exact ⟨fun ⟨_, operation, hname, _⟩ => ⟨operation, hname⟩,
      fun ⟨operation, hname⟩ => ⟨_, operation, hname, rfl⟩⟩
  reached name op hop := by
    obtain ⟨operation, rfl, rfl⟩ := Registry.get?_defaults_eq_some.mp hop
    exact ⟨operation, .builtin operation, rfl⟩
  size := Registry.size_defaults

/-- Whether the target of the next alias is found is decided by the table: the aliases in front of it
are those with smaller names. -/
theorem exists_get?_iff {a : String × String} (hproper : Proper (before ++ a :: after))
    (h : Loaded (before ++ a :: after) before r) :
    (∃ op, r.get? a.2 = some op) ↔ Known (before ++ a :: after) a := by
  obtain ⟨-, hrest, hbefore⟩ := List.pairwise_append.mp hproper.increasing
  rw [h.found]
  refine or_congr_right ⟨?_, ?_⟩
  · rintro ⟨b, hb, hname⟩
    exact ⟨b, List.mem_append_left _ hb, hname, hbefore b hb a List.mem_cons_self⟩
  · rintro ⟨b, hb, hname, hlt⟩
    rcases List.mem_append.mp hb with hb | hb
    · exact ⟨b, hb, hname⟩
    · rcases List.mem_cons.mp hb with rfl | hb
      · exact absurd hlt (lt_irrefl _)
      · exact absurd (hlt.trans ((List.pairwise_cons.mp hrest).1 b hb)) (lt_irrefl _)

/-- The name of the next alias is new. -/
theorem get?_eq_none {a : String × String} (hproper : Proper (before ++ a :: after))
    (h : Loaded (before ++ a :: after) before r) : r.get? a.1 = none := by
  have hmem : a ∈ before ++ a :: after := List.mem_append_right _ List.mem_cons_self
  obtain ⟨-, -, hbefore⟩ := List.pairwise_append.mp hproper.increasing
  cases hfound : r.get? a.1 with
  | none => rfl
  | some op =>
    rcases (h.found a.1).mp ⟨op, hfound⟩ with ⟨operation, hname⟩ | ⟨b, hb, hname⟩
    · exact absurd hname.symm (hproper.fresh a hmem operation)
    · exact absurd hname (ne_of_lt (hbefore b hb a List.mem_cons_self))

/-- One more alias. -/
theorem addAlias {a : String × String} (hproper : Proper (before ++ a :: after))
    (h : Loaded (before ++ a :: after) before r) {op : Operator κ} (hop : r.get? a.2 = some op) :
    Loaded (before ++ a :: after) (before ++ [a]) (r.insert { op with name := a.1 }) where
  found name := by
    rw [Registry.get?_insert]
    split_ifs with hname
    · exact ⟨fun _ => .inr ⟨a, by simp, hname⟩, fun _ => ⟨_, rfl⟩⟩
    · rw [h.found]
      refine or_congr_right ⟨fun ⟨b, hb, hb'⟩ => ⟨b, List.mem_append_left _ hb, hb'⟩, ?_⟩
      rintro ⟨b, hb, hb'⟩
      rcases List.mem_append.mp hb with hb | hb
      · exact ⟨b, hb, hb'⟩
      · obtain rfl := List.mem_singleton.mp hb
        exact absurd hb' hname
  reached name copied hcopied := by
    rw [Registry.get?_insert] at hcopied
    split_ifs at hcopied with hname
    · obtain ⟨operation, hreaches, rfl⟩ := h.reached a.2 op hop
      dsimp only at hname
      subst hname
      cases hcopied
      exact ⟨operation, .follow (List.mem_append_right _ List.mem_cons_self) hreaches, rfl⟩
    · exact h.reached name copied hcopied
  size := by
    rw [Registry.size_insert (h.get?_eq_none hproper), h.size, List.length_append,
      List.length_singleton, Nat.add_assoc]

/-- **What becomes of the rest of a table**, by induction on it: all of it is loaded, or the first
alias that cannot be loaded is refused. -/
theorem addAliases {rest : List (String × String)} (hproper : Proper (before ++ rest))
    (h : Loaded (before ++ rest) before r) :
    (∃ r', Config.addAliases r rest = .ok r' ∧ (∀ a ∈ rest, Loadable (before ++ rest) a) ∧
        Loaded (before ++ rest) (before ++ rest) r') ∨
      ∃ a ∈ rest, ∃ e, Config.addAliases r rest = .error e ∧ Refused (before ++ rest) a e ∧
        ∀ b ∈ rest, ¬ Loadable (before ++ rest) b → a.1 ≤ b.1 := by
  induction rest generalizing before r with
  | nil => exact .inl ⟨r, rfl, List.forall_mem_nil _, by rwa [List.append_nil] at h ⊢⟩
  | cons a rest ih =>
    -- a refused alias is the smallest one, being the first
    have hsmallest : ∀ b ∈ a :: rest, a.1 ≤ b.1 := by
      obtain ⟨-, hrest, -⟩ := List.pairwise_append.mp hproper.increasing
      intro b hb
      rcases List.mem_cons.mp hb with rfl | hb
      · exact le_refl _
      · exact le_of_lt ((List.pairwise_cons.mp hrest).1 b hb)
    rw [Config.addAliases]
    cases hop : r.get? a.2 with
    | none =>
      have hknown : ¬ Known (before ++ a :: rest) a := by
        rw [← h.exists_get?_iff hproper, hop]
        simp
      refine .inr ⟨a, List.mem_cons_self, _, ?_, .unknownTarget hknown, fun b hb _ => hsmallest b hb⟩
      rw [Registry.addAlias_of_none hop]
      rfl
    | some op =>
      have hknown : Known (before ++ a :: rest) a := (h.exists_get?_iff hproper).mp ⟨op, hop⟩
      by_cases hname : OperatorName a.1
      · have hnext := h.addAlias hproper hop
        rw [Registry.addAlias_of_some hop hname, ok_bind]
        rw [List.append_cons] at hproper hnext hknown ⊢
        rcases ih hproper hnext with ⟨r', hr', hload, hloaded⟩ | ⟨b, hb, e, he, hrefused, hleast⟩
        · exact .inl ⟨r', hr', List.forall_mem_cons.mpr ⟨⟨hname, hknown⟩, hload⟩, hloaded⟩
        · refine .inr ⟨b, List.mem_cons_of_mem a hb, e, he, hrefused, ?_⟩
          exact List.forall_mem_cons.mpr ⟨fun hnot => absurd ⟨hname, hknown⟩ hnot, hleast⟩
      · refine .inr ⟨a, List.mem_cons_self, _, ?_, .invalidName hknown hname,
          fun b hb _ => hsmallest b hb⟩
        rw [Registry.addAlias_of_invalid hop hname]
        rfl

/-- A registry that has been loaded holds under each name what following targets leads to. -/
theorem get?_eq_some_iff (hproper : Proper aliases) (h : Loaded aliases aliases r) {name : String}
    {op : Operator κ} : r.get? name = some op ↔
      ∃ operation, Reaches aliases name operation ∧ op = { operation.operator with name } := by
  refine ⟨h.reached name op, ?_⟩
  rintro ⟨operation, hreaches, rfl⟩
  have hfound : ∃ op, r.get? name = some op := by
    rw [h.found]
    cases hreaches with
    | builtin operation => exact .inl ⟨operation, rfl⟩
    | follow hmem rest => exact .inr ⟨_, hmem, rfl⟩
  obtain ⟨op, hop⟩ := hfound
  obtain ⟨operation', hreaches', rfl⟩ := h.reached name op hop
  rw [hop, hreaches.eq hproper hreaches']

end Loaded

/-- A table in order is loaded, or its smallest alias that cannot be loaded is refused. -/
theorem loaded_or_refused {c : Config} (hproper : Proper c.aliases) :
    (∃ r : Registry κ, c.registry = .ok r ∧ (∀ a ∈ c.aliases, Loadable c.aliases a) ∧
        Loaded c.aliases c.aliases r) ∨
      ∃ a ∈ c.aliases, ∃ e, (c.registry : Except DefinitionError (Registry κ)) = .error e ∧
        Refused c.aliases a e ∧ ∀ b ∈ c.aliases, ¬ Loadable c.aliases b → a.1 ≤ b.1 := by
  have hstart : Loaded ([] ++ c.aliases) [] (Registry.defaults : Registry κ) := .defaults
  have htable : Proper ([] ++ c.aliases) := hproper
  exact hstart.addAliases htable

/-- **Which tables of aliases load.** In a table whose names are in order and are none of the query
language's own, every alias has to be loadable: named by a dollar sign and a word, with a target that
is an operator of the query language or an alias with a smaller name. Then the registry holds the
operators of the query language as they are and one more for each alias, which is the operator that
following the targets leads to, but for its name. Otherwise the error is about the smallest alias
that is not loadable: its target is unknown, or else its name is invalid. Without aliases the
registry is the default one.

(Registries are values, so that nothing can change the default registry for others who use it. That
is a remark about values and no part of the theorem.) -/
theorem registry_of_aliases {c : Config} (hproper : Proper c.aliases) :
    ((∃ r : Registry κ, c.registry = .ok r) ↔ ∀ a ∈ c.aliases, Loadable c.aliases a) ∧
      (∀ r : Registry κ, c.registry = .ok r →
        (∀ operation : Builtin, r.get? operation.name = some operation.operator) ∧
        (∀ a ∈ c.aliases, ∃ operation,
          (∀ other, Reaches c.aliases a.2 other ↔ other = operation) ∧
          r.get? a.1 = some { operation.operator with name := a.1 }) ∧
        (∀ name op, r.get? name = some op →
          (∃ operation : Builtin, operation.name = name) ∨ ∃ a ∈ c.aliases, a.1 = name) ∧
        r.size = 27 + c.aliases.length) ∧
      (∀ e, (c.registry : Except DefinitionError (Registry κ)) = .error e ↔
        ∃ a ∈ c.aliases, Refused c.aliases a e ∧
          ∀ b ∈ c.aliases, ¬ Loadable c.aliases b → a.1 ≤ b.1) ∧
      (c.aliases = [] → c.registry = .ok (Registry.defaults : Registry κ)) := by
  have hempty : c.aliases = [] → c.registry = .ok (Registry.defaults : Registry κ) := by
    intro hnil
    rw [registry, hnil, addAliases]
  rcases loaded_or_refused (κ := κ) hproper with ⟨r, hr, hload, hloaded⟩ |
    ⟨a, ha, e, he, hrefused, hleast⟩
  · refine ⟨iff_of_true ⟨r, hr⟩ hload, fun r' hr' => ?_, fun e => ?_, hempty⟩
    · obtain rfl := Except.ok.inj (hr.symm.trans hr')
      refine ⟨fun operation => ?_, fun a ha => ?_, fun name op hop => ?_, hloaded.size⟩
      · exact (hloaded.get?_eq_some_iff hproper).mpr ⟨operation, .builtin operation, rfl⟩
      · obtain ⟨op, hop⟩ := (hloaded.found a.1).mpr (.inr ⟨a, ha, rfl⟩)
        obtain ⟨operation, hreaches, rfl⟩ := hloaded.reached a.1 op hop
        have htarget : Reaches c.aliases a.2 operation := by
          generalize hname : a.1 = name at hreaches
          cases hreaches with
          | builtin operation => exact absurd hname (hproper.fresh a ha operation)
          | follow hmem rest =>
            cases hproper.eq_of_name_eq ha hmem hname
            exact rest
        refine ⟨operation, fun other => ⟨fun h => h.eq hproper htarget, ?_⟩, hop⟩
        rintro rfl
        exact htarget
      · exact (hloaded.found name).mp ⟨op, hop⟩
    · refine iff_of_false (by simp [hr]) ?_
      rintro ⟨a, ha, hrefused, -⟩
      exact hrefused.not_loadable (hload a ha)
  · have hnot : ¬ ∀ a ∈ c.aliases, Loadable c.aliases a :=
      fun hload => hrefused.not_loadable (hload a ha)
    refine ⟨iff_of_false (by simp [he]) hnot, fun r hr => ?_, fun e' => ?_, hempty⟩
    · cases he.symm.trans hr
    · rw [he, Except.error.injEq]
      constructor
      · rintro rfl
        exact ⟨a, ha, hrefused, hleast⟩
      · rintro ⟨b, hb, hrefused', hleast'⟩
        have hname : a.1 = b.1 :=
          le_antisymm (hleast b hb hrefused'.not_loadable) (hleast' a ha hrefused.not_loadable)
        obtain rfl := hproper.eq_of_name_eq ha hb hname
        exact hrefused.eq hrefused'

/-- An alias of an alias loads when it comes after its target; before it, it is refused. -/
theorem registry_of_aliases_chain :
    Proper [("$same", "$eq"), ("$was", "$same")] ∧ Proper [("$is", "$same"), ("$same", "$eq")] ∧
      (∃ r : Registry Unit,
        registry ⟨[], [("$same", "$eq"), ("$was", "$same")], false, false⟩ = .ok r ∧
        r.get? "$was" = some { Builtin.equal.operator with name := "$was" } ∧ r.size = 29) ∧
      (registry ⟨[], [("$is", "$same"), ("$same", "$eq")], false, false⟩ :
        Except DefinitionError (Registry Unit)) = .error (.unknownAliasTarget "$is" "$same") := by
  have hproper : Proper [("$same", "$eq"), ("$was", "$same")] := by
    refine ⟨by decide, fun a ha => Builtin.ne_name ?_⟩
    revert a
    decide
  have hproper' : Proper [("$is", "$same"), ("$same", "$eq")] := by
    refine ⟨by decide, fun a ha => Builtin.ne_name ?_⟩
    revert a
    decide
  refine ⟨hproper, hproper', ?_, ?_⟩
  · obtain ⟨-, hheld, -⟩ := registry_of_aliases (κ := Unit)
      (c := ⟨[], [("$same", "$eq"), ("$was", "$same")], false, false⟩) hproper
    obtain ⟨r, hr⟩ : ∃ r : Registry Unit,
      registry ⟨[], [("$same", "$eq"), ("$was", "$same")], false, false⟩ = .ok r := ⟨_, rfl⟩
    obtain ⟨-, hentries, -, hsize⟩ := hheld r hr
    obtain ⟨operation, hreaches, hentry⟩ := hentries ("$was", "$same") (by simp)
    have htarget : Reaches [("$same", "$eq"), ("$was", "$same")] "$same" .equal :=
      .follow List.mem_cons_self (.builtin .equal)
    obtain rfl := (hreaches .equal).mp htarget
    exact ⟨r, hr, hentry, hsize⟩
  · obtain ⟨-, -, hrefused, -⟩ := registry_of_aliases (κ := Unit)
      (c := ⟨[], [("$is", "$same"), ("$same", "$eq")], false, false⟩) hproper'
    have hunknown : ¬ Known [("$is", "$same"), ("$same", "$eq")] ("$is", "$same") := by
      rintro (⟨operation, hname⟩ | hsmaller)
      · exact Builtin.ne_name (by decide) operation hname.symm
      · revert hsmaller
        decide
    have hleast : ∀ b ∈ [("$is", "$same"), ("$same", "$eq")], "$is" ≤ b.1 := by decide
    exact (hrefused _).mpr
      ⟨_, List.mem_cons_self, .unknownTarget hunknown, fun b hb _ => hleast b hb⟩

end Config

end DocFilter
