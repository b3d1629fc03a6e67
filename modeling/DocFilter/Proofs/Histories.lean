import DocFilter.Proofs.Catalogue
import DocFilter.Proofs.Except
import Mathlib.Data.String.Basic

/-!
# Histories of registries

A registry comes about by calls that insert operators and add aliases, in any order. That a call
which fails leaves the registry as it is, and that what is found under a name has that name, hold by
the representation: `Registry.after` goes on with the registry it had where there is no other one, and
a registry lists operators without separate keys. What takes an argument is the rest. Every call keeps

> `Registry.Sound`: the names are in strictly increasing order, each is a dollar sign and a word, and
> the bounds of each operator leave room between them,

provided that the inserted operators were made by `Operator.create` or `Operator.renamed`, and a call
changes the look-up of the one name that it is about (`Registry.get?_after`). By induction on the
calls both carry over to whole histories (`Registry.Sound.run`, `Registry.get?_run`). So an alias
keeps what its target was when it was added, through all calls under other names, that of the target
included. An alias of an operator to its own name is not apart from its target, and goes with it.
-/

namespace DocFilter

variable {κ : Type}

/-! ## Operators that can be had -/

/-- A dollar sign and one or more word characters. -/
def OperatorName (name : String) : Prop :=
  ∃ word, word ≠ [] ∧ name.toList = '$' :: word ∧ ∀ c ∈ word, isWord c = true

theorem isOperatorName_iff {name : String} : isOperatorName name = true ↔ OperatorName name := by
  unfold isOperatorName OperatorName
  split
  · next c cs hname =>
    rw [hname, List.all_eq_true]
    constructor
    · exact fun h => ⟨c :: cs, List.cons_ne_nil c cs, rfl, h⟩
    · rintro ⟨word, -, hword, h⟩
      obtain ⟨-, rfl⟩ := List.cons.inj hword
      exact h
  · next hname =>
    refine ⟨fun h => absurd h Bool.false_ne_true, ?_⟩
    rintro ⟨word, hne, hword, -⟩
    obtain ⟨c, cs, rfl⟩ := List.exists_cons_of_ne_nil hne
    exact absurd hword (hname c cs)

namespace Operator

/-- The operators that a program can have: built-in ones, those it creates, and any of these under
another name. -/
inductive Made : Operator κ → Prop
  | builtin (operation : Builtin) : Made operation.operator
  | create {spec : OperatorSpec} {key : κ} {op : Operator κ} (h : create spec key = .ok op) : Made op
  | renamed {op op' : Operator κ} {name : String} (h : Made op) (hname : op.renamed name = .ok op') :
      Made op'

/-- A valid name, and bounds that leave room between them. -/
structure Sound (op : Operator κ) : Prop where
  name : OperatorName op.name
  bounds : ∀ most, op.most = some most → op.least ≤ most

theorem sound_builtin (operation : Builtin) : (operation.operator : Operator κ).Sound where
  name := by
    have hnames : ∀ operation ∈ Builtin.all, isOperatorName operation.name = true := by decide
    exact isOperatorName_iff.mp (hnames operation (Builtin.mem_all operation))
  bounds most hmost := by
    cases operation <;> cases hmost
    exact Nat.le_refl 2

theorem sound_of_create {spec : OperatorSpec} {key : κ} {op : Operator κ}
    (h : create spec key = .ok op) : op.Sound := by
  unfold create at h
  obtain ⟨kind, -, h⟩ := bind_eq_ok.mp h
  by_cases hname : isOperatorName spec.name = true
  · by_cases hbounds : 0 < spec.most.getD 0 ∧ spec.most.getD 0 < spec.least.getD 0
    · simp [hname, hbounds, throw_eq_error] at h
    · simp only [hname, hbounds] at h
      cases h
      refine ⟨isOperatorName_iff.mp hname, fun most hmost => ?_⟩
      dsimp only at hmost ⊢
      split_ifs at hmost
      cases hmost
      omega
  · simp [hname, throw_eq_error] at h

/-- The same operator under another valid name. -/
theorem Sound.rename {op : Operator κ} (h : op.Sound) {name : String}
    (hname : isOperatorName name = true) : Sound { op with name } :=
  ⟨isOperatorName_iff.mp hname, h.bounds⟩

theorem Made.sound {op : Operator κ} (h : op.Made) : op.Sound := by
  induction h with
  | builtin operation => exact sound_builtin operation
  | create h => exact sound_of_create h
  | @renamed op op' name _ hname ih =>
    unfold Operator.renamed at hname
    split at hname
    · next hvalid =>
      cases hname
      exact ih.rename hvalid
    · cases hname

end Operator

namespace Registry

/-! ## Calls -/

/-- A call that changes a registry. -/
inductive Call (κ : Type) where
  | insert (op : Operator κ)
  | addAlias (name target : String)

/-- The name that a call is about. -/
def Call.name : Call κ → String
  | insert op => op.name
  | addAlias name _ => name

/-- The registry after a call. It stays as it is when the call fails. -/
def after (r : Registry κ) : Call κ → Registry κ
  | .insert op => r.insert op
  | .addAlias name target =>
    match r.addAlias name target with
    | .ok r' => r'
    | .error _ => r

/-- The registry after calls in order. -/
def run (r : Registry κ) (calls : List (Call κ)) : Registry κ :=
  calls.foldl after r

/-- What a call does: nothing, or one operator of its name is inserted. -/
theorem after_cases (r : Registry κ) (call : Call κ) :
    r.after call = r ∨ ∃ op, op.name = call.name ∧ r.after call = r.insert op ∧
      (call = .insert op ∨ ∃ target copied, call = .addAlias op.name target ∧
        r.get? target = some copied ∧ isOperatorName op.name = true ∧
        op = { copied with name := op.name }) := by
  cases call with
  | insert op => exact .inr ⟨op, rfl, rfl, .inl rfl⟩
  | addAlias name target =>
    cases halias : r.addAlias name target with
    | error e => exact .inl (by rw [after, halias])
    | ok r' =>
      obtain ⟨copied, hcopied, hname, rfl⟩ := addAlias_eq_ok.mp halias
      exact .inr ⟨_, rfl, by rw [after, halias], .inr ⟨target, copied, rfl, hcopied, hname, rfl⟩⟩

/-- A call changes the look-up of its own name at most. -/
theorem get?_after (r : Registry κ) (call : Call κ) {key : String} (hkey : call.name ≠ key) :
    (r.after call).get? key = r.get? key := by
  rcases after_cases r call with hsame | ⟨op, hname, hinsert, -⟩
  · rw [hsame]
  · rw [hinsert, get?_insert, if_neg (by rwa [hname])]

/-- Calls change the look-up of their own names at most. -/
theorem get?_run (r : Registry κ) {calls : List (Call κ)} {key : String}
    (hcalls : ∀ call ∈ calls, call.name ≠ key) : (r.run calls).get? key = r.get? key := by
  induction calls generalizing r with
  | nil => rfl
  | cons call calls ih =>
    obtain ⟨hcall, hrest⟩ := List.forall_mem_cons.mp hcalls
    exact (ih (r.after call) hrest).trans (get?_after r call hcall)

/-! ## What all calls keep -/

/-- Names in strictly increasing order, and sound operators. -/
structure Sound (r : Registry κ) : Prop where
  increasing : r.names.Pairwise (· < ·)
  operators : ∀ op ∈ r.operators, op.Sound

theorem mem_insertInto {op o : Operator κ} {ops : List (Operator κ)} (h : o ∈ insertInto op ops) :
    o = op ∨ o ∈ ops := by
  induction ops with
  | nil => exact .inl (List.mem_singleton.mp h)
  | cons first ops ih =>
    unfold insertInto at h
    split_ifs at h
    · exact (List.mem_cons.mp h).imp_right (List.mem_cons_of_mem first)
    · exact List.mem_cons.mp h
    · rcases List.mem_cons.mp h with rfl | h
      · exact .inr List.mem_cons_self
      · exact (ih h).imp_right (List.mem_cons_of_mem first)

/-- An operator is inserted at its place in the order of names. -/
theorem pairwise_insertInto (op : Operator κ) {ops : List (Operator κ)}
    (h : ops.Pairwise fun a b => a.name < b.name) :
    (insertInto op ops).Pairwise fun a b => a.name < b.name := by
  induction ops with
  | nil => exact List.pairwise_singleton _ op
  | cons o ops ih =>
    obtain ⟨hfirst, hrest⟩ := List.pairwise_cons.mp h
    unfold insertInto
    split_ifs with heq hlt
    · exact List.pairwise_cons.mpr ⟨fun b hb => heq ▸ hfirst b hb, hrest⟩
    · refine List.pairwise_cons.mpr ⟨fun b hb => ?_, h⟩
      rcases List.mem_cons.mp hb with rfl | hb
      · exact hlt
      · exact hlt.trans (hfirst b hb)
    · refine List.pairwise_cons.mpr ⟨fun b hb => ?_, ih hrest⟩
      rcases mem_insertInto hb with rfl | hb
      · exact lt_of_le_of_ne (not_lt.mp hlt) (Ne.symm heq)
      · exact hfirst b hb

namespace Sound

variable {r : Registry κ}

theorem empty : (Registry.empty : Registry κ).Sound :=
  ⟨List.Pairwise.nil, List.forall_mem_nil _⟩

theorem insert (h : r.Sound) {op : Operator κ} (hop : op.Sound) : (r.insert op).Sound := by
  refine ⟨List.pairwise_map.mpr (pairwise_insertInto op (List.pairwise_map.mp h.increasing)), ?_⟩
  intro o ho
  rcases mem_insertInto ho with rfl | ho
  · exact hop
  · exact h.operators o ho

theorem defaults : (Registry.defaults : Registry κ).Sound := by
  have hinserted : ∀ (ops : List (Operator κ)) (r : Registry κ), (∀ op ∈ ops, op.Sound) → r.Sound →
      (ops.foldl Registry.insert r).Sound := by
    intro ops
    induction ops with
    | nil => exact fun _ _ hr => hr
    | cons op ops ih =>
      intro r hops hr
      obtain ⟨hop, hrest⟩ := List.forall_mem_cons.mp hops
      exact ih _ hrest (hr.insert hop)
  refine hinserted _ _ (fun op hop => ?_) .empty
  rw [builtins_eq] at hop
  obtain ⟨operation, -, rfl⟩ := List.mem_map.mp hop
  exact Operator.sound_builtin operation

/-- What is found is there. -/
theorem of_get? (h : r.Sound) {name : String} {op : Operator κ} (hop : r.get? name = some op) :
    op.Sound :=
  h.operators op (List.mem_of_find?_eq_some hop)

/-- One call. -/
theorem after (h : r.Sound) {call : Call κ} (hcall : ∀ op, call = .insert op → op.Made) :
    (r.after call).Sound := by
  rcases after_cases r call with hsame | ⟨op, -, hinsert, hop | ⟨target, copied, -, hcopied, hname, hop⟩⟩
  · rwa [hsame]
  · rw [hinsert]
    exact h.insert (hcall op hop).sound
  · rw [hinsert]
    refine h.insert ?_
    rw [hop]
    exact (h.of_get? hcopied).rename hname

/-- **A whole history.** -/
theorem run (h : r.Sound) {calls : List (Call κ)}
    (hcalls : ∀ op, Call.insert op ∈ calls → op.Made) : (r.run calls).Sound := by
  induction calls generalizing r with
  | nil => exact h
  | cons call calls ih =>
    refine ih (h.after fun op hop => ?_) fun op hop => hcalls op (List.mem_cons_of_mem call hop)
    exact hcalls op (hop ▸ List.mem_cons_self)

/-- The operators in the list are those that are found under their names. -/
theorem mem_operators_iff (h : r.Sound) {op : Operator κ} :
    op ∈ r.operators ↔ r.get? op.name = some op := by
  refine ⟨fun hop => ?_, List.mem_of_find?_eq_some⟩
  have hnodup : (r.operators.map (·.name)).Nodup := h.increasing.imp ne_of_lt
  cases hfound : r.get? op.name with
  | none => exact absurd (beq_self_eq_true op.name) (List.find?_eq_none.mp hfound op hop)
  | some other =>
    have hother : other ∈ r.operators := List.mem_of_find?_eq_some hfound
    rw [List.inj_on_of_nodup_map hnodup hother hop (name_of_get? hfound)]

end Sound

/-! ## Histories -/

/-- The registries that calls make of the empty registry or of the default one. -/
def Reached (r : Registry κ) : Prop :=
  ∃ base calls, (base = empty ∨ base = defaults) ∧ (∀ op, Call.insert op ∈ calls → op.Made) ∧
    base.run calls = r

theorem Reached.sound {r : Registry κ} (h : r.Reached) : r.Sound := by
  obtain ⟨base, calls, hbase, hcalls, rfl⟩ := h
  rcases hbase with rfl | rfl
  · exact Sound.empty.run hcalls
  · exact Sound.defaults.run hcalls

/-- An alias keeps what its target was until a call is about its own name. -/
theorem get?_run_addAlias {r r' : Registry κ} {name target : String}
    (halias : r.addAlias name target = .ok r') :
    ∃ op, r.get? target = some op ∧ ∀ later : List (Call κ),
      (∀ call ∈ later, call.name ≠ name) → (r'.run later).get? name = some { op with name } := by
  obtain ⟨op, hop, -, rfl⟩ := addAlias_eq_ok.mp halias
  refine ⟨op, hop, fun later hlater => ?_⟩
  rw [get?_run _ hlater, get?_insert, if_pos rfl]

/-- An alias of an operator to its own name changes nothing. -/
theorem get?_of_addAlias_self {r r' : Registry κ} {name : String}
    (halias : r.addAlias name name = .ok r') (key : String) : r'.get? key = r.get? key := by
  obtain ⟨op, hop, -, rfl⟩ := addAlias_eq_ok.mp halias
  obtain rfl := name_of_get? hop
  rw [get?_insert]
  split_ifs with hkey
  · rw [← hkey, hop]
  · rfl

/-- **Registries over whole histories.** Whatever calls have been made on the empty or the default
registry, with operators that a program can have: what is found under a name has that name, which is
a dollar sign and a word, and bounds that leave room between them. The names are in strictly
increasing order, the operators are listed in that order and are those that are found, and the size
is their number. The next call changes no look-up but that of its own name, under which an inserted
operator is found, and it changes nothing when it is an alias that fails. (That operators have the
names under which they are found, and that a failing alias changes nothing, are said here for the sake
of completeness; both hold by the representation of registries.) An alias that succeeds is a
copy of its target as it is at that time, and remains so through all later calls under other names,
among them that of the target. Only an alias of an operator to its own name is no other entry than
its target. It changes nothing, and an operator that is inserted under that name replaces it. -/
theorem sound_of_reached {r : Registry κ} (hr : r.Reached) :
    (∀ name op, r.get? name = some op →
        op.name = name ∧ OperatorName name ∧ ∀ most, op.most = some most → op.least ≤ most) ∧
      (r.names.Pairwise (· < ·) ∧ r.operators.map (·.name) = r.names ∧
        (∀ op, op ∈ r.operators ↔ r.get? op.name = some op) ∧ r.size = r.names.length) ∧
      (∀ call key, call.name ≠ key → (r.after call).get? key = r.get? key) ∧
      (∀ op, (r.insert op).get? op.name = some op) ∧
      ∀ name target,
        (∀ e, r.addAlias name target = .error e → r.after (.addAlias name target) = r) ∧
        ∀ r', r.addAlias name target = .ok r' → r.after (.addAlias name target) = r' ∧
          (∃ op, r.get? target = some op ∧ ∀ later : List (Call κ),
            (∀ call ∈ later, call.name ≠ name) →
              (r'.run later).get? name = some { op with name }) ∧
          (target = name → ∀ key, r'.get? key = r.get? key) := by
  have hsound := hr.sound
  refine ⟨fun name op hop => ?_, ⟨hsound.increasing, rfl, fun op => hsound.mem_operators_iff, ?_⟩,
    fun call key => get?_after r call, fun op => ?_, fun name target => ⟨fun e halias => ?_,
    fun r' halias => ⟨?_, get?_run_addAlias halias, ?_⟩⟩⟩
  · obtain rfl := name_of_get? hop
    exact ⟨rfl, (hsound.of_get? hop).name, (hsound.of_get? hop).bounds⟩
  · exact List.length_map _ |>.symm
  · rw [get?_insert, if_pos rfl]
  · rw [after, halias]
  · rw [after, halias]
  · rintro rfl
    exact get?_of_addAlias_self halias

/-- An alias of an alias stays as it is when its target is replaced. -/
theorem sound_of_reached_replaced :
    ∃ (r r' : Registry Unit) (op : Operator Unit),
      r = defaults.run [.addAlias "$same" "$eq", .addAlias "same" "$eq"] ∧ r.Reached ∧
      r.addAlias "$is" "$same" = .ok r' ∧
      Operator.create ⟨"$same", some "array", some 1, some 2, true⟩ () = .ok op ∧
      (∀ call ∈ [Call.insert op, .addAlias "$same" "$ne"], call.name ≠ "$is") ∧
      (r'.run [.insert op, .addAlias "$same" "$ne"]).get? "$is" =
        some { Builtin.equal.operator with name := "$is" } := by
  obtain ⟨r, r', op, hrun, halias, hsame, hcreate, hlater⟩ :
      ∃ (r r' : Registry Unit) (op : Operator Unit),
        r = defaults.run [.addAlias "$same" "$eq", .addAlias "same" "$eq"] ∧
        r.addAlias "$is" "$same" = .ok r' ∧
        r.get? "$same" = some { Builtin.equal.operator with name := "$same" } ∧
        Operator.create ⟨"$same", some "array", some 1, some 2, true⟩ () = .ok op ∧
        ∀ call ∈ [Call.insert op, .addAlias "$same" "$ne"], call.name ≠ "$is" :=
    ⟨_, _, _, rfl, rfl, rfl, rfl, by decide⟩
  have hreached : r.Reached := ⟨defaults, _, .inr rfl, by simp, hrun.symm⟩
  obtain ⟨-, -, -, -, haliases⟩ := sound_of_reached hreached
  obtain ⟨-, ⟨copied, hcopied, hkept⟩, -⟩ := (haliases "$is" "$same").2 r' halias
  obtain rfl := Option.some.inj (hsame.symm.trans hcopied)
  exact ⟨r, r', op, hrun, hreached, halias, hcreate, hlater, hkept _ hlater⟩

/-- An alias of an operator to its own name does not outlast an operator that is inserted under the
name of its target. -/
theorem addAlias_self_replaced :
    ∃ (r : Registry Unit) (target op : Operator Unit),
      defaults.get? "$eq" = some target ∧ defaults.addAlias "$eq" "$eq" = .ok r ∧
      Operator.create ⟨"$eq", none, none, none, true⟩ () = .ok op ∧ op.name = target.name ∧
      (r.insert op).get? "$eq" ≠ some { target with name := "$eq" } ∧
      ((r.insert op).get? "$eq").map (·.rightHanded) ≠ some target.rightHanded ∧
      ((r.insert op).get? "$eq").map (·.body) ≠ some target.body :=
  ⟨_, _, _, rfl, rfl, rfl, rfl, by decide, by decide, by decide⟩

end Registry

end DocFilter
