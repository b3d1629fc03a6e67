import DocFilter.Proofs.Correspondence
import DocFilter.Proofs.Negation

/-!
# Operators that deny others

A condition can be denied in two ways. `$not` denies the filter in its operand, and some operators
have another one that is their denial: `$ne` that of `$eq`, `$nin` that of `$in`, and `$nor` that of
`$or` (`Builtin.Complement`). An operator and its denial have one shape, so they are given the same
operands (`Registry.operandOf_sameShape`), and run on the same operand they answer the opposite or
both fail (`Builtin.run_complement`).

That carries over to the nodes that apply them, since neither of the two is right-handed. Whether
the operand is evaluated before them then depends on the operand alone, and where it would be
evaluated after them both have failed on it.

> `Filter.matchesIn_complement`: what is denied, in either way, compiles when it does without the
> denial and answers the opposite; under `$not` it fails with the same report.
-/

namespace DocFilter

variable {κ : Type}

/-! ## One operation and its denial -/

/-- The operations that come with another one that denies them. -/
inductive Builtin.Complement : Builtin → Builtin → Prop
  | equal : Complement .equal .notEqual
  | anyOf : Complement .anyOf .noneOf
  | disjunction : Complement .disjunction .neither

/-- Two results of which one is true and the other is not, or two failures. -/
abbrev Opposed {ε ε' : Type} : Except ε (Option Json) → Except ε' (Option Json) → Prop :=
  Corresponds (fun _ _ => True) fun v w => truthy w = !truthy v

namespace Builtin

variable {operation denial : Builtin} (h : operation.Complement denial)
include h

/-- The compiler makes no difference between an operator and its denial. -/
theorem Complement.sameShape : (operation.operator : Operator κ).SameShape denial.operator := by
  cases h <;> exact ⟨rfl, rfl, rfl, rfl⟩

theorem Complement.rightHanded : operation.rightHanded = false ∧ denial.rightHanded = false := by
  cases h <;> exact ⟨rfl, rfl⟩

theorem Complement.isReference : (operation.operator : Operator κ).isReference = false ∧
    (denial.operator : Operator κ).isReference = false := by
  cases h <;> exact ⟨rfl, rfl⟩

variable {ev : Evaluator κ MatchError}
  (hev : ∀ c x document, ev.call equal.name c x document = equal.run ev c x document)
include hev

/-- **An operation and its denial answer the opposite, or both fail.** -/
theorem run_complement (c : Option Json) (x : Operand κ) (document : Json) :
    Opposed (operation.run ev c x document) (denial.run ev c x document) := by
  cases h with
  | equal =>
    -- the denial asks for the registered equality
    have hdenial : notEqual.run ev c x document =
        (equal.run ev c x document).map fun v => some (.bool (!truthy v)) := by
      rw [← hev, run, Evaluator.equals_eq_map]
      cases ev.call equal.name c x document <;> rfl
    rw [hdenial]
    cases equal.run ev c x document with
    | ok v => exact .ok rfl
    | error e => exact .error trivial
  | anyOf =>
    show Opposed (someEqual ev c x document >>= fun b => answer b)
      (someEqual ev c x document >>= fun b => answer !b)
    cases someEqual ev c x document with
    | ok b => exact .ok rfl
    | error e => exact .error trivial
  | disjunction =>
    cases x with
    | list items =>
      have hholds : ∀ y : Operand κ, Corresponds (fun _ _ => True) Eq
          (disjunction.childHolds ev none document y) (neither.childHolds ev none document y) := by
        intro y
        cases y with
        | node n => exact .refl (fun _ => trivial) (fun _ => rfl) (ev.holds n none document)
        | _ => exact .error trivial
      have hany := Corresponds.anyM (List.forall₂_same.mpr fun y (_ : y ∈ items) => hholds y)
      refine hany.bind fun a b hab => ?_
      subst hab
      exact .ok rfl
    | _ => exact .error trivial

/-- Neither takes a filter for an operand that is to be evaluated after it. -/
theorem run_node_complement (c : Option Json) (n : Node κ) (document : Json) :
    (∃ e, operation.run ev c (.node n) document = .error e) ∧
      ∃ e, denial.run ev c (.node n) document = .error e := by
  cases h with
  | equal =>
    refine ⟨⟨_, rfl⟩, ?_⟩
    rw [run, Evaluator.equals_eq_map, hev]
    exact ⟨_, rfl⟩
  | anyOf | disjunction => exact ⟨⟨_, rfl⟩, _, rfl⟩

end Builtin

namespace Registry

/-! ## Their operands -/

/-- Patterns are read alike for all operators. -/
theorem patternOperand_alike (op op' : Operator κ) (text : String) :
    Corresponds (fun _ _ => True) Eq (patternOperand op text) (patternOperand op' text) := by
  unfold patternOperand
  cases Pattern.compile text with
  | ok regex => exact .ok rfl
  | error reason => exact .error trivial

section
variable (r : Registry κ) {op op' : Operator κ} (h : op.SameShape op')
include h

/-- Lists are counted alike. -/
theorem checkCount_sameShape (count : Nat) :
    Corresponds (fun _ _ => True) Eq (checkCount op count) (checkCount op' count) := by
  unfold checkCount
  rw [← h.least, ← h.most]
  split
  · exact .error trivial
  · split
    · split
      · exact .error trivial
      · exact .ok rfl
    · exact .ok rfl

/-- Conditions are handed on alike. -/
theorem chained_sameShape : r.chained op' = r.chained op := by
  funext n
  rw [chained, chained, h.rightHanded]

/-- Operators of one shape are given the same operands. -/
theorem operandOf_sameShape (raw : Json) (selected : Bool) : Corresponds (fun _ _ => True) Eq
    (r.operandOf raw op selected) (r.operandOf raw op' selected) := by
  have hsame : ∀ x : Except QueryError (Operand κ), Corresponds (fun _ _ => True) Eq x x :=
    .refl (fun _ => trivial) fun _ => rfl
  have hscalar : Corresponds (fun _ _ => True) Eq (r.scalarOperand op raw)
      (r.scalarOperand op' raw) := by
    unfold scalarOperand
    rw [← h.kind, r.chained_sameShape h]
    split
    · exact .error trivial
    · split <;> exact patternOperand_alike op op' _
    · exact hsame _
    · split
      · exact .ok rfl
      · exact .error trivial
    · exact .ok rfl
  cases raw with
  | array items =>
    rw [operandOf_array, operandOf_array, listTurns]
    cases hkind : op.kind with
    | array =>
      rw [listOperand_array hkind, listOperand_array (h.kind ▸ hkind)]
      exact (checkCount_sameShape h _).bind fun _ _ _ => hsame _
    | context =>
      simp only [listOperand, hkind, ← h.kind]
      exact .error trivial
    | operator =>
      rw [listOperand_operator hkind, listOperand_operator (h.kind ▸ hkind),
        r.chained_sameShape h]
      exact hsame _
    | pattern | value =>
      rw [listOperand_filters (by simp [hkind]), listOperand_filters (by simp [← h.kind, hkind])]
      exact hsame _
  | object members =>
    rw [operandOf_object, operandOf_object, ← h.kind, r.chained_sameShape h]
    cases op.kind with
    | array | context => exact .error trivial
    | operator | pattern | value => exact hsame _
  | _ =>
    rw [operandOf_scalar r rfl, operandOf_scalar r rfl]
    exact hscalar

end

/-! ## One node and its denial -/

/-- **A node and its denial are opposed.** -/
theorem evaluate_complement {r : Registry κ} (hr : r.HoldsBuiltins) (host : Host κ)
    {operation denial : Builtin} (h : operation.Complement denial) {selector : Option Selector}
    {x : Operand κ} (hn : (⟨selector, operation.operator, x⟩ : Node κ).BuiltinOnly)
    (given : Option Json) (document : Json) :
    Opposed (r.evaluate host ⟨selector, operation.operator, x⟩ given document)
      (r.evaluate host ⟨selector, denial.operator, x⟩ given document) := by
  have hm : (⟨selector, denial.operator, x⟩ : Node κ).BuiltinOnly :=
    Node.forall_nodes.mpr ⟨⟨denial, rfl⟩, (Node.forall_nodes.mp hn).2⟩
  have hev : ∀ c y document, (r.evaluator host).call Builtin.equal.name c y document =
      Builtin.equal.run (r.evaluator host) c y document := evaluator_equal hr _
  have happlied : ∀ y, Opposed
      (Node.applied (r.perform host) ⟨selector, operation.operator, x⟩
        (Node.contextIn selector given document) y document)
      (Node.applied (r.perform host) ⟨selector, denial.operator, x⟩
        (Node.contextIn selector given document) y document) := by
    intro y
    rw [applied_builtin (show _ = operation.operator from rfl),
      applied_builtin (show _ = denial.operator from rfl)]
    exact (Builtin.run_complement h hev _ y document).mapError fun _ _ _ => trivial
  cases x with
  | node inner =>
    cases hinner : inner.operator.rightHanded with
    | true =>
      have hside : (operation.rightHanded || inner.operator.rightHanded) = true := by
        rw [hinner, Bool.or_true]
      have hside' : (denial.rightHanded || inner.operator.rightHanded) = true := by
        rw [hinner, Bool.or_true]
      rw [evaluate_rightHanded hr hn given document rfl hside,
        evaluate_rightHanded hr hm given document rfl hside']
      refine Corresponds.bind (R := Eq) (.refl (fun _ => trivial) (fun _ => rfl) _) fun v w hvw => ?_
      subst hvw
      exact happlied _
    | false =>
      -- the operand would come after the two, but both have failed on it before
      have hside : (operation.rightHanded || inner.operator.rightHanded) = false := by
        rw [hinner, h.rightHanded.1, Bool.or_self]
      have hside' : (denial.rightHanded || inner.operator.rightHanded) = false := by
        rw [hinner, h.rightHanded.2, Bool.or_self]
      obtain ⟨⟨e, he⟩, e', he'⟩ := Builtin.run_node_complement h hev
        (Node.contextIn selector given document) inner document
      rw [evaluate_chained hr hn given document rfl hside,
        evaluate_chained hr hm given document rfl hside',
        applied_builtin (show _ = operation.operator from rfl),
        applied_builtin (show _ = denial.operator from rfl), he, he']
      exact .error trivial
  | _ =>
    rw [evaluate_direct hr hn given document rfl, evaluate_direct hr hm given document rfl]
    exact happlied _

end Registry

/-! ## Filters and their denials -/

namespace Filter

/-- A filter under `$not` is compiled as it is on its own. -/
theorem ofValue_denied (members : Members) :
    ofValue (Registry.defaults : Registry κ) (.object [("$not", .object members)]) =
      (Registry.defaults.nodeOf (.object members) false).map fun n =>
        ⟨.plain Builtin.negation.operator (.node n), Registry.defaults⟩ := by
  have hnot : (Registry.defaults : Registry κ).get? "$not" = some Builtin.negation.operator :=
    Registry.defaults_holdsBuiltins .negation
  rw [ofValue_eq, Registry.nodeOf_single, Registry.memberOf_operator hnot,
    Registry.operandOf_object_operator _ rfl]
  cases (Registry.defaults : Registry κ).nodeOf (.object members) false with
  | ok n =>
    rw [ok_bind, Registry.chained_negation]
    rfl
  | error e => rfl

/-- **`$not` denies the filter in its operand**, in every context. -/
theorem matchesIn_denied {members : Members} {p q : Filter κ}
    (hp : ofValue Registry.defaults (.object members) = .ok p)
    (hq : ofValue Registry.defaults (.object [("$not", .object members)]) = .ok q)
    (host : Host κ) (given : Option Json) (document : Json) :
    q.matchesIn host given document = (p.matchesIn host given document).map (!·) := by
  have hr := Registry.defaults_holdsBuiltins (κ := κ)
  have hbuiltin := Registry.builtinOnly_of_formed (formed_of_ofValue hq).2
  rw [ofValue_eq] at hp
  obtain ⟨n, hn, rfl⟩ := map_eq_ok.mp hp
  rw [ofValue_denied, hn] at hq
  obtain rfl := Except.ok.inj hq
  rw [matchesIn, evaluate, Registry.evaluate_negation hr host hbuiltin rfl rfl,
    Node.contextIn_plain, matchesIn, evaluate]
  cases Registry.defaults.evaluate host n given document <;> rfl

section
variable {operation denial : Builtin} (h : operation.Complement denial) {key : Option String}
  (hkey : ∀ field ∈ key, (Registry.defaults : Registry κ).get? field = none) (v : Json)
include h hkey

/-- A condition and its denial are compiled to the same but for the operator. -/
theorem ofValue_complement : Corresponds (fun _ _ => True) (fun p q : Filter κ => ∃ x,
      p = ⟨⟨key.map Selector.mk, operation.operator, x⟩, Registry.defaults⟩ ∧
        q = ⟨⟨key.map Selector.mk, denial.operator, x⟩, Registry.defaults⟩)
    (ofValue Registry.defaults (.under key (.object [(operation.name, v)])))
    (ofValue Registry.defaults (.under key (.object [(denial.name, v)]))) := by
  have hr := Registry.defaults_holdsBuiltins (κ := κ)
  rw [ofValue_under_operator hkey (hr operation) h.isReference.1,
    ofValue_under_operator hkey (hr denial) h.isReference.2]
  refine (Registry.defaults.operandOf_sameShape h.sameShape v key.isSome).map fun x y hxy => ?_
  subst hxy
  exact ⟨x, rfl, rfl⟩

/-- **A condition and its denial answer the opposite, or both fail.** -/
theorem matchesIn_opposed {p q : Filter κ}
    (hp : ofValue Registry.defaults (.under key (.object [(operation.name, v)])) = .ok p)
    (hq : ofValue Registry.defaults (.under key (.object [(denial.name, v)])) = .ok q)
    (host : Host κ) (given : Option Json) (document : Json) :
    Corresponds (fun _ _ => True) (fun a b => b = !a)
      (p.matchesIn host given document) (q.matchesIn host given document) := by
  have hr := Registry.defaults_holdsBuiltins (κ := κ)
  obtain ⟨x, rfl, rfl⟩ := (ofValue_complement h hkey v).of_ok hp hq
  have hbuiltin := Registry.builtinOnly_of_formed (formed_of_ofValue hp).2
  exact (Registry.evaluate_complement hr host h hbuiltin given document).map fun _ _ hvw => hvw

end

end Filter

/-- **What is denied answers the opposite.** Under `$not` a filter compiles when it does on its own,
and answers the opposite or fails with the same report, in whatever context; and a condition
compiles when its denial does, under a field as well as without one, and the two answer the opposite
or both fail. -/
theorem Filter.matchesIn_complement :
    (∀ members : Members,
      ((∃ p : Filter κ, Filter.ofValue Registry.defaults (.object members) = .ok p) ↔
        ∃ q : Filter κ, Filter.ofValue Registry.defaults
          (.object [("$not", .object members)]) = .ok q) ∧
      ∀ p q : Filter κ, Filter.ofValue Registry.defaults (.object members) = .ok p →
        Filter.ofValue Registry.defaults (.object [("$not", .object members)]) = .ok q →
        ∀ host given document,
          q.matchesIn host given document = (p.matchesIn host given document).map (!·)) ∧
    ∀ (operation denial : Builtin), operation.Complement denial → ∀ key : Option String,
      (∀ field ∈ key, (Registry.defaults : Registry κ).get? field = none) → ∀ v,
      ((∃ p : Filter κ, Filter.ofValue Registry.defaults
          (.under key (.object [(operation.name, v)])) = .ok p) ↔
        ∃ q : Filter κ, Filter.ofValue Registry.defaults
          (.under key (.object [(denial.name, v)])) = .ok q) ∧
      ∀ p q : Filter κ,
        Filter.ofValue Registry.defaults (.under key (.object [(operation.name, v)])) = .ok p →
        Filter.ofValue Registry.defaults (.under key (.object [(denial.name, v)])) = .ok q →
        ∀ host given document, Corresponds (fun _ _ => True) (fun a b => b = !a)
          (p.matchesIn host given document) (q.matchesIn host given document) := by
  refine ⟨fun members => ⟨?_, fun p q => Filter.matchesIn_denied⟩,
    fun operation denial h key hkey v => ⟨?_, fun p q => Filter.matchesIn_opposed h hkey v⟩⟩
  · rw [Filter.ofValue_denied, Filter.ofValue_eq]
    cases (Registry.defaults : Registry κ).nodeOf (.object members) false with
    | ok n => exact ⟨fun _ => ⟨_, rfl⟩, fun _ => ⟨_, rfl⟩⟩
    | error e =>
      refine ⟨?_, ?_⟩
      · rintro ⟨p, hp⟩
        cases hp
      · rintro ⟨q, hq⟩
        cases hq
  · exact (Filter.ofValue_complement h hkey v).exists_ok_iff

/-- A filter and its denial, and a list of values and its denial about an absent field. -/
theorem Filter.matchesIn_complement_absent :
    ∃ p q p' q' : Filter Empty,
      Filter.ofValue Registry.defaults (.object [("g", .null)]) = .ok p ∧
      Filter.ofValue Registry.defaults (.object [("$not", .object [("g", .null)])]) = .ok q ∧
      Filter.ofValue Registry.defaults (.object [("f", .object [("$in",
        .array [.bool true, .null])])]) = .ok p' ∧
      Filter.ofValue Registry.defaults (.object [("f", .object [("$nin",
        .array [.bool true, .null])])]) = .ok q' ∧
      q.matchesIn Host.none none (.object [("g", .null)]) =
        (p.matchesIn Host.none none (.object [("g", .null)])).map (!·) ∧
      q'.matchesIn Host.none none (.object [("g", .null)]) = .ok false := by
  obtain ⟨hfilter, hcondition⟩ := @Filter.matchesIn_complement Empty
  obtain ⟨p, hp⟩ : ∃ p : Filter Empty,
    Filter.ofValue Registry.defaults (.object [("g", .null)]) = .ok p := ⟨_, rfl⟩
  obtain ⟨q, hq⟩ := (hfilter [("g", .null)]).1.mp ⟨p, hp⟩
  obtain ⟨p', hp', hholds⟩ : ∃ p' : Filter Empty, Filter.ofValue Registry.defaults
      (.object [("f", .object [("$in", .array [.bool true, .null])])]) = .ok p' ∧
      p'.matchesIn Host.none none (.object [("g", .null)]) = .ok true := ⟨_, rfl, rfl⟩
  have hkey : ∀ field ∈ some "f", (Registry.defaults : Registry Empty).get? field = none := by
    rintro field ⟨⟩
    rfl
  obtain ⟨hiff, hopposed⟩ := hcondition .anyOf .noneOf .anyOf (some "f") hkey
    (.array [.bool true, .null])
  obtain ⟨q', hq'⟩ := hiff.mp ⟨p', hp'⟩
  have hanswer := hopposed p' q' hp' hq' Host.none none (.object [("g", .null)])
  rw [hholds] at hanswer
  refine ⟨p, q, p', q', hp, hq, hp', hq', (hfilter _).2 p q hp hq _ _ _, ?_⟩
  generalize q'.matchesIn Host.none none (.object [("g", .null)]) = answer at hanswer ⊢
  cases hanswer with
  | ok h => rw [h]; rfl

end DocFilter
