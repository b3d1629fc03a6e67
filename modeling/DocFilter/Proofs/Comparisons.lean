import DocFilter.Proofs.Computed
import DocFilter.Proofs.Equality
import DocFilter.Proofs.Order

/-!
# Comparing a field

An operator that takes a value is given one in two ways: as a literal, or by a reference to a field.
Either way the operator itself is applied to the value of the field that it stands under and to the
value that it is given, so a filter answers what the operator answers about the two
(`Filter.exists_of_literal`, `Filter.exists_of_reference`).

Then what is known of the order of values is known of filters. Equality and the four bounds go by
one order, whatever is under the field and however deep it is:

> `Filter.matches?_compared`: with a scalar, a field is equal just when it is at most and at least
> the scalar; at most means below or equal, at least above or equal, and no two of below, equal and
> above hold together.

The same order can be asked from either field. A bound by the rounded value of a field, which is
evaluated before the operator over it, is then a condition on what is rounded, which is evaluated
after:

> `Filter.matches?_converse`: a bound that one field sets another is the converse bound that the
> other sets the one.
-/

namespace DocFilter

variable {κ : Type}

/-! ## What an operator is given -/

namespace Filter

section
variable {key : String} (hkey : (Registry.defaults : Registry κ).get? key = none)
  (operation : Builtin) (hkind : (operation.operator : Operator κ).kind = .value)
include hkey hkind

/-- An operator under a field that is given a literal. -/
theorem exists_of_literal {v : Json} (hv : v.isContainer = false) :
    ∃ f : Filter κ, ofValue Registry.defaults
        (.object [(key, .object [(operation.name, v)])]) = .ok f ∧
      ∀ (host : Host κ) (document : Json) (b : Bool),
        operation.run (Registry.defaults.evaluator host) (Selector.resolve ⟨key⟩ document)
          (.value v) document = Builtin.answer b → f.matches? host document = .ok b := by
  have hr := Registry.defaults_holdsBuiltins (κ := κ)
  have hf := ofValue_field_operator hkey (hr operation) (Registry.isReference_of_value hkind) v
  rw [Registry.operandOf_scalar _ hv, Registry.scalarOperand_value hkind] at hf
  have hbuiltin := Registry.builtinOnly_of_formed (formed_of_ofValue hf).2
  refine ⟨_, hf, fun host document b hrun => ?_⟩
  rw [matches?, matchesIn, evaluate, Registry.evaluate_leaf hr hbuiltin none document
    (show _ = operation.operator from rfl) rfl]
  exact congrArg (Except.map truthy ∘ Except.mapError _) hrun

/-- An operator under a field that is given a reference. -/
theorem exists_of_reference (rounding : Option Rounding) (other : String) :
    ∃ f : Filter κ, ofValue Registry.defaults
        (.object [(key, .object [(operation.name, .reference rounding other)])]) = .ok f ∧
      ∀ (host : Host κ) (document : Json) (b : Bool),
        operation.run (Registry.defaults.evaluator host) (Selector.resolve ⟨key⟩ document)
          (.ofValue (referred? rounding (Selector.resolve ⟨other⟩ document))) document =
            Builtin.answer b → f.matches? host document = .ok b := by
  have hr := Registry.defaults_holdsBuiltins (κ := κ)
  have hf := ofValue_field_operator hkey (hr operation) (Registry.isReference_of_value hkind)
    (.reference rounding other)
  rw [Registry.operandOf_value_reference hr hkind] at hf
  -- the reference is right-handed, so what it stands for is there before the operator is applied
  have hbuiltin := Registry.builtinOnly_of_formed (formed_of_ofValue hf).2
  refine ⟨_, hf, fun host document b hrun => ?_⟩
  rw [matches?, matchesIn, evaluate, Registry.evaluate_over_reference hr host hbuiltin
    (show _ = operation.operator from rfl) rfl none document]
  exact congrArg (Except.map truthy ∘ Except.mapError _) hrun

end

end Filter

/-- A bound is asked of the order between the context and what it is given, if it is given
anything. -/
theorem Builtin.run_ordered_ofValue (relation : Relation) (ev : Evaluator κ MatchError) (c w : Option Json)
    (document : Json) :
    (ordered relation).run ev c (.ofValue w) document =
      answer ((compareValues? c w).any relation.accepts) := by
  cases w <;> rfl

/-! ## Equality and the bounds -/

/-- **Equality and the bounds agree.** When a field holds a value other than `null`, `$eq`, `$lt`,
`$lte`, `$gt` and `$gte` with a scalar other than `null` give answers that go together. -/
theorem Filter.matches?_compared {key : String}
    (hkey : (Registry.defaults : Registry κ).get? key = none) {v : Json}
    (hv : v.isContainer = false) (hvnull : v ≠ .null) (host : Host κ) {document a : Json}
    (ha : Selector.resolve ⟨key⟩ document = some a) (hnull : a ≠ .null) :
    ∃ (equal : Bool) (bound : Relation → Bool),
      (∃ f, Filter.ofValue Registry.defaults (.object [(key, .object [("$eq", v)])]) = .ok f ∧
        f.matches? host document = .ok equal) ∧
      (∀ relation, ∃ f, Filter.ofValue Registry.defaults
          (.object [(key, .object [((Builtin.ordered relation).name, v)])]) = .ok f ∧
        f.matches? host document = .ok (bound relation)) ∧
      (equal = true ↔ bound .atMost = true ∧ bound .atLeast = true) ∧
      (bound .atMost = true ↔ bound .less = true ∨ equal = true) ∧
      (bound .atLeast = true ↔ bound .greater = true ∨ equal = true) ∧
      ¬ (bound .less = true ∧ equal = true) ∧ ¬ (equal = true ∧ bound .greater = true) ∧
      ¬ (bound .less = true ∧ bound .greater = true) := by
  have hequal : deepEq v (some a) = (compareValues? (some a) (some v)).any (· == .eq) := by
    rw [deepEq_scalar hv, Bool.eq_iff_iff, looseEq_iff_compareValues? hnull hv hvnull]
    cases compareValues? (some a) (some v) <;> simp
  refine ⟨deepEq v (some a), fun relation =>
    (compareValues? (some a) (some v)).any relation.accepts, ?_, fun relation => ?_, ?_⟩
  · obtain ⟨f, hf, hanswer⟩ := exists_of_literal hkey .equal rfl hv
    refine ⟨f, hf, hanswer host document _ ?_⟩
    rw [ha]
    rfl
  · obtain ⟨f, hf, hanswer⟩ := exists_of_literal hkey (.ordered relation) rfl hv
    refine ⟨f, hf, hanswer host document _ ?_⟩
    rw [ha]
    rfl
  · -- all five are told from one order, of which there are four cases
    rw [hequal]
    cases compareValues? (some a) (some v) with
    | none => decide
    | some o => cases o <;> decide

/-- A list of one number, next to that number. -/
theorem Filter.matches?_compared_list :
    ∃ bound : Relation → Bool,
      (∃ f, Filter.ofValue (Registry.defaults : Registry Empty)
          (.object [("f", .object [("$eq", .number (.int 7))])]) = .ok f ∧
        f.matches? Host.none (.object [("f", .array [.string " 7"])]) = .ok true) ∧
      (∀ relation, ∃ f, Filter.ofValue (Registry.defaults : Registry Empty)
          (.object [("f", .object [((Builtin.ordered relation).name, .number (.int 7))])]) = .ok f ∧
        f.matches? Host.none (.object [("f", .array [.string " 7"])]) = .ok (bound relation)) ∧
      bound .atMost = true ∧ bound .atLeast = true ∧ bound .less = false ∧
        bound .greater = false := by
  have hkey : (Registry.defaults : Registry Empty).get? "f" = none := rfl
  have hnull : Json.number (.int 7) ≠ .null := by simp
  have hlookup : Selector.resolve ⟨"f"⟩ (.object [("f", .array [.string " 7"])]) =
      some (.array [.string " 7"]) := rfl
  have hlist : Json.array [.string " 7"] ≠ .null := by simp
  obtain ⟨equal, bound, ⟨f, hf, hequal⟩, hbound, hboth, -, -, hless, hgreater, -⟩ :=
    Filter.matches?_compared hkey rfl hnull Host.none hlookup hlist
  obtain ⟨g, hg, hanswer⟩ : ∃ g, Filter.ofValue (Registry.defaults : Registry Empty)
      (.object [("f", .object [("$eq", .number (.int 7))])]) = .ok g ∧
      g.matches? Host.none (.object [("f", .array [.string " 7"])]) = .ok true := ⟨_, rfl, rfl⟩
  obtain rfl := Except.ok.inj (hg.symm.trans hf)
  obtain rfl := Except.ok.inj (hanswer.symm.trans hequal)
  obtain ⟨hatMost, hatLeast⟩ := hboth.mp rfl
  refine ⟨bound, ⟨g, hg, hanswer⟩, hbound, hatMost, hatLeast, ?_, ?_⟩
  · exact Bool.eq_false_iff.mpr fun h => hless ⟨h, rfl⟩
  · exact Bool.eq_false_iff.mpr fun h => hgreater ⟨rfl, h⟩

/-! ## Turning a bound round -/

/-- The relation from the other side. -/
def Relation.converse : Relation → Relation
  | greater => less
  | atLeast => atMost
  | less => greater
  | atMost => atLeast

/-- The converse relation holds of the order turned round. -/
theorem Relation.accepts_swap (relation : Relation) (o : Ordering) :
    relation.converse.accepts o.swap = relation.accepts o := by
  cases relation <;> cases o <;> rfl

/-- Of two values, one is in a relation to the other when that is in the converse relation to it. -/
theorem Relation.any_converse (relation : Relation) (a b : Option Json) :
    (compareValues? b a).any relation.converse.accepts =
      (compareValues? a b).any relation.accepts := by
  rw [compareValues?_swap a b, Option.any_map]
  exact congrArg (compareValues? a b).any (funext relation.accepts_swap)

section
variable {key : String} (hkey : (Registry.defaults : Registry κ).get? key = none)
include hkey

/-- A bound that another field sets, or the rounded value of another field. -/
theorem Filter.exists_of_bound (relation : Relation) (rounding : Option Rounding) (other : String) :
    ∃ f : Filter κ, Filter.ofValue Registry.defaults (.object [(key,
        .object [((Builtin.ordered relation).name, .reference rounding other)])]) = .ok f ∧
      ∀ (host : Host κ) (document : Json), f.matches? host document =
        .ok ((compareValues? (Selector.resolve ⟨key⟩ document)
          (referred? rounding (Selector.resolve ⟨other⟩ document))).any relation.accepts) := by
  obtain ⟨f, hf, hanswer⟩ := exists_of_reference hkey (.ordered relation) rfl rounding other
  exact ⟨f, hf, fun host document =>
    hanswer host document _ (Builtin.run_ordered_ofValue relation _ _ _ document)⟩

/-- A bound that another field sets to the rounded value of a field. -/
theorem Filter.exists_of_rounded_bound (relation : Relation) (rounding : Rounding)
    (other : String) :
    ∃ f : Filter κ, Filter.ofValue Registry.defaults (.object [(key,
        .object [((Builtin.rounded rounding).name,
          .object [((Builtin.ordered relation).name, .reference none other)])])]) = .ok f ∧
      ∀ (host : Host κ) (document : Json), f.matches? host document =
        .ok ((compareValues? (rounding.value? (Selector.resolve ⟨key⟩ document))
          (Selector.resolve ⟨other⟩ document)).any relation.accepts) := by
  have hr := Registry.defaults_holdsBuiltins (κ := κ)
  let inner : Node κ := .plain (Builtin.ordered relation).operator (.node (.reference none ⟨other⟩))
  have hinner : (Registry.defaults : Registry κ).operandOf
      (.object [((Builtin.ordered relation).name, .reference none other)])
      (Builtin.rounded rounding).operator true = .ok (.node inner) := by
    rw [Registry.operandOf_object_operator _ rfl, Registry.nodeOf_single,
      Registry.memberOf_operator (hr (.ordered relation)),
      Registry.operandOf_value_reference hr rfl]
    rfl
  have hf := ofValue_field_operator hkey (hr (.rounded rounding)) rfl
    (.object [((Builtin.ordered relation).name, .reference none other)])
  rw [hinner] at hf
  -- the bound is asked of the rounded value, which is handed on to it and may be missing
  obtain ⟨inner', hinner', hformed, hanswer⟩ := exists_of_rounded hkey rounding hf
  obtain rfl := Operand.node.inj (Except.ok.inj (hinner.symm.trans hinner'))
  refine ⟨_, hf, fun host document => ?_⟩
  rw [hanswer, Registry.evaluate_over_reference hr host (Registry.builtinOnly_of_formed hformed)
    (show _ = (Builtin.ordered relation).operator from rfl) rfl _ document,
    Builtin.run_ordered_ofValue, Node.contextIn_plain]
  rfl

end

/-- **A bound between two fields can be turned round.** -/
theorem Filter.matches?_converse {f g : String}
    (hf : (Registry.defaults : Registry κ).get? f = none)
    (hg : (Registry.defaults : Registry κ).get? g = none) (relation : Relation) :
    (∃ p q : Filter κ,
        Filter.ofValue Registry.defaults (.object [(f, .object [((Builtin.ordered relation).name,
          .object [("$val", .string g)])])]) = .ok p ∧
        Filter.ofValue Registry.defaults (.object [(g,
          .object [((Builtin.ordered relation.converse).name,
            .object [("$val", .string f)])])]) = .ok q ∧
        ∀ host document, ∃ b, p.matches? host document = .ok b ∧
          q.matches? host document = .ok b ∧
          b = (compareValues? (Selector.resolve ⟨f⟩ document)
            (Selector.resolve ⟨g⟩ document)).any relation.accepts) ∧
      ∀ rounding, ∃ p q : Filter κ,
        Filter.ofValue Registry.defaults (.object [(f, .object [((Builtin.ordered relation).name,
          .object [((Builtin.roundedField rounding).name, .string g)])])]) = .ok p ∧
        Filter.ofValue Registry.defaults (.object [(g, .object [((Builtin.rounded rounding).name,
          .object [((Builtin.ordered relation.converse).name,
            .object [("$val", .string f)])])])]) = .ok q ∧
        ∀ host document, ∃ b, p.matches? host document = .ok b ∧
          q.matches? host document = .ok b ∧
          b = (compareValues? (Selector.resolve ⟨f⟩ document)
            (rounding.value? (Selector.resolve ⟨g⟩ document))).any relation.accepts := by
  refine ⟨?_, fun rounding => ?_⟩
  · obtain ⟨p, hp, hanswer⟩ := exists_of_bound hf relation none g
    obtain ⟨q, hq, hconverse⟩ := exists_of_bound hg relation.converse none f
    refine ⟨p, q, hp, hq, fun host document => ⟨_, hanswer host document, ?_, rfl⟩⟩
    rw [hconverse, relation.any_converse]
    rfl
  · obtain ⟨p, hp, hanswer⟩ := exists_of_bound hf relation (some rounding) g
    obtain ⟨q, hq, hconverse⟩ := exists_of_rounded_bound hg relation.converse rounding f
    refine ⟨p, q, hp, hq, fun host document => ⟨_, hanswer host document, ?_, rfl⟩⟩
    rw [hconverse, relation.any_converse]
    rfl

/-- A number below the rounded value of a text. -/
theorem Filter.matches?_converse_rounded :
    ∃ p q, Filter.ofValue (Registry.defaults : Registry Empty) (.object [("f", .object [("$lt",
        .object [("$ceilRH", .string "g")])])]) = .ok p ∧
      Filter.ofValue (Registry.defaults : Registry Empty) (.object [("g", .object [("$ceil",
        .object [("$gt", .object [("$val", .string "f")])])])]) = .ok q ∧
      p.matches? Host.none (.object [("f", .number (.int 7)), ("g", .string "7.5")]) = .ok true ∧
      q.matches? Host.none (.object [("f", .number (.int 7)), ("g", .string "7.5")]) =
        .ok true := by
  have hf : (Registry.defaults : Registry Empty).get? "f" = none := rfl
  have hg : (Registry.defaults : Registry Empty).get? "g" = none := rfl
  obtain ⟨-, hrounded⟩ := Filter.matches?_converse hf hg .less
  obtain ⟨p, q, hp, hq, hanswer⟩ := hrounded .up
  obtain ⟨b, hpb, hqb, hb⟩ := hanswer Host.none
    (.object [("f", .number (.int 7)), ("g", .string "7.5")])
  obtain rfl : b = true := hb.trans rfl
  exact ⟨p, q, hp, hq, hpb, hqb⟩

end DocFilter
