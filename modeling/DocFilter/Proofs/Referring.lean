import DocFilter.Proofs.Comparisons

/-!
# References in the place of literals

What an operator compares a field with can stand in the query, or in another field that the query
refers to. The literal is read when the query is compiled, and the reference when a document is
there. After that the operator is applied to the same operand, so

> `Filter.matches?_referred`: on a document in which it refers to a scalar, a reference does what
> the scalar would do.

For patterns the two ways differ in more than time. A literal is compiled once and is refused with
the query when it does not compile (`Filter.exists_of_pattern`). What is referred to is compiled for
every document, and only when the field is a text (`Filter.exists_of_referred_pattern`): the same
failure then is the report of a match.
-/

namespace DocFilter

variable {κ : Type}

/-! ## Comparisons -/

/-- The operations that compare the value at hand with one other value. -/
def Builtin.comparisons : List Builtin :=
  [equal, notEqual, ordered .greater, ordered .atLeast, ordered .less, ordered .atMost, present,
    empty]

theorem Builtin.kind_of_mem_comparisons {operation : Builtin} (h : operation ∈ comparisons) :
    (operation.operator : Operator κ).kind = .value := by
  cases operation with
  | equal | notEqual | ordered | present | empty => rfl
  | rounded | roundedField => exact absurd h (by simp [comparisons])
  | _ => exact absurd h (by decide)

/-- A comparison with a value always answers. -/
theorem Registry.exists_answer_of_comparison {r : Registry κ} (hr : r.HoldsBuiltins) (host : Host κ)
    {operation : Builtin} (h : operation ∈ Builtin.comparisons) (c : Option Json)
    (v document : Json) :
    ∃ b, operation.run (r.evaluator host) c (.value v) document = Builtin.answer b := by
  cases operation with
  | equal | ordered | present | empty => exact ⟨_, rfl⟩
  | notEqual =>
    refine ⟨!deepEq v c, ?_⟩
    rw [Builtin.run, Evaluator.equals_eq_map, evaluator_equal hr (r.evaluator host)]
    rfl
  | rounded | roundedField => exact absurd h (by simp [Builtin.comparisons])
  | _ => exact absurd h (by decide)

/-! ## Patterns -/

/-- Whether a value is a text in which a pattern is found. -/
def Regex.foundIn (regex : Regex) : Option Json → Bool
  | some (.string text) => regex.isMatch text
  | _ => false

/-- Whether a value is a text. -/
def Json.IsText (value : Option Json) : Prop :=
  ∃ text, value = some (.string text)

namespace Builtin

theorem run_regex_pattern (ev : Evaluator κ MatchError) (compiled : Regex) (c : Option Json)
    (document : Json) :
    regex.run ev c (.pattern compiled) document = answer (compiled.foundIn c) := by
  cases c with
  | none => rfl
  | some v => cases v <;> rfl

/-- Nothing but texts is searched, with whatever pattern. -/
theorem run_regex_of_not_text (ev : Evaluator κ MatchError) {c : Option Json}
    (hc : ¬ Json.IsText c) (x : Operand κ) (document : Json) : regex.run ev c x document = answer false := by
  cases c with
  | none => rfl
  | some v =>
    cases v with
    | string text => exact absurd ⟨text, rfl⟩ hc
    | _ => rfl

/-- A text that compiles does what the compiled pattern does. -/
theorem run_regex_of_compile (ev : Evaluator κ MatchError) {source : String} {compiled : Regex}
    (h : Pattern.compile source = .ok compiled) (c : Option Json) (document : Json) :
    regex.run ev c (.value (.string source)) document = answer (compiled.foundIn c) := by
  by_cases hc : Json.IsText c
  · obtain ⟨text, rfl⟩ := hc
    simp only [run, h]
    rfl
  · rw [← run_regex_pattern ev compiled c document, run_regex_of_not_text ev hc,
      run_regex_of_not_text ev hc]

/-- A text that does not compile makes the search of a text fail. -/
theorem run_regex_of_error (ev : Evaluator κ MatchError) {source : String} {reason : PatternError}
    (h : Pattern.compile source = .error reason) (text : String) (document : Json) :
    regex.run ev (some (.string text)) (.value (.string source)) document =
      .error (.failure (.invalidPattern reason)) := by
  simp only [run, h]

end Builtin

namespace Filter

section
variable {key : String} (hkey : (Registry.defaults : Registry κ).get? key = none)
include hkey

/-- A pattern that is given as a literal is compiled with the query. -/
theorem ofValue_pattern (source : String) :
    ofValue (Registry.defaults : Registry κ)
        (.object [(key, .object [("$regex", .string source)])]) =
      (Registry.patternOperand Builtin.regex.operator source).map fun x =>
        ⟨⟨some ⟨key⟩, Builtin.regex.operator, x⟩, Registry.defaults⟩ := by
  have hr := Registry.defaults_holdsBuiltins (κ := κ)
  have hf := ofValue_field_operator hkey (hr .regex) rfl (.string source)
  rw [Registry.operandOf_scalar _ rfl] at hf
  exact hf

/-- When it compiles, the filter searches the field for it. -/
theorem exists_of_pattern {source : String} {compiled : Regex}
    (h : Pattern.compile source = .ok compiled) :
    ∃ f : Filter κ, ofValue Registry.defaults
        (.object [(key, .object [("$regex", .string source)])]) = .ok f ∧
      ∀ (host : Host κ) (document : Json), f.matches? host document =
        .ok (compiled.foundIn (Selector.resolve ⟨key⟩ document)) := by
  have hr := Registry.defaults_holdsBuiltins (κ := κ)
  have hf := ofValue_pattern hkey source
  rw [Registry.patternOperand, h] at hf
  have hbuiltin := Registry.builtinOnly_of_formed (formed_of_ofValue hf).2
  refine ⟨_, hf, fun host document => ?_⟩
  rw [matches?, matchesIn, evaluate, Registry.evaluate_leaf hr hbuiltin none document
    (show _ = Builtin.regex.operator from rfl) rfl, Builtin.run_regex_pattern]
  rfl

/-- When it does not, the query is refused. -/
theorem ofValue_invalidPattern {source : String} {reason : PatternError}
    (h : Pattern.compile source = .error reason) :
    ofValue (Registry.defaults : Registry κ)
        (.object [(key, .object [("$regex", .string source)])]) =
      .error (.invalidPattern "$regex" reason) := by
  rw [ofValue_pattern hkey, Registry.patternOperand, h]
  rfl

/-- A pattern that is referred to is what the reference gives on a document. -/
theorem exists_of_referred_pattern (other : String) :
    ∃ f : Filter κ, ofValue Registry.defaults
        (.object [(key, .object [("$regex", .object [("$val", .string other)])])]) = .ok f ∧
      ∀ (host : Host κ) (document : Json), f.matches? host document =
        ((Builtin.regex.run (Registry.defaults.evaluator host) (Selector.resolve ⟨key⟩ document)
          (.ofValue (Selector.resolve ⟨other⟩ document)) document).mapError fun e =>
            e.report Builtin.regex.operator f.root.operand
              (Selector.resolve ⟨key⟩ document)).map truthy := by
  have hr := Registry.defaults_holdsBuiltins (κ := κ)
  have hoperand : (Registry.defaults : Registry κ).operandOf (.object [("$val", .string other)])
      Builtin.regex.operator true = .ok (.node (.reference none ⟨other⟩)) := by
    rw [Registry.operandOf_object]
    exact bind_eq_ok.mpr ⟨_, Registry.nodeOf_reference hr none other true, rfl⟩
  have hf := ofValue_field_operator hkey (hr .regex) rfl (.object [("$val", .string other)])
  rw [hoperand] at hf
  have hbuiltin := Registry.builtinOnly_of_formed (formed_of_ofValue hf).2
  refine ⟨_, hf, fun host document => ?_⟩
  rw [matches?, matchesIn, evaluate, Registry.evaluate_over_reference hr host hbuiltin
    (show _ = Builtin.regex.operator from rfl) rfl none document]
  rfl

end

end Filter

/-! ## References and literals -/

/-- **A reference does what the literal that it refers to would do**, as the operand of a comparison
and as a pattern that compiles. A pattern that does not compile is refused with the query when it is
a literal, and with the document when it is referred to and the field is a text. -/
theorem Filter.matches?_referred {key : String}
    (hkey : (Registry.defaults : Registry κ).get? key = none) (other : String) :
    (∀ name ∈ ["$eq", "$ne", "$gt", "$gte", "$lt", "$lte", "$exists", "$empty"], ∀ v : Json,
      v.isContainer = false → ∃ p q : Filter κ,
        Filter.ofValue Registry.defaults (.object [(key, .object [(name, v)])]) = .ok p ∧
        Filter.ofValue Registry.defaults
          (.object [(key, .object [(name, .object [("$val", .string other)])])]) = .ok q ∧
        ∀ host document, Selector.resolve ⟨other⟩ document = some v →
          ∃ b, p.matches? host document = .ok b ∧ q.matches? host document = .ok b) ∧
    ∃ q : Filter κ, Filter.ofValue Registry.defaults
        (.object [(key, .object [("$regex", .object [("$val", .string other)])])]) = .ok q ∧
      (∀ source compiled, Pattern.compile source = .ok compiled → ∃ p : Filter κ,
        Filter.ofValue Registry.defaults (.object [(key, .object [("$regex", .string source)])]) =
          .ok p ∧
        ∀ host document, Selector.resolve ⟨other⟩ document = some (.string source) →
          ∃ b, p.matches? host document = .ok b ∧ q.matches? host document = .ok b) ∧
      ∀ source reason, Pattern.compile source = .error reason →
        Filter.ofValue (Registry.defaults : Registry κ)
          (.object [(key, .object [("$regex", .string source)])]) =
            .error (.invalidPattern "$regex" reason) ∧
        ∀ host document, Selector.resolve ⟨other⟩ document = some (.string source) →
          (Json.IsText (Selector.resolve ⟨key⟩ document) → q.matches? host document =
            .error ⟨"$regex", q.root.operand.text, Selector.resolve ⟨key⟩ document,
              .invalidPattern reason⟩) ∧
          (¬ Json.IsText (Selector.resolve ⟨key⟩ document) →
            q.matches? host document = .ok false) := by
  refine ⟨fun name hname v hv => ?_, ?_⟩
  · obtain ⟨operation, hmem, rfl⟩ : ∃ operation ∈ Builtin.comparisons, operation.name = name :=
      List.mem_map.mp hname
    have hkind := Builtin.kind_of_mem_comparisons (κ := κ) hmem
    obtain ⟨p, hp, hliteral⟩ := exists_of_literal hkey operation hkind hv
    obtain ⟨q, hq, hreferred⟩ := exists_of_reference hkey operation hkind none other
    refine ⟨p, q, hp, hq, fun host document hother => ?_⟩
    obtain ⟨b, hb⟩ := Registry.exists_answer_of_comparison Registry.defaults_holdsBuiltins host hmem
      (Selector.resolve ⟨key⟩ document) v document
    refine ⟨b, hliteral host document b hb, hreferred host document b ?_⟩
    rw [hother]
    exact hb
  · obtain ⟨q, hq, hreferred⟩ := exists_of_referred_pattern hkey other
    refine ⟨q, hq, fun source compiled hcompile => ?_, fun source reason hcompile =>
      ⟨ofValue_invalidPattern hkey hcompile, fun host document hother => ⟨?_, fun hno => ?_⟩⟩⟩
    · obtain ⟨p, hp, hliteral⟩ := exists_of_pattern hkey hcompile
      refine ⟨p, hp, fun host document hother => ⟨_, hliteral host document, ?_⟩⟩
      rw [hreferred, hother, Operand.ofValue, Builtin.run_regex_of_compile _ hcompile]
      rfl
    · rintro ⟨text, htext⟩
      rw [hreferred, hother, Operand.ofValue, htext, Builtin.run_regex_of_error _ hcompile]
      rfl
    · rw [hreferred, Builtin.run_regex_of_not_text _ hno]
      rfl

/-- A pattern with a flag that is none, in the query, next to a text and next to a number. -/
theorem Filter.matches?_referred_pattern :
    ∃ q, Filter.ofValue (Registry.defaults : Registry Empty)
        (.object [("f", .object [("$regex", .object [("$val", .string "g")])])]) = .ok q ∧
      Filter.ofValue (Registry.defaults : Registry Empty)
        (.object [("f", .object [("$regex", .string "/a/x")])]) =
          .error (.invalidPattern "$regex" (.flag 'x')) ∧
      q.matches? Host.none (.object [("f", .string "a"), ("g", .string "/a/x")]) =
        .error ⟨"$regex", "$val(\"g\")", some (.string "a"), .invalidPattern (.flag 'x')⟩ ∧
      q.matches? Host.none (.object [("f", .number (.int 5)), ("g", .string "/a/x")]) =
        .ok false := by
  have hkey : (Registry.defaults : Registry Empty).get? "f" = none := rfl
  have hcompile : Pattern.compile "/a/x" = .error (.flag 'x') := rfl
  obtain ⟨-, q, hq, -, hinvalid⟩ := Filter.matches?_referred hkey "g"
  obtain ⟨hrefused, hanswer⟩ := hinvalid "/a/x" (.flag 'x') hcompile
  have hnumber : ¬ Json.IsText (Selector.resolve ⟨"f"⟩
      (.object [("f", .number (.int 5)), ("g", .string "/a/x")])) := by
    rintro ⟨text, h⟩
    cases h
  refine ⟨q, hq, hrefused, ?_, (hanswer Host.none _ rfl).2 hnumber⟩
  rw [(hanswer Host.none _ rfl).1 ⟨"a", rfl⟩]
  obtain rfl := Except.ok.inj ((show _ = Except.ok _ from rfl).symm.trans hq)
  rfl

end DocFilter
