import DocFilter.Proofs.Evaluation
import Mathlib.Data.List.MinMax
import Mathlib.Data.List.ProdSigma
import Mathlib.Order.Nat

/-!
# Set operators over any equality

`$ne`, `$in`, `$nin` and `$all` compare nothing themselves: they call the operator that goes by the
name `$eq`, which a host can replace by one of its own. What they make of its answers is said here
once, for every such operator that does not fail.

They call it for one candidate and one operand at a time, `$in` and `$nin` with the operands on the
outside and `$all` with the candidates, and they stop as soon as they know (`Builtin.run_anyOf`,
`Builtin.run_allOf`). When no call fails, stopping early makes no difference:

> `Registry.sets_quantify`: `$ne` denies `$eq`, `$in` asks for some operand and some candidate that
> are equal, `$nin` denies that, and `$all` asks for an operand equal to it for every candidate.

A formula like this does not know in which order, or how many times, operands and candidates come.

An operator of the host may call others, to any depth. What such an operator returns is what it
returns when calls may be nested deeply enough (`Registry.Yields`).
-/

namespace DocFilter

variable {κ ρ : Type}

/-- A value that a condition about sets looks at: an element of an array, or else the whole. -/
inductive Candidate : Option Json → Option Json → Prop
  | element {items : List Json} {v : Json} (h : v ∈ items) :
      Candidate (some (.array items)) (some v)
  | whole {c : Option Json} (h : ∀ items, c ≠ some (.array items)) : Candidate c c

/-- The candidates are what `Builtin.candidates` lists. -/
theorem mem_candidates {c y : Option Json} : y ∈ Builtin.candidates c ↔ Candidate c y := by
  have hwhole : (∀ items, c ≠ some (.array items)) → (y ∈ [c] ↔ Candidate c y) := by
    intro hplain
    rw [List.mem_singleton]
    refine ⟨?_, fun h => ?_⟩
    · rintro rfl
      exact .whole hplain
    · cases h with
      | element => exact absurd rfl (hplain _)
      | whole => rfl
  cases c with
  | none => exact hwhole fun _ h => by cases h
  | some c =>
    cases c with
    | array items =>
      refine ⟨fun h => ?_, fun h => ?_⟩
      · obtain ⟨v, hv, rfl⟩ := List.mem_map.mp h
        exact .element hv
      · cases h with
        | element h => exact List.mem_map_of_mem h
        | whole h => exact absurd rfl (h items)
    | _ => exact hwhole fun _ h => by cases h

/-! ## One operation -/

namespace Builtin

/-- `$ne` denies what `$eq` answers. -/
theorem run_notEqual {ev : Evaluator κ ρ} {c : Option Json} {x : Operand κ} {document : Json}
    {b : Bool} (h : ev.equals c x document = .ok b) : notEqual.run ev c x document = answer (!b) := by
  simp only [run, h, ok_bind]

section
variable {ev : Evaluator κ ρ} {document : Json} {E : Option Json → Operand κ → Bool}
  {c : Option Json} {os : List (Operand κ)}
  (h : ∀ y ∈ candidates c, ∀ o ∈ os, ev.equals y o document = .ok (E y o))
include h

theorem someEqual_eq_any : someEqual ev c (.list os) document =
    .ok (os.any fun o => (candidates c).any fun y => E y o) :=
  anyM_eq_any fun o ho => anyM_eq_any fun y hy => h y hy o ho

theorem run_anyOf : anyOf.run ev c (.list os) document =
    answer (os.any fun o => (candidates c).any fun y => E y o) := by
  simp only [run, someEqual_eq_any h, ok_bind]

theorem run_noneOf : noneOf.run ev c (.list os) document =
    answer (!os.any fun o => (candidates c).any fun y => E y o) := by
  simp only [run, someEqual_eq_any h, ok_bind]

theorem run_allOf : allOf.run ev c (.list os) document =
    answer ((candidates c).all fun y => os.any fun o => E y o) := by
  have hall : ((candidates c).allM fun y => os.anyM fun o => ev.equals y o document) =
      .ok ((candidates c).all fun y => os.any fun o => E y o) :=
    allM_eq_all fun y hy => anyM_eq_any fun o ho => h y hy o ho
  simp only [run, list, ok_bind, hall]

end

end Builtin

/-! ## Calls by name -/

/-- With calls nested this deep or deeper, the operator of a name returns this. -/
def Registry.Yields (r : Registry κ) (host : Host κ) (enough : Nat) (name : String)
    (c : Option Json) (x : Operand κ) (document : Json) (v : Option Json) : Prop :=
  ∀ depth, enough ≤ depth → (r.evaluatorAt host depth).call name c x document = .ok v

namespace Registry

variable {r : Registry κ} {host : Host κ} {document : Json}

/-- Then it returns this when no depth is counted. -/
theorem Yields.call {enough : Nat} {name : String} {c v : Option Json} {x : Operand κ}
    (h : r.Yields host enough name c x document v) : r.call host name c x document = .ok v := by
  have hrun := h enough (Nat.le_refl enough)
  have hwithin : (r.evaluatorAt host enough).Within (r.evaluator host) := evaluatorAt_within enough
  rcases hwithin.call name c x document with hcut | hcall
  · rw [hrun] at hcut
    cases hcut
  · rw [hrun] at hcall
    exact mapError_eq_ok.mp hcall.symm

theorem Yields.equals {enough depth : Nat} {c v : Option Json} {x : Operand κ}
    (h : r.Yields host enough "$eq" c x document v) (hdepth : enough ≤ depth) :
    (r.evaluatorAt host depth).equals c x document = .ok (truthy v) := by
  have hcall : (r.evaluatorAt host depth).call Builtin.equal.name c x document = .ok v :=
    h depth hdepth
  rw [Evaluator.equals_eq_map, hcall]
  rfl

/-- A built-in operation takes one call more than what it calls. -/
theorem yields_builtin {operation : Builtin}
    (hop : r.get? operation.name = some operation.operator) {enough : Nat} {c v : Option Json}
    {x : Operand κ} (hrun : ∀ depth, enough ≤ depth →
      operation.run (r.evaluatorAt host depth) c x document = .ok v) :
    r.Yields host (enough + 1) operation.name c x document v := by
  intro depth hdepth
  obtain ⟨below, rfl⟩ : ∃ below, depth = below + 1 := ⟨depth - 1, by omega⟩
  simp only [evaluatorAt, evaluatorWith, hop]
  rw [applyWithin_succ (show operation.operator.body = .builtin operation from rfl)]
  exact hrun below (by omega)

end Registry

/-! ## The set operators -/

section
variable {E : Option Json → Operand κ → Bool} {c : Option Json} {os : List (Operand κ)}

theorem any_any_candidates :
    (os.any fun o => (Builtin.candidates c).any fun y => E y o) = true ↔
      ∃ o ∈ os, ∃ y, Candidate c y ∧ E y o = true := by
  simp only [List.any_eq_true, mem_candidates]

theorem all_any_candidates :
    ((Builtin.candidates c).all fun y => os.any fun o => E y o) = true ↔
      ∀ y, Candidate c y → ∃ o ∈ os, E y o = true := by
  simp only [List.all_eq_true, List.any_eq_true, mem_candidates]

end

/-- How deep the calls are nested when every candidate is compared with every operand and `need`
says how deep that takes them. -/
def deepest (need : Option Json → Operand κ → Nat) (c : Option Json) (os : List (Operand κ)) : Nat :=
  ((Builtin.candidates c ×ˢ os).map fun p => need p.1 p.2).foldr max 0

theorem le_deepest (need : Option Json → Operand κ → Nat) {c y : Option Json}
    {os : List (Operand κ)} {o : Operand κ} (hy : Candidate c y) (ho : o ∈ os) :
    need y o ≤ deepest need c os := by
  have hmem : (y, o) ∈ Builtin.candidates c ×ˢ os :=
    List.mem_product.mpr ⟨mem_candidates.mpr hy, ho⟩
  exact List.le_max_of_le (List.mem_map_of_mem hmem) (Nat.le_refl _)

theorem deepest_le {need : Option Json → Operand κ → Nat} {c : Option Json} {os : List (Operand κ)}
    {bound : Nat} (h : ∀ y, Candidate c y → ∀ o ∈ os, need y o ≤ bound) :
    deepest need c os ≤ bound := by
  refine List.max_le_of_forall_le _ _ fun n hn => ?_
  obtain ⟨⟨y, o⟩, hmem, rfl⟩ := List.mem_map.mp hn
  obtain ⟨hy, ho⟩ := List.mem_product.mp hmem
  exact h y (mem_candidates.mp hy) o ho

/-- **The set operators quantify over `$eq`**, whatever operator that is, when it does not fail.
For operands and candidates `E` says whether `$eq` holds, and `need` how deep its calls are nested.
What `$in`, `$nin` and `$all` return is the same for any operands and candidates that are the same
but for their order and repetition. -/
theorem Registry.sets_quantify {r : Registry κ} {host : Host κ} {document : Json}
    (hne : r.get? "$ne" = some Builtin.notEqual.operator)
    (hin : r.get? "$in" = some Builtin.anyOf.operator)
    (hnin : r.get? "$nin" = some Builtin.noneOf.operator)
    (hall : r.get? "$all" = some Builtin.allOf.operator)
    {E : Option Json → Operand κ → Bool} {need : Option Json → Operand κ → Nat}
    (hequal : ∀ c x, ∃ v, r.Yields host (need c x) "$eq" c x document v ∧ truthy v = E c x) :
    (∀ c x, r.Yields host (need c x + 1) "$ne" c x document (some (.bool !E c x))) ∧
      ∀ c (os : List (Operand κ)), ∃ (found every : Bool) (enough : Nat),
        (found = true ↔ ∃ o ∈ os, ∃ y, Candidate c y ∧ E y o = true) ∧
        (every = true ↔ ∀ y, Candidate c y → ∃ o ∈ os, E y o = true) ∧
        (∀ bound, (∀ y, Candidate c y → ∀ o ∈ os, need y o ≤ bound) → enough ≤ bound + 1) ∧
        ∀ c' os', (∀ y, Candidate c' y ↔ Candidate c y) → (∀ o, o ∈ os' ↔ o ∈ os) →
          r.Yields host enough "$in" c' (.list os') document (some (.bool found)) ∧
          r.Yields host enough "$nin" c' (.list os') document (some (.bool !found)) ∧
          r.Yields host enough "$all" c' (.list os') document (some (.bool every)) := by
  have hasked : ∀ {c x depth}, need c x ≤ depth →
      (r.evaluatorAt host depth).equals c x document = .ok (E c x) := by
    intro c x depth hdepth
    obtain ⟨v, hv, hE⟩ := hequal c x
    rw [hv.equals hdepth, hE]
  refine ⟨fun c x => Registry.yields_builtin hne fun depth hdepth =>
    Builtin.run_notEqual (hasked hdepth), fun c os => ?_⟩
  refine ⟨os.any fun o => (Builtin.candidates c).any fun y => E y o,
    (Builtin.candidates c).all fun y => os.any fun o => E y o, deepest need c os + 1,
    any_any_candidates, all_any_candidates, fun bound h => Nat.succ_le_succ (deepest_le h),
    fun c' os' hc hos => ?_⟩
  -- the formulas are those of `c` and `os`, since they ask for membership only
  have hfound : (os'.any fun o => (Builtin.candidates c').any fun y => E y o) =
      os.any fun o => (Builtin.candidates c).any fun y => E y o := by
    rw [Bool.eq_iff_iff, any_any_candidates, any_any_candidates]
    simp only [hc, hos]
  have hevery : ((Builtin.candidates c').all fun y => os'.any fun o => E y o) =
      (Builtin.candidates c).all fun y => os.any fun o => E y o := by
    rw [Bool.eq_iff_iff, all_any_candidates, all_any_candidates]
    simp only [hc, hos]
  have hpairs : ∀ depth, deepest need c os ≤ depth → ∀ y ∈ Builtin.candidates c', ∀ o ∈ os',
      (r.evaluatorAt host depth).equals y o document = .ok (E y o) := by
    intro depth hdepth y hy o ho
    have hneed := le_deepest need ((hc y).mp (mem_candidates.mp hy)) ((hos o).mp ho)
    exact hasked (hneed.trans hdepth)
  rw [← hfound, ← hevery]
  exact ⟨Registry.yields_builtin hin fun depth hdepth => Builtin.run_anyOf (hpairs depth hdepth),
    Registry.yields_builtin hnin fun depth hdepth => Builtin.run_noneOf (hpairs depth hdepth),
    Registry.yields_builtin hall fun depth hdepth => Builtin.run_allOf (hpairs depth hdepth)⟩

/-- An equality by which texts of one length are equal. -/
def sameLength : Option Json → Operand Unit → Bool
  | some (.string s), .value (.string t) => s.length == t.length
  | _, _ => false

/-- The host with this equality. -/
def Host.lengths : Host Unit := fun _ c x _ => .done (Builtin.answer (sameLength c x))

/-- The query language with this equality in place of its own. -/
def Registry.lengths : Registry Unit :=
  defaults.insert ⟨"$eq", .value, 0, none, false, .custom ()⟩

/-- Set operators over the equality of lengths, with lists in another order and with repetitions. -/
theorem Registry.sets_quantify_lengths :
    lengths.call .lengths "$ne" none (.value .null) .null = .ok (some (.bool true)) ∧
      lengths.call .lengths "$in" (some (.array [.string "cat", .null]))
        (.list [.value (.string "horse"), .value (.string "dog")]) .null = .ok (some (.bool true)) ∧
      lengths.call .lengths "$nin" (some (.array [.null, .string "cat", .null]))
        (.list [.value (.string "dog"), .value (.string "horse")]) .null = .ok (some (.bool false)) ∧
      lengths.call .lengths "$all" (some (.array [.string "cat", .null]))
        (.list [.value (.string "horse"), .value (.string "dog")]) .null =
          .ok (some (.bool false)) := by
  have hget : lengths.get? "$eq" = some ⟨"$eq", .value, 0, none, false, .custom ()⟩ := rfl
  have hequal : ∀ c x, ∃ v, lengths.Yields .lengths 1 "$eq" c x .null v ∧ truthy v = sameLength c x := by
    refine fun c x => ⟨some (.bool (sameLength c x)), fun depth hdepth => ?_, rfl⟩
    obtain ⟨below, rfl⟩ : ∃ below, depth = below + 1 := ⟨depth - 1, by omega⟩
    simp only [evaluatorAt, evaluatorWith, hget]
    rfl
  obtain ⟨hne, hsets⟩ := sets_quantify (r := lengths) rfl rfl rfl rfl hequal
  obtain ⟨found, every, enough, hfound, hevery, -, hyields⟩ :=
    hsets (some (.array [.string "cat", .null])) [.value (.string "horse"), .value (.string "dog")]
  obtain rfl : found = true := hfound.mpr ⟨.value (.string "dog"), by simp, some (.string "cat"),
    .element (by simp), rfl⟩
  obtain rfl : every = false := by
    refine Bool.eq_false_iff.mpr fun h => ?_
    obtain ⟨o, ho, hequal⟩ := hevery.mp h (some .null) (.element (by simp))
    cases hequal
  have hsame := hyields _ _ (fun _ => Iff.rfl) fun _ => Iff.rfl
  have helements : ∀ y, Candidate (some (.array [.null, .string "cat", .null])) y ↔
      Candidate (some (.array [.string "cat", .null])) y := by
    intro y
    rw [← mem_candidates, ← mem_candidates]
    simp only [Builtin.candidates, List.map, List.mem_cons, List.not_mem_nil, or_false]
    exact ⟨fun h => h.elim .inr id, .inr⟩
  have hoperands : ∀ o : Operand Unit, o ∈ [.value (.string "dog"), .value (.string "horse")] ↔
      o ∈ [.value (.string "horse"), .value (.string "dog")] := fun o =>
    (List.Perm.swap _ _ []).mem_iff
  exact ⟨(hne none (.value .null)).call, hsame.1.call, (hyields _ _ helements hoperands).2.1.call,
    hsame.2.2.call⟩

end DocFilter
