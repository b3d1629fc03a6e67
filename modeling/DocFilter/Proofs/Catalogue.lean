import DocFilter.Filter.Compile
import Mathlib.Data.List.Nodup

/-!
# Looking up operators

A registry is read through `Registry.get?` only. Inserting an operator changes the look-up of its
own name and of no other (`Registry.get?_insert`), which carries over to a whole list of operators
with distinct names (`Registry.get?_foldl_insert`) and so to the operators of the query language:

> `Registry.get?_defaults_eq_some`: what `Registry.defaults` holds under a name is the operator of
> a built-in operation of that name.

An alias is a look-up and an insert under another name (`Registry.addAlias_eq_ok`).

`Builtin.operator` is that operator, its kind, arity and side given as functions of the operation.
What the compiler asks of a registry for its implicit operators is `Registry.HoldsBuiltins`.
-/

namespace DocFilter

variable {κ : Type}

/-! ## Inserting -/

namespace Registry

/-- The look-up in a list of operators. -/
theorem find?_insertInto (op : Operator κ) (name : String) :
    ∀ ops : List (Operator κ), (insertInto op ops).find? (fun o => o.name == name) =
      if op.name = name then some op else ops.find? fun o => o.name == name
  | [] => by
    by_cases hname : op.name = name <;> simp [insertInto, hname]
  | o :: ops => by
    have hcons : ∀ rest, (op :: rest).find? (fun o => o.name == name) =
        if op.name = name then some op else rest.find? fun o => o.name == name := by
      intro rest
      by_cases hname : op.name = name <;> simp [hname]
    unfold insertInto
    by_cases heq : op.name = o.name
    · rw [if_pos heq, hcons]
      by_cases hname : op.name = name
      · rw [if_pos hname, if_pos hname]
      · rw [if_neg hname, if_neg hname, List.find?_cons_of_neg (by simpa [← heq] using hname)]
    · rw [if_neg heq]
      by_cases hlt : op.name < o.name
      · rw [if_pos hlt, hcons]
      · rw [if_neg hlt]
        by_cases hname : o.name = name
        · -- the operator in front is found, and the inserted one has another name
          have hne : op.name ≠ name := fun h => heq (h.trans hname.symm)
          rw [if_neg hne, List.find?_cons_of_pos (by simpa using hname),
            List.find?_cons_of_pos (by simpa using hname)]
        · rw [List.find?_cons_of_neg (by simpa using hname),
            List.find?_cons_of_neg (by simpa using hname), find?_insertInto op name ops]

/-- Inserting changes the look-up of one name. -/
theorem get?_insert (r : Registry κ) (op : Operator κ) (name : String) :
    (r.insert op).get? name = if op.name = name then some op else r.get? name :=
  find?_insertInto op name r.operators

/-- Inserting operators of distinct names: each is found under its own, other names are looked up
as before. -/
theorem get?_foldl_insert (name : String) :
    ∀ (ops : List (Operator κ)) (r : Registry κ), (ops.map (·.name)).Nodup →
      (ops.foldl insert r).get? name =
        (ops.find? fun o => o.name == name).or (r.get? name)
  | [], _, _ => rfl
  | op :: ops, r, hnodup => by
    obtain ⟨hnew, hrest⟩ := List.nodup_cons.mp hnodup
    rw [List.foldl_cons, get?_foldl_insert name ops _ hrest, get?_insert]
    by_cases hname : op.name = name
    · have hnone : (ops.find? fun o => o.name == name) = none := by
        rw [List.find?_eq_none]
        intro o ho hon
        exact hnew (List.mem_map.mpr ⟨o, ho, (eq_of_beq hon).trans hname.symm⟩)
      rw [if_pos hname, hnone, List.find?_cons_of_pos (by simpa using hname)]
      rfl
    · rw [if_neg hname, List.find?_cons_of_neg (by simpa using hname)]

/-- An operator is found under its own name. -/
theorem name_of_get? {r : Registry κ} {name : String} {op : Operator κ}
    (h : r.get? name = some op) : op.name = name := by
  have hname := List.find?_some h
  exact eq_of_beq hname

/-- An alias is a copy of an operator, inserted under a valid name. -/
theorem addAlias_eq_ok {r r' : Registry κ} {name target : String} :
    r.addAlias name target = .ok r' ↔
      ∃ op, r.get? target = some op ∧ isOperatorName name = true ∧
        r' = r.insert { op with name } := by
  unfold addAlias Operator.renamed
  cases hop : r.get? target with
  | none => simp
  | some op =>
    by_cases hname : isOperatorName name = true
    · simp [hname, Except.map, eq_comm]
    · simp [hname, Except.map]

end Registry

/-! ## The operators of the query language -/

namespace Builtin

/-- How the operand of an operation is read. -/
def kind : Builtin → OperandKind
  | equal | notEqual | ordered _ | present | empty | difference => .value
  | modulo | anyOf | noneOf | allOf => .array
  | conjunction | disjunction | neither | contextAnd | contextOr => .array
  | regex => .pattern
  | field | roundedField _ => .context
  | rounded _ | negation => .operator

/-- Whether an operation produces a value for the operator around it. -/
def rightHanded : Builtin → Bool
  | field | roundedField _ | negation => true
  | _ => false

/-- The least number of operands in the list of an operation. -/
def least (operation : Builtin) : Nat :=
  if operation.kind = .array then 2 else 0

/-- The greatest number of operands in the list of an operation. -/
def most : Builtin → Option Nat
  | modulo => some 2
  | _ => none

/-- The operator of an operation. -/
def operator (operation : Builtin) : Operator κ :=
  ⟨operation.name, operation.kind, operation.least, operation.most, operation.rightHanded,
    .builtin operation⟩

/-- All operations. -/
def all : List Builtin := [
  equal, notEqual, ordered .greater, ordered .atLeast, ordered .less, ordered .atMost, modulo,
  regex, present, empty, anyOf, noneOf, allOf, field, rounded .halfUp, rounded .down, rounded .up,
  roundedField .halfUp, roundedField .down, roundedField .up, negation, conjunction, disjunction,
  neither, contextAnd, contextOr, difference]

theorem mem_all (operation : Builtin) : operation ∈ all := by
  cases operation with
  | ordered relation => cases relation <;> decide
  | rounded rounding => cases rounding <;> decide
  | roundedField rounding => cases rounding <;> decide
  | _ => decide

theorem nodup_names_all : (all.map name).Nodup := by decide

/-- No two operations have one name. -/
theorem eq_of_name_eq {a b : Builtin} (h : a.name = b.name) : a = b :=
  List.inj_on_of_nodup_map nodup_names_all (mem_all a) (mem_all b) h

/-- A name that is not listed is that of no operation. -/
theorem ne_name {name : String} (h : name ∉ all.map Builtin.name) (operation : Builtin) :
    name ≠ operation.name := by
  rintro rfl
  exact h (List.mem_map_of_mem (mem_all operation))

end Builtin

namespace Registry

theorem builtins_eq : (builtins : List (Operator κ)) = Builtin.all.map Builtin.operator := rfl

/-- A registry in which the operations of the query language go by their names. -/
def HoldsBuiltins (r : Registry κ) : Prop :=
  ∀ operation : Builtin, r.get? operation.name = some operation.operator

theorem get?_defaults (name : String) :
    (defaults : Registry κ).get? name =
      (Builtin.all.map Builtin.operator).find? fun o => o.name == name := by
  have hnodup : ((builtins : List (Operator κ)).map (·.name)).Nodup := Builtin.nodup_names_all
  rw [defaults, get?_foldl_insert name _ _ hnodup, builtins_eq]
  exact Option.or_none

/-- What the operators of the query language are found under. -/
theorem get?_defaults_eq_some {name : String} {op : Operator κ} :
    defaults.get? name = some op ↔
      ∃ operation : Builtin, operation.name = name ∧ op = operation.operator := by
  have hexists : ∀ {op : Operator κ}, defaults.get? name = some op →
      ∃ operation : Builtin, operation.name = name ∧ op = operation.operator := by
    intro op h
    have hname := name_of_get? h
    rw [get?_defaults] at h
    obtain ⟨operation, -, rfl⟩ := List.mem_map.mp (List.mem_of_find?_eq_some h)
    exact ⟨operation, hname, rfl⟩
  refine ⟨hexists, ?_⟩
  rintro ⟨operation, hname, rfl⟩
  cases h : (defaults : Registry κ).get? name with
  | none =>
    have hmem := List.mem_map_of_mem (f := (Builtin.operator (κ := κ))) (Builtin.mem_all operation)
    rw [get?_defaults] at h
    exact absurd (beq_iff_eq.mpr hname) (List.find?_eq_none.mp h _ hmem)
  | some op =>
    obtain ⟨other, hother, rfl⟩ := hexists h
    rw [Builtin.eq_of_name_eq (hother.trans hname.symm)]

theorem defaults_holdsBuiltins : (defaults : Registry κ).HoldsBuiltins :=
  fun operation => get?_defaults_eq_some.mpr ⟨operation, rfl, rfl⟩

/-- Operators of other names leave the operators of the query language as they are. -/
theorem HoldsBuiltins.insert {r : Registry κ} (hr : r.HoldsBuiltins) {op : Operator κ}
    (fresh : ∀ operation : Builtin, op.name ≠ operation.name) : (r.insert op).HoldsBuiltins := by
  intro operation
  rw [get?_insert, if_neg (fresh operation), hr operation]

theorem HoldsBuiltins.implicit {r : Registry κ} (hr : r.HoldsBuiltins) (operation : Builtin) :
    r.implicit operation = .ok operation.operator := by
  rw [Registry.implicit, hr operation]

end Registry

end DocFilter
