import DocFilter.Proofs.Equations

/-!
# Filters that may not select

Under a field, a filter that the value at hand is handed to is compiled with its fields refused.
Refusing fields changes nothing else: what is compiled so comes to the same as without, or fails on
a field (`SameOrRefused`).

> `Registry.compiled_disabled`: filters, values and operands come to the same when their fields are
> refused, or fail on a field.

The flag reaches the operands of operators of conditions and of patterns, and the proof follows it
there; in all other places the two compilations are the same by definition.
-/

namespace DocFilter

variable {κ : Type}

/-- The first of two compilations comes to the same as the second, or fails on a field. -/
def SameOrRefused {α : Type} (x y : Except QueryError α) : Prop :=
  x = y ∨ ∃ key, x = .error (.contextDisabled key)

namespace SameOrRefused

variable {α β : Type}

theorem refl (x : Except QueryError α) : SameOrRefused x x :=
  .inl rfl

/-- A sequence of steps keeps it. -/
theorem bind {x y : Except QueryError α} {f g : α → Except QueryError β} (h : SameOrRefused x y)
    (hfg : ∀ a, SameOrRefused (f a) (g a)) : SameOrRefused (x >>= f) (y >>= g) := by
  rcases h with rfl | ⟨key, rfl⟩
  · cases x with
    | ok a => exact hfg a
    | error e => exact refl _
  · exact .inr ⟨key, rfl⟩

theorem eq_ok {x y : Except QueryError α} (h : SameOrRefused x y) {a : α} (hx : x = .ok a) :
    y = .ok a := by
  rcases h with rfl | ⟨key, h⟩
  · exact hx
  · cases hx.symm.trans h

end SameOrRefused

namespace Registry

-- One theorem for each function of the compiler that hands the flag on.
mutual

theorem operandOf_disabled (r : Registry κ) : ∀ (raw : Json) (op : Operator κ),
    SameOrRefused (r.operandOf raw op true) (r.operandOf raw op false)
  | .array items, op => by
    rw [operandOf_array, operandOf_array]
    exact .refl _
  | .object members, op => by
    have hnode : SameOrRefused (r.nodeOf (.object members) true)
        (r.nodeOf (.object members) false) :=
      (membersOf_disabled r members).bind fun nodes => .refl (r.conjoin nodes)
    rw [operandOf_object, operandOf_object]
    cases op.kind with
    -- an operator of values hands no refusal on
    | array | context | value => exact .refl _
    | operator => exact hnode.bind fun n => .refl (r.chained op n)
    | pattern => exact hnode.bind fun n => .refl _
  | .null, op | .bool _, op | .number _, op | .string _, op => by
    rw [operandOf_scalar r rfl, operandOf_scalar r rfl]
    exact .refl _
termination_by structural raw => raw

theorem membersOf_disabled (r : Registry κ) : ∀ members : List (String × Json),
    SameOrRefused (r.membersOf members true) (r.membersOf members false)
  | [] => .refl _
  | (key, raw) :: members => by
    rw [membersOf_cons, membersOf_cons]
    refine SameOrRefused.bind ?_ fun n =>
      (membersOf_disabled r members).bind fun nodes => .refl _
    cases hop : r.get? key with
    | some op =>
      rw [memberOf, memberOf, hop]
      exact (operandOf_disabled r raw op).bind fun x => .refl _
    | none =>
      -- the one place where the two part
      rw [memberOf, hop]
      exact .inr ⟨key, rfl⟩
termination_by structural members => members

end

/-- A filter. -/
theorem nodeOf_disabled (r : Registry κ) (raw : Json) :
    SameOrRefused (r.nodeOf raw true) (r.nodeOf raw false) := by
  cases raw with
  | object members => exact (membersOf_disabled r members).bind fun nodes => .refl (r.conjoin nodes)
  | _ => exact .refl _

/-- A value, which is a filter when it is a container. -/
theorem valueOf_disabled (r : Registry κ) (raw : Json) :
    SameOrRefused (r.valueOf raw true) (r.valueOf raw false) := by
  unfold valueOf
  cases raw.isContainer with
  | true =>
    show SameOrRefused ((r.nodeOf raw true).map Operand.node)
      ((r.nodeOf raw false).map Operand.node)
    rw [← bind_ok_eq_map, ← bind_ok_eq_map]
    exact (nodeOf_disabled r raw).bind fun n => .refl _
  | false => exact .refl _

/-- A query that compiles with its fields refused compiles to the same tree when they are not. -/
theorem nodeOf_of_disabled {r : Registry κ} {raw : Json} {n : Node κ}
    (h : r.nodeOf raw true = .ok n) : r.nodeOf raw false = .ok n :=
  (nodeOf_disabled r raw).eq_ok h

/-- **Refusing fields only refuses.** However a value is compiled, as a filter, as any value or as
the operand of any operator, refusing the fields in it comes to the same tree or the same error as
allowing them, or fails on one of them. -/
theorem compiled_disabled (r : Registry κ) (raw : Json) :
    SameOrRefused (r.nodeOf raw true) (r.nodeOf raw false) ∧
      SameOrRefused (r.valueOf raw true) (r.valueOf raw false) ∧
      ∀ op, SameOrRefused (r.operandOf raw op true) (r.operandOf raw op false) :=
  ⟨nodeOf_disabled r raw, valueOf_disabled r raw, operandOf_disabled r raw⟩

/-- `$not` hands the refusal on to the field under it. -/
example : (defaults : Registry Empty).nodeOf (.object [("$not", .object [("a", .null)])]) true =
    .error (.contextDisabled "a") := rfl

end Registry

end DocFilter
