import DocFilter.Filter.Compile
import DocFilter.Proofs.Catalogue
import DocFilter.Proofs.Except

/-!
# The equations of the compiler

The compiler is one recursion over the query. Here its steps get names of their own
(`Registry.memberOf`, `Registry.conditionOf`, `Registry.boundOf`), and each reading of a query is
said in terms of them: a filter is compiled member by member (`Registry.membersOf_cons`), and a
field is what stands under it, told to select (`Registry.fieldOf_eq`). All scalars are read alike,
which the equations for scalars say once.
-/

namespace DocFilter

variable {κ : Type}

namespace Registry

variable (r : Registry κ)

/-! ## The steps -/

/-- Compiles a member of a filter. When `disabled`, it may not select a field. -/
def memberOf (key : String) (raw : Json) (disabled : Bool) : Except QueryError (Node κ) :=
  match r.get? key with
  | some op => do return .plain op (← r.operandOf raw op disabled)
  | none => if disabled then .error (.contextDisabled key) else r.fieldOf key raw

/-- Compiles a condition in an object under a field. -/
def conditionOf (key : String) (raw : Json) : Except QueryError (Node κ) :=
  match r.get? key with
  | some op => do r.condition op (← r.operandOf raw op true)
  | none => .error (.unknownOperator key)

/-- Compiles what stands under a field, not yet told which field it is. -/
def boundOf : Json → Except QueryError (Node κ)
  | .array items => do
    let implied ← r.implicit (listMeaning items)
    r.condition implied (← r.listOperand items (r.elementsOf items) listTurns implied)
  | .object members => do
    r.checkOperators members
    r.conjoin (← r.conditionsOf members)
  | scalar => do
    let implied ← r.implicit .equal
    r.condition implied (← r.scalarOperand implied scalar)

/-! ## Lists and conjunctions -/

section
variable {r : Registry κ}

/-- The lengths that an operator allows. -/
theorem checkCount_eq_ok {op : Operator κ} {count : Nat} :
    checkCount op count = .ok () ↔ op.least ≤ count ∧ ∀ n, op.most = some n → count ≤ n := by
  unfold checkCount
  by_cases hleast : count < op.least
  · rw [if_pos hleast]
    refine ⟨fun h => ?_, fun h => absurd h.1 (Nat.not_le.mpr hleast)⟩
    cases h
  · rw [if_neg hleast]
    cases hmost : op.most with
    | none =>
      refine ⟨fun _ => ⟨Nat.not_lt.mp hleast, fun _ h => ?_⟩, fun _ => rfl⟩
      cases h
    | some most =>
      by_cases hcount : most < count
      · simp only [if_pos hcount]
        refine ⟨fun h => ?_, fun h => absurd (h.2 most rfl) (Nat.not_le.mpr hcount)⟩
        cases h
      · simp only [if_neg hcount]
        refine ⟨fun _ => ⟨Nat.not_lt.mp hleast, ?_⟩, fun _ => trivial⟩
        rintro n h
        cases h
        exact Nat.not_lt.mp hcount

/-- An operator of lists takes the list as it stands. -/
theorem listOperand_array {op : Operator κ} (hop : op.kind = .array) (items : List Json)
    (elements : Except QueryError (List (Operand κ))) (turns : Nat) :
    r.listOperand items elements turns op =
      (checkCount op items.length >>= fun _ => elements >>= fun xs => .ok (.list xs)) := by
  cases turns <;> simp only [listOperand, hop, pure_eq_ok]

/-- An operator of conditions takes what the list means without an operator. -/
theorem listOperand_operator {op : Operator κ} (hop : op.kind = .operator) (items : List Json)
    (elements : Except QueryError (List (Operand κ))) (turns : Nat) :
    r.listOperand items elements (turns + 1) op =
      (r.implicit (listMeaning items) >>= fun implied =>
        r.listOperand items elements turns implied >>= fun x =>
          r.chained op (.plain implied x)) := by
  simp only [listOperand, hop]

/-- An operator of values or of patterns takes a list as one of its filters. -/
theorem listOperand_filters {op : Operator κ} (hop : op.kind = .value ∨ op.kind = .pattern)
    (items : List Json) (elements : Except QueryError (List (Operand κ))) (turns : Nat) :
    r.listOperand items elements (turns + 1) op =
      (r.implicit .disjunction >>= fun implied =>
        r.listOperand items elements turns implied >>= fun x => .ok (.node (.plain implied x))) := by
  rcases hop with hop | hop <;> simp only [listOperand, hop, pure_eq_ok]

/-- An operator of conditions takes equality with a scalar. -/
theorem scalarOperand_operator {op : Operator κ} (hop : op.kind = .operator) (scalar : Json) :
    r.scalarOperand op scalar =
      (r.implicit .equal >>= fun equal => r.chained op (.plain equal (.value scalar))) := by
  simp only [scalarOperand, hop]

/-- An operator of values takes a scalar as it stands. -/
theorem scalarOperand_value {op : Operator κ} (hop : op.kind = .value) (scalar : Json) :
    r.scalarOperand op scalar = .ok (.value scalar) := by
  simp only [scalarOperand, hop]

/-- What a list means without an operator is an operation on lists. -/
theorem listMeaning_kind (items : List Json) :
    ((listMeaning items).operator : Operator κ).kind = .array := by
  unfold listMeaning
  cases items with
  | nil => rfl
  | cons first rest => cases hfirst : first.isContainer <;> simp only [hfirst] <;> rfl

/-- An operation on lists is no reference. -/
theorem isReference_of_array {op : Operator κ} (hop : op.kind = .array) :
    op.isReference = false := by
  rw [Operator.isReference, hop]
  exact Bool.and_false _

/-- An operation on values is no reference. -/
theorem isReference_of_value {op : Operator κ} (hop : op.kind = .value) :
    op.isReference = false := by
  rw [Operator.isReference, hop]
  exact Bool.and_false _

/-- A condition that is no reference is applied as it stands. -/
theorem condition_plain {op : Operator κ} (href : op.isReference = false) (x : Operand κ) :
    r.condition op x = .ok (.plain op x) := by
  rw [condition, if_neg (by rw [href]; exact Bool.false_ne_true)]

/-- Nothing escapes an operator that is right-handed itself. -/
theorem chained_rightHanded {op : Operator κ} (hop : op.rightHanded = true) (n : Node κ) :
    r.chained op n = .ok (.node n) := by
  rw [chained, hop]
  simp

/-- Two conditions or more are conjoined. -/
theorem HoldsBuiltins.conjoin_several (hr : r.HoldsBuiltins) (m₁ m₂ : Node κ)
    (rest : List (Node κ)) :
    r.conjoin (m₁ :: m₂ :: rest) =
      .ok (.plain Builtin.contextAnd.operator (.list ((m₁ :: m₂ :: rest).map .node))) := by
  simp only [conjoin, hr.implicit, ok_bind, pure_eq_ok]

end

/-! ## The equations -/

theorem operandOf_array (items : List Json) (op : Operator κ) (selected : Bool) :
    r.operandOf (.array items) op selected =
      r.listOperand items (r.elementsOf items) listTurns op := by
  simp only [operandOf]

/-- An object in an operand is a filter. Only an operator of values lets it select a field when the
operator stands under a field itself. -/
theorem operandOf_object (members : List (String × Json)) (op : Operator κ) (selected : Bool) :
    r.operandOf (.object members) op selected =
      match op.kind with
      | .array => .error (.expectedArray op.name)
      | .context => .error (.expectedSelector op.name)
      | .operator => r.nodeOf (.object members) selected >>= r.chained op
      | .pattern => r.nodeOf (.object members) selected >>= fun n => .ok (.node n)
      | .value => r.nodeOf (.object members) false >>= fun n => .ok (.node n) := by
  simp only [operandOf, nodeOf]
  cases op.kind <;> simp

theorem operandOf_object_operator {op : Operator κ} (hop : op.kind = .operator)
    (members : List (String × Json)) (selected : Bool) :
    r.operandOf (.object members) op selected =
      r.nodeOf (.object members) selected >>= r.chained op := by
  rw [operandOf_object, hop]

/-- All scalars are read alike as operands. -/
theorem operandOf_scalar {raw : Json} (h : raw.isContainer = false) (op : Operator κ)
    (selected : Bool) : r.operandOf raw op selected = r.scalarOperand op raw := by
  cases raw with
  | array | object => exact absurd h (by simp [Json.isContainer])
  | _ => simp only [operandOf]

/-- A scalar in a list stands for itself. -/
theorem elementOf_scalar {raw : Json} (h : raw.isContainer = false) :
    r.elementOf raw = .ok (.value raw) := by
  cases raw with
  | array | object => exact absurd h (by simp [Json.isContainer])
  | _ => simp only [elementOf]

/-- A scalar under a field means equality with it. -/
theorem boundOf_scalar {raw : Json} (h : raw.isContainer = false) :
    r.boundOf raw =
      (r.implicit .equal >>= fun op => r.scalarOperand op raw >>= r.condition op) := by
  cases raw with
  | array | object => exact absurd h (by simp [Json.isContainer])
  | _ => rfl

/-- Containers in lists are filters. -/
theorem elementOf_container {raw : Json} (h : raw.isContainer = true) :
    r.elementOf raw = (r.nodeOf raw false >>= fun n => .ok (.node n)) := by
  cases raw with
  | array items => simp [elementOf, nodeOf]
  | object members => simp [elementOf, nodeOf]
  | _ => exact absurd h (by simp [Json.isContainer])

theorem elementsOf_cons (item : Json) (items : List Json) :
    r.elementsOf (item :: items) =
      (r.elementOf item >>= fun x => r.elementsOf items >>= fun xs => .ok (x :: xs)) := by
  simp only [elementsOf, pure_eq_ok]

theorem membersOf_cons (key : String) (raw : Json) (rest : List (String × Json))
    (disabled : Bool) :
    r.membersOf ((key, raw) :: rest) disabled =
      (r.memberOf key raw disabled >>= fun n =>
        r.membersOf rest disabled >>= fun ns => .ok (n :: ns)) := by
  simp only [membersOf, memberOf]
  cases r.get? key with
  | some op => simp
  | none => cases disabled <;> simp [throw_eq_error]

theorem conditionsOf_cons (key : String) (raw : Json) (rest : List (String × Json)) :
    r.conditionsOf ((key, raw) :: rest) =
      (r.conditionOf key raw >>= fun n => r.conditionsOf rest >>= fun ns => .ok (n :: ns)) := by
  simp only [conditionsOf, conditionOf]
  cases r.get? key <;> simp [throw_eq_error]

/-- Lists are compiled element by element. -/
theorem elementsOf_eq_mapM (items : List Json) :
    r.elementsOf items = items.mapM r.elementOf := by
  induction items with
  | nil => rfl
  | cons item items ih => rw [elementsOf_cons, List.mapM_cons, ih]; rfl

/-- Filters are compiled member by member. -/
theorem membersOf_eq_mapM (members : Members) (disabled : Bool) :
    r.membersOf members disabled = members.mapM fun m => r.memberOf m.1 m.2 disabled := by
  induction members with
  | nil => rfl
  | cons m members ih => rw [membersOf_cons, List.mapM_cons, ih]; rfl

/-- The conditions on a field are compiled one by one. -/
theorem conditionsOf_eq_mapM (members : Members) :
    r.conditionsOf members = members.mapM fun m => r.conditionOf m.1 m.2 := by
  induction members with
  | nil => rfl
  | cons m members ih => rw [conditionsOf_cons, List.mapM_cons, ih]; rfl

/-- A field is what stands under it, told to select. -/
theorem fieldOf_eq (key : String) (raw : Json) :
    r.fieldOf key raw =
      (r.boundOf raw >>= fun n => .ok { n with selector := some ⟨key⟩ }) := by
  cases raw with
  | array items => simp [fieldOf, boundOf, fieldOf.select]
  | object members => simp [fieldOf, boundOf, fieldOf.select]
  | _ => simp [fieldOf, boundOf, fieldOf.scalarField, fieldOf.select]

/-! ## One key -/

/-- A filter of one key is its member. -/
theorem nodeOf_single (key : String) (raw : Json) (disabled : Bool) :
    r.nodeOf (.object [(key, raw)]) disabled = r.memberOf key raw disabled := by
  rw [nodeOf, membersOf_cons]
  cases r.memberOf key raw disabled <;> rfl

/-- One condition on a field stands for itself. -/
theorem boundOf_single (key : String) (raw : Json) :
    r.boundOf (.object [(key, raw)]) = r.conditionOf key raw := by
  rw [boundOf, conditionsOf_cons, checkOperators, contains]
  unfold conditionOf
  cases hop : r.get? key with
  | none => rfl
  | some op =>
    simp only [Option.isSome_some, if_true]
    cases r.operandOf raw op true >>= r.condition op <;> rfl

section
variable {r : Registry κ} {key : String}

/-- A key that is registered applies its operator. -/
theorem memberOf_operator {op : Operator κ} (hop : r.get? key = some op) (raw : Json)
    (disabled : Bool) :
    r.memberOf key raw disabled = (r.operandOf raw op disabled).map (.plain op) := by
  rw [memberOf, hop]
  exact bind_ok_eq_map _ _

/-- A key that is not registered selects a field. -/
theorem memberOf_field (hkey : r.get? key = none) (raw : Json) :
    r.memberOf key raw false =
      (r.boundOf raw).map fun n => { n with selector := some ⟨key⟩ } := by
  rw [memberOf, hkey]
  show r.fieldOf key raw = _
  rw [fieldOf_eq]
  exact bind_ok_eq_map _ _

/-- Under a field, an operator that is no reference is applied as it stands. -/
theorem conditionOf_operator {op : Operator κ} (hop : r.get? key = some op)
    (href : op.isReference = false) (raw : Json) :
    r.conditionOf key raw = (r.operandOf raw op true).map (.plain op) := by
  rw [conditionOf, hop, ← bind_ok_eq_map]
  simp only [condition_plain href]

/-- All conditions on a field must be operators. -/
theorem checkOperators_eq_ok {members : Members} :
    r.checkOperators members = .ok () ↔ ∀ m ∈ members, r.contains m.1 = true := by
  induction members with
  | nil => exact ⟨fun _ _ hm => absurd hm List.not_mem_nil, fun _ => rfl⟩
  | cons m members ih =>
    obtain ⟨key, raw⟩ := m
    rw [checkOperators, List.forall_mem_cons]
    cases hkey : r.contains key with
    | true => simp only [if_true, true_and, ih]
    | false => simp

end

end Registry

end DocFilter
