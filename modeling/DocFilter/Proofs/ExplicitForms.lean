import DocFilter.Proofs.Equations
import Mathlib.Logic.Relation

/-!
# Implicit and explicit forms

A query may leave operators out: a scalar under a field means equality with it, a list in the place
of a filter means one of its filters. What is left out depends on the place of the value
(`Place.explicit?`), and every value in a query has its place: the query is a filter, containers in
lists are filters, and what stands under a key stands under a field or is the operand of an
operator. `Registry.Rewrites` writes out one operator that is left out, anywhere in a value. A value
compiles alike before and after (`Registry.alike_of_rewrites`), and so does a query after any
number of such steps:

> `Registry.nodeOf_of_rewrites`: the tree, or the error, of a query is that of the query with any
> of its implicit forms written out.
-/

namespace DocFilter

variable {κ : Type}

/-! ## Forms -/

/-- A list in the place of a filter means one of its filters. -/
def Json.explicitFilter? : Json → Option Json
  | .array items => some (.object [("$or", .array items)])
  | _ => none

/-- A list in the place of a condition means one of its conditions if it starts with a container,
and one of its values otherwise; a scalar there means equality with it. -/
def Json.explicitCondition? : Json → Option Json
  | .array items =>
    let operator := if items.head?.any Json.isContainer then "$ctxOr" else "$in"
    some (.object [(operator, .array items)])
  | .object _ => none
  | scalar => some (.object [("$eq", scalar)])

/-- Where a value stands in a query. -/
inductive Place (κ : Type) where
  /-- In the place of a filter: the query itself, or an element of a list. -/
  | filter
  /-- Under a field. -/
  | field
  /-- As the operand of an operator. -/
  | operand (op : Operator κ)

/-- The form of a value that does not leave its operator out, if it does leave one out. -/
def Place.explicit? : Place κ → Json → Option Json
  | .filter, raw => raw.explicitFilter?
  | .field, raw => raw.explicitCondition?
  | .operand op, raw =>
    match op.kind with
    | .value | .pattern => raw.explicitFilter?
    | .operator => raw.explicitCondition?
    | .array | .context => none

namespace Registry

/-- Writes out an operator that is left out, in a value at this place. -/
inductive Rewrites (r : Registry κ) : Place κ → Json → Json → Prop
  /-- The operator of the value itself. -/
  | here {place : Place κ} {raw raw' : Json} (h : place.explicit? raw = some raw') :
      Rewrites r place raw raw'
  /-- An operator in an element of a list. -/
  | element {place : Place κ} {item item' : Json} (before after : List Json)
      (h : Rewrites r .filter item item') :
      Rewrites r place (.array (before ++ item :: after)) (.array (before ++ item' :: after))
  /-- An operator in the operand of an operator. -/
  | operand {place : Place κ} {key : String} {op : Operator κ} {raw raw' : Json}
      (before after : Members) (hop : r.get? key = some op) (h : Rewrites r (.operand op) raw raw') :
      Rewrites r place (.object (before ++ (key, raw) :: after))
        (.object (before ++ (key, raw') :: after))
  /-- An operator under a field. -/
  | field {place : Place κ} {key : String} {raw raw' : Json} (before after : Members)
      (hkey : r.get? key = none) (h : Rewrites r .field raw raw') :
      Rewrites r place (.object (before ++ (key, raw) :: after))
        (.object (before ++ (key, raw') :: after))

/-- Two values are compiled alike at this place. -/
def Alike (r : Registry κ) : Place κ → Json → Json → Prop
  | .filter, raw, raw' => ∀ disabled, r.nodeOf raw' disabled = r.nodeOf raw disabled
  | .field, raw, raw' => r.boundOf raw' = r.boundOf raw
  | .operand op, raw, raw' => ∀ selected, r.operandOf raw' op selected = r.operandOf raw op selected

variable {r : Registry κ}

/-! ## A form and its place -/

theorem listMeaning_name (items : List Json) :
    (listMeaning items).name = if items.head?.any Json.isContainer then "$ctxOr" else "$in" := by
  cases items with
  | nil => rfl
  | cons first rest => cases hfirst : first.isContainer <;> simp [listMeaning, hfirst, Builtin.name]

/-- The node of an operation on lists. -/
def listNode (r : Registry κ) (operation : Builtin) (items : List Json) :
    Except QueryError (Node κ) :=
  (r.listOperand items (r.elementsOf items) 0 operation.operator).map (.plain operation.operator)

section
variable (hr : r.HoldsBuiltins)
include hr

section
variable {operation : Builtin} (hkind : (operation.operator : Operator κ).kind = .array)
  (items : List Json)
include hkind

omit hr in
/-- An operation on lists takes a list at once, however often it could be handed on. -/
theorem listOperand_eq_listNode (turns : Nat) :
    (r.listOperand items (r.elementsOf items) turns operation.operator).map
      (.plain operation.operator) = r.listNode operation items := by
  rw [listNode, listOperand_array hkind, listOperand_array hkind]

theorem nodeOf_list (disabled : Bool) :
    r.nodeOf (.object [(operation.name, .array items)]) disabled = r.listNode operation items := by
  rw [nodeOf_single, memberOf_operator (hr operation), operandOf_array,
    listOperand_eq_listNode hkind]

theorem boundOf_list :
    r.boundOf (.object [(operation.name, .array items)]) = r.listNode operation items := by
  rw [boundOf_single, conditionOf_operator (hr operation) (isReference_of_array hkind),
    operandOf_array, listOperand_eq_listNode hkind]

end

/-- A list that leaves out that it means one of its filters. -/
theorem nodeOf_array (items : List Json) (disabled : Bool) :
    r.nodeOf (.array items) disabled = r.listNode .disjunction items := by
  rw [nodeOf, hr.implicit, ok_bind, ← listOperand_eq_listNode rfl items listTurns]
  exact bind_ok_eq_map _ _

/-- Written out, it is compiled to the same. -/
theorem nodeOf_explicitFilter (items : List Json) (disabled : Bool) :
    r.nodeOf (.object [("$or", .array items)]) disabled = r.listNode .disjunction items := by
  have hkind : (Builtin.disjunction.operator : Operator κ).kind = .array := rfl
  exact nodeOf_list hr hkind items disabled

/-- What a condition is compiled to that leaves its operator out. -/
def impliedCondition (r : Registry κ) : Json → Except QueryError (Node κ)
  | .array items => r.listNode (listMeaning items) items
  | scalar => .ok (.plain Builtin.equal.operator (.value scalar))

/-- Written out, it is compiled to the same as a filter and under a field. -/
theorem compile_explicitCondition {raw raw' : Json} (h : raw.explicitCondition? = some raw') :
    (∀ disabled, r.nodeOf raw' disabled = r.impliedCondition raw) ∧
      r.boundOf raw' = r.impliedCondition raw := by
  have hequal : r.get? "$eq" = some Builtin.equal.operator := hr .equal
  cases raw with
  | array items =>
    obtain rfl := Option.some.inj h
    rw [← listMeaning_name]
    exact ⟨nodeOf_list hr (listMeaning_kind items) items,
      boundOf_list hr (listMeaning_kind items) items⟩
  | object members => cases h
  | _ =>
    obtain rfl := Option.some.inj h
    refine ⟨fun disabled => ?_, ?_⟩
    · rw [nodeOf_single, memberOf_operator hequal, operandOf_scalar r rfl]
      rfl
    · rw [boundOf_single, conditionOf_operator hequal rfl, operandOf_scalar r rfl]
      rfl

/-- Left out, it is compiled to that under a field. -/
theorem boundOf_implied {raw raw' : Json} (h : raw.explicitCondition? = some raw') :
    r.boundOf raw = r.impliedCondition raw := by
  cases raw with
  | array items =>
    have hkind : ((listMeaning items).operator : Operator κ).kind = .array :=
      listMeaning_kind items
    rw [boundOf, hr.implicit, ok_bind, impliedCondition,
      ← listOperand_eq_listNode hkind items listTurns, ← bind_ok_eq_map]
    simp only [condition_plain (isReference_of_array hkind)]
  | object members => cases h
  | _ =>
    rw [boundOf_scalar r rfl, hr.implicit]
    rfl

/-- Left out, it is compiled to that as the operand of an operator of conditions. -/
theorem operandOf_implied {raw raw' : Json} (h : raw.explicitCondition? = some raw')
    {op : Operator κ} (hop : op.kind = .operator) (selected : Bool) :
    r.operandOf raw op selected = r.impliedCondition raw >>= r.chained op := by
  cases raw with
  | array items =>
    -- one turn goes to what the list means, and this takes the list whatever turns are left
    rw [operandOf_array, listTurns, listOperand_operator hop, hr.implicit, ok_bind,
      impliedCondition, ← listOperand_eq_listNode (listMeaning_kind items) items 1, map_bind]
  | object members => cases h
  | _ =>
    rw [operandOf_scalar r rfl, scalarOperand_operator hop, hr.implicit]
    rfl

/-- **Writing out the operator of a value** changes nothing at its place. -/
theorem alike_of_explicit {place : Place κ} {raw raw' : Json}
    (h : place.explicit? raw = some raw') : r.Alike place raw raw' := by
  cases place with
  | filter =>
    intro disabled
    cases raw with
    | array items =>
      obtain rfl := Option.some.inj h
      rw [nodeOf_array hr, nodeOf_explicitFilter hr]
    | _ => cases h
  | field =>
    show r.boundOf raw' = r.boundOf raw
    rw [(compile_explicitCondition hr h).2, boundOf_implied hr h]
  | operand op =>
    intro selected
    cases hop : op.kind with
    | array | context =>
      simp only [Place.explicit?, hop] at h
      cases h
    | operator =>
      simp only [Place.explicit?, hop] at h
      -- written out, the condition is an object, which the operator reads as a filter
      obtain ⟨members, rfl⟩ : ∃ members, raw' = .object members := by
        cases raw with
        | object => cases h
        | _ => exact ⟨_, (Option.some.inj h).symm⟩
      rw [operandOf_object_operator r hop, (compile_explicitCondition hr h).1,
        operandOf_implied hr h hop]
    | value | pattern =>
      simp only [Place.explicit?, hop] at h
      cases raw with
      | array items =>
        obtain rfl := Option.some.inj h
        rw [operandOf_object, hop, operandOf_array, listTurns,
          listOperand_filters (by simp [hop]), hr.implicit, ok_bind]
        simp only [nodeOf_explicitFilter hr]
        rw [← listOperand_eq_listNode rfl items 1, map_bind]
      | _ => cases h

end

/-! ## Around a value -/

/-- Of the elements of a list, handing the list on uses what they are compiled to, how many they
are, and what the list means without an operator. -/
theorem listOperand_congr {items items' : List Json} (hlength : items'.length = items.length)
    (hmeaning : listMeaning items' = listMeaning items)
    (elements : Except QueryError (List (Operand κ))) (turns : Nat) (op : Operator κ) :
    r.listOperand items' elements turns op = r.listOperand items elements turns op := by
  -- each turn is taken by another operator
  induction turns generalizing op with
  | zero => cases hop : op.kind <;> simp only [listOperand, hop, hlength]
  | succ turns ih => cases hop : op.kind <;> simp only [listOperand, hop, hlength, hmeaning, ih]

theorem alike_list {items items' : List Json} (hlength : items'.length = items.length)
    (hmeaning : listMeaning items' = listMeaning items)
    (helements : r.elementsOf items' = r.elementsOf items) (place : Place κ) :
    r.Alike place (.array items) (.array items') := by
  have hlist := listOperand_congr (r := r) hlength hmeaning (r.elementsOf items)
  cases place with
  | filter =>
    intro disabled
    simp only [nodeOf, helements, hlist]
  | field =>
    show r.boundOf (.array items') = r.boundOf (.array items)
    simp only [boundOf, helements, hmeaning, hlist]
  | operand op =>
    intro selected
    rw [operandOf_array, operandOf_array, helements, hlist]

/-- What is written out in the place of a filter is a container, before and after. -/
theorem isContainer_of_rewrites {raw raw' : Json} (h : r.Rewrites .filter raw raw') :
    raw.isContainer = true ∧ raw'.isContainer = true := by
  cases h with
  | here h =>
    cases raw with
    | array items =>
      obtain rfl := Option.some.inj h
      exact ⟨rfl, rfl⟩
    | _ => cases h
  | element | operand | field => exact ⟨rfl, rfl⟩

/-- An element of a list counts for the list by what it is compiled to. -/
theorem alike_of_element {item item' : Json} (before after : List Json)
    (hitem : item.isContainer = true) (hitem' : item'.isContainer = true)
    (h : r.Alike .filter item item') (place : Place κ) :
    r.Alike place (.array (before ++ item :: after)) (.array (before ++ item' :: after)) := by
  have helement : r.elementOf item' = r.elementOf item := by
    rw [elementOf_container r hitem', elementOf_container r hitem, h false]
  refine alike_list ?_ ?_ ?_ place
  · rw [List.length_append, List.length_append, List.length_cons, List.length_cons]
  · -- the first element decides what the list means, and it stays a container
    cases before with
    | nil => simp only [List.nil_append, listMeaning, hitem, hitem']
    | cons first rest => rfl
  · simp only [elementsOf_eq_mapM, List.mapM_append, List.mapM_cons, helement]

/-- Whether all keys are operators does not depend on what stands under them. -/
theorem checkOperators_replace (before after : Members) (key : String) (raw raw' : Json) :
    r.checkOperators (before ++ (key, raw') :: after) =
      r.checkOperators (before ++ (key, raw) :: after) := by
  induction before with
  | nil => rfl
  | cons m before ih =>
    rw [List.cons_append, List.cons_append, checkOperators, checkOperators, ih]

/-- A member of an object counts for the object by what it is compiled to, as a member of a filter
and as a condition on a field. -/
theorem alike_of_member {key : String} {raw raw' : Json} (before after : Members)
    (hmember : ∀ disabled, r.memberOf key raw' disabled = r.memberOf key raw disabled)
    (hcondition : r.conditionOf key raw' = r.conditionOf key raw) (place : Place κ) :
    r.Alike place (.object (before ++ (key, raw) :: after))
      (.object (before ++ (key, raw') :: after)) := by
  have hnode : ∀ disabled, r.nodeOf (.object (before ++ (key, raw') :: after)) disabled =
      r.nodeOf (.object (before ++ (key, raw) :: after)) disabled := by
    intro disabled
    simp only [nodeOf, membersOf_eq_mapM, List.mapM_append, List.mapM_cons, hmember]
  cases place with
  | filter => exact hnode
  | field =>
    show r.boundOf _ = r.boundOf _
    rw [boundOf, boundOf, checkOperators_replace before after key raw raw']
    simp only [conditionsOf_eq_mapM, List.mapM_append, List.mapM_cons, hcondition]
  | operand op =>
    intro selected
    simp only [operandOf_object, hnode]

/-! ## Queries -/

/-- **One operator written out**, at any place and any depth: what one step keeps. -/
theorem alike_of_rewrites (hr : r.HoldsBuiltins) {place : Place κ} {raw raw' : Json}
    (h : r.Rewrites place raw raw') : r.Alike place raw raw' := by
  -- along the way from the value to the form; each place on it only asks how the next one is
  -- compiled
  induction h with
  | here h => exact alike_of_explicit hr h
  | element before after h ih =>
    obtain ⟨hitem, hitem'⟩ := isContainer_of_rewrites h
    exact alike_of_element before after hitem hitem' ih _
  | operand before after hop h ih =>
    refine alike_of_member before after (fun disabled => ?_) ?_ _
    · rw [memberOf_operator hop, memberOf_operator hop, ih disabled]
    · rw [conditionOf, conditionOf, hop]
      simp only [ih true]
  | field before after hkey h ih =>
    replace ih : r.boundOf _ = r.boundOf _ := ih
    refine alike_of_member before after (fun disabled => ?_) ?_ _
    · cases disabled with
      | true =>
        rw [memberOf, memberOf, hkey]
        rfl
      | false => rw [memberOf_field hkey, memberOf_field hkey, ih]
    · rw [conditionOf, conditionOf, hkey]

/-- **Implicit forms are shorthand.** Writing out operators that a query leaves out, any number of
them anywhere in the query, changes neither the tree nor the error that it compiles to. -/
theorem nodeOf_of_rewrites {query query' : Json}
    (h : Relation.ReflTransGen ((defaults : Registry κ).Rewrites .filter) query query')
    (disabled : Bool) :
    (defaults : Registry κ).nodeOf query' disabled = defaults.nodeOf query disabled := by
  induction h with
  | refl => rfl
  | tail _ hstep ih => rw [alike_of_rewrites defaults_holdsBuiltins hstep disabled, ih]

/-- A list of filters: the list itself, a scalar and a list of values are written out. -/
theorem nodeOf_of_rewrites_list :
    (defaults : Registry Empty).nodeOf
        (.object [("$or", .array [.object [("a", .object [("$not", .object [("$eq", .null)])])],
          .object [("b", .object [("$in", .array [.bool true, .null])])]])]) false =
      defaults.nodeOf (.array [.object [("a", .object [("$not", .null)])],
        .object [("b", .array [.bool true, .null])]]) false := by
  have ha : (defaults : Registry Empty).get? "a" = none := rfl
  have hb : (defaults : Registry Empty).get? "b" = none := rfl
  have hnot : (defaults : Registry Empty).get? "$not" = some Builtin.negation.operator := rfl
  have hor : (defaults : Registry Empty).get? "$or" = some Builtin.disjunction.operator := rfl
  have hlist : (defaults : Registry Empty).Rewrites .filter
      (.array [.object [("a", .object [("$not", .null)])],
        .object [("b", .array [.bool true, .null])]])
      (.object [("$or", .array [.object [("a", .object [("$not", .null)])],
        .object [("b", .array [.bool true, .null])]])]) := .here rfl
  have hscalar : (defaults : Registry Empty).Rewrites .filter
      (.object [("$or", .array [.object [("a", .object [("$not", .null)])],
        .object [("b", .array [.bool true, .null])]])])
      (.object [("$or", .array [.object [("a", .object [("$not", .object [("$eq", .null)])])],
        .object [("b", .array [.bool true, .null])]])]) :=
    .operand [] [] hor (.element [] _ (.field [] [] ha (.operand [] [] hnot (.here rfl))))
  have hvalues : (defaults : Registry Empty).Rewrites .filter
      (.object [("$or", .array [.object [("a", .object [("$not", .object [("$eq", .null)])])],
        .object [("b", .array [.bool true, .null])]])])
      (.object [("$or", .array [.object [("a", .object [("$not", .object [("$eq", .null)])])],
        .object [("b", .object [("$in", .array [.bool true, .null])])]])]) :=
    .operand [] [] hor (.element [_] [] (.field [] [] hb (.here rfl)))
  exact nodeOf_of_rewrites (.tail (.tail (.single hlist) hscalar) hvalues) false

end Registry

end DocFilter
