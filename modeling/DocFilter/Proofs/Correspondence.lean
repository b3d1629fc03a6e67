import DocFilter.Proofs.Equations
import DocFilter.Proofs.Tree

/-!
# Two compilations side by side

A query can be compiled against two registries, or two queries against one, and often the trees
differ in a way that is known beforehand: in the fields they select, in the names of operators, in
the order of some conditions, or not at all. A `Registry.Correspondence` says which keys, operators
and nodes are taken to match, and that what the compiler does with what matches matches again: the
look-up of a key, the application of an operator to its operand, the selection of a field. It is
little, because the compiler does little else.

Two values that match can be read as operands, as what stands under a field and as filters
(`Registry.Correspondence.ReadAlike`). All steps of the compiler keep this, one theorem each, and
scalars, arrays and objects are read alike when what is in them is:

> `Registry.Correspondence.readAlike_scalar`, `Registry.Correspondence.readAlike_array`,
> `Registry.Correspondence.readAlike_object`.

What the two values have to do with each other is left open here; a proof about some way to change a
query is an induction on the query with these three cases.
-/

namespace DocFilter

variable {κ : Type}

/-- What is found is the same as itself. -/
theorem rel_self {α : Type} (found : Option α) : Option.Rel Eq found found := by
  cases found with
  | none => exact .none
  | some a => exact .some rfl

theorem Registry.implied_self (r : Registry κ) (operation : Builtin) :
    Option.Rel Eq (r.get? operation.name) (r.get? operation.name) :=
  rel_self _

/-- Two operators between which the compiler makes no difference but for their names. -/
structure Operator.SameShape (op op' : Operator κ) : Prop where
  kind : op.kind = op'.kind
  least : op.least = op'.least
  most : op.most = op'.most
  rightHanded : op.rightHanded = op'.rightHanded

theorem Operator.SameShape.of_eq {op op' : Operator κ} (h : op = op') : op.SameShape op' := by
  subst h
  exact ⟨rfl, rfl, rfl, rfl⟩

theorem Operator.SameShape.isReference {op op' : Operator κ} (h : op.SameShape op') :
    op.isReference = op'.isReference := by
  rw [Operator.isReference, Operator.isReference, h.rightHanded, h.kind]

/-- The same error, about keys or operators that match. -/
inductive QueryError.Alike (keys : String → String → Prop)
    (operators : Operator κ → Operator κ → Prop) : QueryError → QueryError → Prop
  | notFilter : Alike keys operators .notFilter .notFilter
  | noConditions : Alike keys operators .noConditions .noConditions
  | circularList : Alike keys operators .circularList .circularList
  | missingOperator (name : String) :
      Alike keys operators (.missingOperator name) (.missingOperator name)
  | unknownOperator {key key' : String} (h : keys key key') :
      Alike keys operators (.unknownOperator key) (.unknownOperator key')
  | contextDisabled {key key' : String} (h : keys key key') :
      Alike keys operators (.contextDisabled key) (.contextDisabled key')
  | expectedArray {op op' : Operator κ} (h : operators op op') :
      Alike keys operators (.expectedArray op.name) (.expectedArray op'.name)
  | expectedSelector {op op' : Operator κ} (h : operators op op') :
      Alike keys operators (.expectedSelector op.name) (.expectedSelector op'.name)
  | tooFewOperands {op op' : Operator κ} (h : operators op op') (least count : Nat) :
      Alike keys operators (.tooFewOperands op.name least count)
        (.tooFewOperands op'.name least count)
  | tooManyOperands {op op' : Operator κ} (h : operators op op') (most count : Nat) :
      Alike keys operators (.tooManyOperands op.name most count)
        (.tooManyOperands op'.name most count)
  | invalidPattern {op op' : Operator κ} (h : operators op op') (reason : PatternError) :
      Alike keys operators (.invalidPattern op.name reason) (.invalidPattern op'.name reason)

namespace Registry

/-- What matches between two compilations, and that the compiler respects it. -/
structure Correspondence (r r' : Registry κ) where
  keys : String → String → Prop
  operators : Operator κ → Operator κ → Prop
  nodes : Node κ → Node κ → Prop
  errors : QueryError → QueryError → Prop
  shape {op op' : Operator κ} (hop : operators op op') : op.SameShape op'
  /-- Keys that match are looked up alike. -/
  lookup {key key' : String} (hkey : keys key key') :
    Option.Rel operators (r.get? key) (r'.get? key')
  /-- Operators that a query uses without naming them match. -/
  implied (operation : Builtin) :
    Option.Rel operators (r.get? operation.name) (r'.get? operation.name)
  applied {op op' : Operator κ} {x x' : Operand κ} (hop : operators op op')
    (hx : x.Paired nodes x') : nodes (.plain op x) (.plain op' x')
  selecting {key key' : String} {n n' : Node κ} (hkey : keys key key') (hfield : r.get? key = none)
    (hn : nodes n n') :
    nodes { n with selector := some ⟨key⟩ } { n' with selector := some ⟨key'⟩ }
  rightHanded {n n' : Node κ} (hn : nodes n n') : n.operator.rightHanded = n'.operator.rightHanded
  alike {e e' : QueryError} (he : e.Alike keys operators e') : errors e e'

namespace Correspondence

variable {r r' : Registry κ} (C : r.Correspondence r')

/-- Both compilations have results, which match, or both fail, with errors that match. -/
abbrev Agrees {α β : Type} (R : α → β → Prop) :
    Except QueryError α → Except QueryError β → Prop :=
  Corresponds C.errors R

/-- The operands that match. -/
abbrev operands : Operand κ → Operand κ → Prop :=
  Operand.Paired C.nodes

/-- Two values that are compiled alike, however they are read. -/
structure ReadAlike (raw raw' : Json) : Prop where
  container : raw.isContainer = raw'.isContainer
  scalar (h : raw.isContainer = false) : raw = raw'
  operand {op op' : Operator κ} (hop : C.operators op op') (selected : Bool) :
    C.Agrees C.operands (r.operandOf raw op selected) (r'.operandOf raw' op' selected)
  field : C.Agrees C.nodes (r.boundOf raw) (r'.boundOf raw')
  filter (disabled : Bool) : C.Agrees C.nodes (r.nodeOf raw disabled) (r'.nodeOf raw' disabled)

/-! ## The steps of the compiler -/

theorem agrees_implicit (operation : Builtin) :
    C.Agrees C.operators (r.implicit operation) (r'.implicit operation) := by
  have h := C.implied operation
  unfold implicit
  generalize r.get? operation.name = found, r'.get? operation.name = found' at h ⊢
  cases h with
  | some h => exact .ok h
  | none => exact .error (C.alike (.missingOperator _))

theorem agrees_conjoin {ns ns' : List (Node κ)} (h : List.Forall₂ C.nodes ns ns') :
    C.Agrees C.nodes (r.conjoin ns) (r'.conjoin ns') := by
  cases h with
  | nil => exact .error (C.alike .noConditions)
  | cons hn hns =>
    cases hns with
    | nil => exact .ok hn
    | cons hm hms =>
      refine (C.agrees_implicit .contextAnd).bind fun op op' hop => .ok (C.applied hop (.list ?_))
      rw [List.forall₂_map_left_iff, List.forall₂_map_right_iff]
      have hall := List.Forall₂.cons hn (.cons hm hms)
      exact hall.imp fun _ _ hn => .node hn

section
variable {op op' : Operator κ} (hop : C.operators op op')
include hop

theorem agrees_chained {n n' : Node κ} (hn : C.nodes n n') :
    C.Agrees C.operands (r.chained op n) (r'.chained op' n') := by
  unfold chained
  rw [← (C.shape hop).rightHanded, ← C.rightHanded hn]
  split
  · exact (C.agrees_implicit .equal).bind fun _ _ hequal =>
      .ok (.item (.node (C.applied hequal (.item (.node hn)))))
  · exact .ok (.item (.node hn))

theorem agrees_condition {x x' : Operand κ} (hx : C.operands x x') :
    C.Agrees C.nodes (r.condition op x) (r'.condition op' x') := by
  unfold condition
  rw [← (C.shape hop).isReference]
  split
  · exact (C.agrees_implicit .equal).bind fun _ _ hequal =>
      .ok (C.applied hequal (.item (.node (C.applied hop hx))))
  · exact .ok (C.applied hop hx)

theorem agrees_patternOperand (text : String) :
    C.Agrees C.operands (patternOperand op text) (patternOperand op' text) := by
  unfold patternOperand
  split
  · exact .ok (.item (.leaf rfl))
  · exact .error (C.alike (.invalidPattern hop _))

theorem agrees_checkCount (count : Nat) :
    C.Agrees Eq (checkCount op count) (checkCount op' count) := by
  unfold checkCount
  rw [← (C.shape hop).least, ← (C.shape hop).most]
  split
  · exact .error (C.alike (.tooFewOperands hop _ _))
  · split
    · split
      · exact .error (C.alike (.tooManyOperands hop _ _))
      · exact .ok rfl
    · exact .ok rfl

theorem agrees_scalarOperand (v : Json) :
    C.Agrees C.operands (r.scalarOperand op v) (r'.scalarOperand op' v) := by
  unfold scalarOperand
  rw [← (C.shape hop).kind]
  split
  · exact .error (C.alike (.expectedArray hop))
  · split <;> exact C.agrees_patternOperand hop _
  · exact (C.agrees_implicit .equal).bind fun _ _ hequal =>
      C.agrees_chained hop (C.applied hequal (.item (.leaf rfl)))
  · split
    · exact .ok (.item (.leaf rfl))
    · exact .error (C.alike (.expectedSelector hop))
  · exact .ok (.item (.leaf rfl))

end

/-! ## Scalars -/

/-- Scalars have nothing in them that could match or not. -/
theorem readAlike_scalar {v : Json} (hv : v.isContainer = false) : C.ReadAlike v v where
  container := rfl
  scalar _ := rfl
  operand hop selected := by
    rw [operandOf_scalar r hv, operandOf_scalar r' hv]
    exact C.agrees_scalarOperand hop v
  field := by
    rw [boundOf_scalar r hv, boundOf_scalar r' hv]
    exact (C.agrees_implicit .equal).bind fun _ _ hequal =>
      (C.agrees_scalarOperand hequal v).bind fun _ _ hx => C.agrees_condition hequal hx
  filter disabled := by
    cases v with
    | array | object => cases hv
    | _ => exact .error (C.alike .notFilter)

/-! ## Arrays -/

/-- An element of a list: a container is a filter, a scalar stands for itself. -/
theorem ReadAlike.element {raw raw' : Json} (h : C.ReadAlike raw raw') :
    C.Agrees (Operand.ItemPaired C.nodes) (r.elementOf raw) (r'.elementOf raw') := by
  cases hraw : raw.isContainer with
  | true =>
    rw [elementOf_container r hraw, elementOf_container r' (h.container ▸ hraw)]
    exact (h.filter false).bind fun _ _ hn => .ok (.node hn)
  | false =>
    obtain rfl := h.scalar hraw
    rw [elementOf_scalar r hraw, elementOf_scalar r' hraw]
    exact .ok (.leaf rfl)

section
variable {items items' : List Json} (hitems : List.Forall₂ C.ReadAlike items items')
include hitems

/-- What a list means without an operator depends on the form of its first element. -/
theorem listMeaning_alike : listMeaning items = listMeaning items' := by
  cases hitems with
  | nil => rfl
  | cons hitem _ => rw [listMeaning, listMeaning, hitem.container]

theorem agrees_elements : C.Agrees (List.Forall₂ (Operand.ItemPaired C.nodes))
    (r.elementsOf items) (r'.elementsOf items') := by
  rw [elementsOf_eq_mapM, elementsOf_eq_mapM]
  exact .mapM (hitems.imp fun _ _ h => h.element)

theorem agrees_listOperand_array {op op' : Operator κ} (hop : C.operators op op')
    (hkind : op.kind = .array) (turns : Nat) :
    C.Agrees C.operands (r.listOperand items (r.elementsOf items) turns op)
      (r'.listOperand items' (r'.elementsOf items') turns op') := by
  rw [listOperand_array hkind, listOperand_array ((C.shape hop).kind ▸ hkind), hitems.length_eq]
  exact (C.agrees_checkCount hop _).bind fun _ _ _ =>
    (C.agrees_elements hitems).bind fun _ _ hxs => .ok (.list hxs)

/-- A list is handed on from operator to operator alike. -/
theorem agrees_listOperand (turns : Nat) {op op' : Operator κ} (hop : C.operators op op') :
    C.Agrees C.operands (r.listOperand items (r.elementsOf items) turns op)
      (r'.listOperand items' (r'.elementsOf items') turns op') := by
  induction turns generalizing op op' with
  | zero =>
    have hkind' := (C.shape hop).kind
    cases hkind : op.kind with
    | array => exact C.agrees_listOperand_array hitems hop hkind _
    | context =>
      simp only [listOperand, ← hkind', hkind]
      exact .error (C.alike (.expectedSelector hop))
    | _ =>
      simp only [listOperand, ← hkind', hkind]
      exact .error (C.alike .circularList)
  | succ turns ih =>
    have hkind' := (C.shape hop).kind
    cases hkind : op.kind with
    | array => exact C.agrees_listOperand_array hitems hop hkind _
    | context =>
      simp only [listOperand, ← hkind', hkind]
      exact .error (C.alike (.expectedSelector hop))
    | pattern | value =>
      rw [listOperand_filters (by simp [hkind]), listOperand_filters (by simp [← hkind', hkind])]
      exact (C.agrees_implicit .disjunction).bind fun _ _ himplied =>
        (ih himplied).bind fun _ _ hx => .ok (.item (.node (C.applied himplied hx)))
    | operator =>
      rw [listOperand_operator hkind, listOperand_operator (hkind' ▸ hkind),
        C.listMeaning_alike hitems]
      exact (C.agrees_implicit _).bind fun _ _ himplied =>
        (ih himplied).bind fun _ _ hx => C.agrees_chained hop (C.applied himplied hx)

/-- **Arrays are read alike when their elements are.** -/
theorem readAlike_array : C.ReadAlike (.array items) (.array items') where
  container := rfl
  scalar h := by cases h
  operand hop selected := by
    rw [operandOf_array, operandOf_array]
    exact C.agrees_listOperand hitems _ hop
  field := by
    simp only [boundOf, C.listMeaning_alike hitems]
    exact (C.agrees_implicit _).bind fun _ _ himplied =>
      (C.agrees_listOperand hitems _ himplied).bind fun _ _ hx => C.agrees_condition himplied hx
  filter disabled := by
    exact (C.agrees_implicit .disjunction).bind fun _ _ himplied =>
      (C.agrees_listOperand hitems _ himplied).bind fun _ _ hx => .ok (C.applied himplied hx)

end

/-! ## Objects -/

section
variable {key key' : String} {raw raw' : Json} (hkey : C.keys key key')
  (hraw : C.ReadAlike raw raw')
include hkey hraw

theorem agrees_memberOf (disabled : Bool) :
    C.Agrees C.nodes (r.memberOf key raw disabled) (r'.memberOf key' raw' disabled) := by
  have hlookup := C.lookup hkey
  unfold memberOf
  cases hget : r.get? key with
  | some op =>
    rw [hget] at hlookup
    generalize r'.get? key' = found' at hlookup ⊢
    cases hlookup with
    | some hop => exact (hraw.operand hop disabled).bind fun _ _ hx => .ok (C.applied hop hx)
  | none =>
    rw [hget] at hlookup
    generalize r'.get? key' = found' at hlookup ⊢
    cases hlookup with
    | none =>
      cases disabled with
      | true => exact .error (C.alike (.contextDisabled hkey))
      | false =>
        rw [if_neg Bool.false_ne_true, if_neg Bool.false_ne_true, fieldOf_eq, fieldOf_eq]
        exact hraw.field.bind fun _ _ hn => .ok (C.selecting hkey hget hn)

theorem agrees_conditionOf :
    C.Agrees C.nodes (r.conditionOf key raw) (r'.conditionOf key' raw') := by
  have hlookup := C.lookup hkey
  unfold conditionOf
  generalize r.get? key = found, r'.get? key' = found' at hlookup ⊢
  cases hlookup with
  | some hop => exact (hraw.operand hop true).bind fun _ _ hx => C.agrees_condition hop hx
  | none => exact .error (C.alike (.unknownOperator hkey))

end

/-- Members that are read alike, under keys that match. -/
abbrev MembersAlike : Members → Members → Prop :=
  List.Forall₂ fun m m' => C.keys m.1 m'.1 ∧ C.ReadAlike m.2 m'.2

section
variable {members members' : Members} (hmembers : C.MembersAlike members members')
include hmembers

theorem agrees_membersOf (disabled : Bool) : C.Agrees (List.Forall₂ C.nodes)
    (r.membersOf members disabled) (r'.membersOf members' disabled) := by
  rw [membersOf_eq_mapM, membersOf_eq_mapM]
  exact .mapM (hmembers.imp fun _ _ h => C.agrees_memberOf h.1 h.2 disabled)

theorem agrees_conditionsOf : C.Agrees (List.Forall₂ C.nodes)
    (r.conditionsOf members) (r'.conditionsOf members') := by
  rw [conditionsOf_eq_mapM, conditionsOf_eq_mapM]
  exact .mapM (hmembers.imp fun _ _ h => C.agrees_conditionOf h.1 h.2)

theorem agrees_checkOperators :
    C.Agrees Eq (r.checkOperators members) (r'.checkOperators members') := by
  induction hmembers with
  | nil => exact .ok rfl
  | @cons m m' _ _ h _ ih =>
    have hlookup := C.lookup h.1
    rw [checkOperators, checkOperators, contains, contains]
    generalize r.get? m.1 = found, r'.get? m'.1 = found' at hlookup ⊢
    cases hlookup with
    | some => exact ih
    | none => exact .error (C.alike (.unknownOperator h.1))

end

section
variable {members members' : Members}

/-- How an object is read as an operand depends on how it is read as a filter. -/
theorem readAlike_of_filter
    (hfilter : ∀ disabled, C.Agrees C.nodes (r.nodeOf (.object members) disabled)
      (r'.nodeOf (.object members') disabled))
    (hfield : C.Agrees C.nodes (r.boundOf (.object members)) (r'.boundOf (.object members'))) :
    C.ReadAlike (.object members) (.object members') where
  container := rfl
  scalar h := by cases h
  operand {op op'} hop selected := by
    rw [operandOf_object, operandOf_object, ← (C.shape hop).kind]
    cases op.kind with
    | array => exact .error (C.alike (.expectedArray hop))
    | context => exact .error (C.alike (.expectedSelector hop))
    | operator => exact (hfilter selected).bind fun _ _ hn => C.agrees_chained hop hn
    | pattern => exact (hfilter selected).bind fun _ _ hn => .ok (.item (.node hn))
    | value => exact (hfilter false).bind fun _ _ hn => .ok (.item (.node hn))
  field := hfield
  filter := hfilter

/-- **Objects are read alike when their members are.** -/
theorem readAlike_object (hmembers : C.MembersAlike members members') :
    C.ReadAlike (.object members) (.object members') := by
  refine C.readAlike_of_filter (fun disabled => ?_) ?_
  · exact (C.agrees_membersOf hmembers disabled).bind fun _ _ hns => C.agrees_conjoin hns
  · exact (C.agrees_checkOperators hmembers).bind fun _ _ _ =>
      (C.agrees_conditionsOf hmembers).bind fun _ _ hns => C.agrees_conjoin hns

end

end Correspondence

end Registry

end DocFilter
