import DocFilter.Filter.QueryError
import DocFilter.Filter.Tree

/-!
# Compiling queries

A query is a JSON value. An object is a conjunction of its members: a key that names an operator
applies it to the value at hand, any other key selects a field, and what stands under a field are
conditions on it. Much can be left out. A scalar under a field means equality with it, a list
means one of its values, or one of its conditions when it starts with a container; a list in the
place of a filter means one of its filters.

`Registry.nodeOf` compiles a filter, `Registry.operandOf` the operand of an operator. Both recurse
on the query. The readings of one list that hand it on whole, from operator to operator, are
counted by turns; there are no more than two of them unless operators stand for each other.
-/

namespace DocFilter

variable {κ : Type}

namespace Registry

/-- The operator of a built-in operation that a query uses without naming it. -/
def implicit (r : Registry κ) (operation : Builtin) : Except QueryError (Operator κ) :=
  match r.get? operation.name with
  | some op => .ok op
  | none => .error (.missingOperator operation.name)

/-- What a list of operands means without an operator: one of the conditions when it starts with
a container, one of the values otherwise. -/
def listMeaning : List Json → Builtin
  | first :: _ => if first.isContainer then .contextOr else .anyOf
  | [] => .anyOf

/-- A condition as the operand of an operator. The value of a right-handed condition must not
escape to an operator that is not right-handed, so it is compared for equality there. -/
def chained (r : Registry κ) (op : Operator κ) (node : Node κ) : Except QueryError (Operand κ) :=
  if node.operator.rightHanded && !op.rightHanded then do
    return .node (.plain (← r.implicit .equal) (.node node))
  else .ok (.node node)

/-- A condition under a field. A bare reference to a value means equality with it. -/
def condition (r : Registry κ) (op : Operator κ) (operand : Operand κ) :
    Except QueryError (Node κ) :=
  if op.isReference then do
    return .plain (← r.implicit .equal) (.node (.plain op operand))
  else .ok (.plain op operand)

/-- Several conditions as one: a single one stays as it is, more are conjoined about the same
value. -/
def conjoin (r : Registry κ) : List (Node κ) → Except QueryError (Node κ)
  | [] => .error .noConditions
  | [node] => .ok node
  | nodes => do return .plain (← r.implicit .contextAnd) (.list (nodes.map .node))

/-- A pattern as the operand of an operator. -/
def patternOperand (op : Operator κ) (text : String) : Except QueryError (Operand κ) :=
  match Pattern.compile text with
  | .ok regex => .ok (.pattern regex)
  | .error reason => .error (.invalidPattern op.name reason)

/-- Whether an operator takes a list of this length. -/
def checkCount (op : Operator κ) (count : Nat) : Except QueryError Unit :=
  if count < op.least then .error (.tooFewOperands op.name op.least count)
  else
    match op.most with
    | some most =>
      if most < count then .error (.tooManyOperands op.name most count) else .ok ()
    | none => .ok ()

/-- A scalar as the operand of an operator. -/
def scalarOperand (r : Registry κ) (op : Operator κ) (scalar : Json) :
    Except QueryError (Operand κ) :=
  match op.kind with
  | .array => .error (.expectedArray op.name)
  | .pattern =>
    match scalar with
    | .string text => patternOperand op text
    | other => patternOperand op other.compact
  | .operator => do r.chained op (.plain (← r.implicit .equal) (.value scalar))
  | .context =>
    match scalar with
    | .string text => .ok (.selector ⟨text⟩)
    | _ => .error (.expectedSelector op.name)
  | .value => .ok (.value scalar)

/-- A list as the operand of an operator, `elements` being its compiled elements. -/
def listOperand (r : Registry κ) (items : List Json)
    (elements : Except QueryError (List (Operand κ))) (turns : Nat) (op : Operator κ) :
    Except QueryError (Operand κ) :=
  match op.kind with
  | .array => do
    checkCount op items.length
    return .list (← elements)
  | .context => .error (.expectedSelector op.name)
  | .pattern | .value =>
    match turns with
    | 0 => .error .circularList
    | turns + 1 => do
      let implied ← r.implicit .disjunction
      return .node (.plain implied (← r.listOperand items elements turns implied))
  | .operator =>
    match turns with
    | 0 => .error .circularList
    | turns + 1 => do
      let implied ← r.implicit (listMeaning items)
      r.chained op (.plain implied (← r.listOperand items elements turns implied))
termination_by structural turns

/-- How often a list can be handed on whole. -/
def listTurns : Nat := 2

/-- Whether every key is an operator; the first that is none is refused. -/
def checkOperators (r : Registry κ) : List (String × Json) → Except QueryError Unit
  | [] => .ok ()
  | (key, _) :: rest =>
    if r.contains key then r.checkOperators rest else .error (.unknownOperator key)

mutual

/-- Compiles the operand of an operator. Under a field, when `selected`, a condition that the
value at hand is handed to may not select another field. -/
def operandOf (r : Registry κ) : Json → Operator κ → Bool → Except QueryError (Operand κ)
  | .array items, op, _ => r.listOperand items (elementsOf r items) listTurns op
  | .object members, op, selected =>
    match op.kind with
    | .array => .error (.expectedArray op.name)
    | .pattern => do return .node (← r.conjoin (← membersOf r members selected))
    | .operator => do r.chained op (← r.conjoin (← membersOf r members selected))
    | .context => .error (.expectedSelector op.name)
    | .value => do return .node (← r.conjoin (← membersOf r members false))
  | .null, op, _ => r.scalarOperand op .null
  | .bool b, op, _ => r.scalarOperand op (.bool b)
  | .number n, op, _ => r.scalarOperand op (.number n)
  | .string s, op, _ => r.scalarOperand op (.string s)
termination_by structural raw => raw

/-- Compiles the elements of a list: containers are filters, scalars stand for themselves. -/
def elementsOf (r : Registry κ) : List Json → Except QueryError (List (Operand κ))
  | [] => .ok []
  | item :: items => do
    let first ← elementOf r item
    return first :: (← elementsOf r items)
termination_by structural items => items

/-- Compiles an element of a list. -/
def elementOf (r : Registry κ) : Json → Except QueryError (Operand κ)
  | .array items => do
    let implied ← r.implicit .disjunction
    return .node (.plain implied (← r.listOperand items (elementsOf r items) listTurns implied))
  | .object members => do return .node (← r.conjoin (← membersOf r members false))
  | .null => .ok (.value .null)
  | .bool b => .ok (.value (.bool b))
  | .number n => .ok (.value (.number n))
  | .string s => .ok (.value (.string s))
termination_by structural raw => raw

/-- Compiles the members of a filter. -/
def membersOf (r : Registry κ) : List (String × Json) → Bool → Except QueryError (List (Node κ))
  | [], _ => .ok []
  | (key, raw) :: rest, disabled => do
    let first ←
      match r.get? key with
      | some op => do pure (.plain op (← operandOf r raw op disabled))
      | none => if disabled then throw (.contextDisabled key) else fieldOf r key raw
    return first :: (← membersOf r rest disabled)
termination_by structural members => members

/-- Compiles the conditions on a field. -/
def fieldOf (r : Registry κ) (key : String) : Json → Except QueryError (Node κ)
  | .array items => do
    let implied ← r.implicit (listMeaning items)
    let operand ← r.listOperand items (elementsOf r items) listTurns implied
    select (← r.condition implied operand)
  | .object members => do
    r.checkOperators members
    select (← r.conjoin (← conditionsOf r members))
  | .null => scalarField .null
  | .bool b => scalarField (.bool b)
  | .number n => scalarField (.number n)
  | .string s => scalarField (.string s)
termination_by structural raw => raw
where
  /-- The node about the field. -/
  select (node : Node κ) : Except QueryError (Node κ) :=
    .ok { node with selector := some ⟨key⟩ }
  /-- Equality of the field with a scalar. -/
  scalarField (scalar : Json) : Except QueryError (Node κ) := do
    let implied ← r.implicit .equal
    select (← r.condition implied (← r.scalarOperand implied scalar))

/-- Compiles the conditions in an object under a field, whose keys are operators. -/
def conditionsOf (r : Registry κ) : List (String × Json) → Except QueryError (List (Node κ))
  | [] => .ok []
  | (key, raw) :: rest => do
    match r.get? key with
    | some op =>
      let first ← r.condition op (← operandOf r raw op true)
      return first :: (← conditionsOf r rest)
    | none => throw (.unknownOperator key)
termination_by structural members => members

end

/-- Compiles a filter. When `disabled`, it may not select a field. -/
def nodeOf (r : Registry κ) : Json → Bool → Except QueryError (Node κ)
  | .array items, _ => do
    let implied ← r.implicit .disjunction
    return .plain implied (← r.listOperand items (elementsOf r items) listTurns implied)
  | .object members, disabled => do r.conjoin (← membersOf r members disabled)
  | .null, _ | .bool _, _ | .number _, _ | .string _, _ => .error .notFilter

/-- Compiles any value: containers are filters, scalars stand for themselves. -/
def valueOf (r : Registry κ) (raw : Json) (disabled : Bool) : Except QueryError (Operand κ) :=
  if raw.isContainer then (r.nodeOf raw disabled).map .node else .ok (.value raw)

end Registry

end DocFilter
