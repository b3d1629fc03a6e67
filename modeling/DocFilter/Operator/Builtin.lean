import DocFilter.Coercion

/-!
# Kinds of operands, and the built-in operations

How the operand of an operator is read, and the operations that come with the query language.
What an operation does with its operand is said where filters are evaluated.
-/

namespace DocFilter

/-- How the operand of an operator is read. -/
inductive OperandKind where
  /-- A list whose elements are read one by one. -/
  | array
  /-- A regular expression, also in the form `/body/flags`. -/
  | pattern
  /-- A condition that is handed the value at hand. -/
  | operator
  /-- A selector. -/
  | context
  /-- Any value or condition. -/
  | value
  deriving DecidableEq, Repr, Inhabited

namespace OperandKind

/-- The name of the kind. -/
def name : OperandKind → String
  | array => "array"
  | pattern => "pattern"
  | operator => "operator"
  | context => "context"
  | value => "value"

/-- The kind of a name; patterns have a second name. -/
def ofName? (name : String) : Option OperandKind :=
  match name with
  | "array" => some array
  | "pattern" | "regex" => some pattern
  | "operator" => some operator
  | "context" => some context
  | "value" => some value
  | _ => none

theorem ofName?_name (kind : OperandKind) : ofName? kind.name = some kind := by
  cases kind <;> rfl

end OperandKind

/-- The relations that order two values. -/
inductive Relation where
  | greater
  | atLeast
  | less
  | atMost
  deriving DecidableEq, Repr, Inhabited

/-- Whether the relation holds between values of this order. -/
def Relation.accepts : Relation → Ordering → Bool
  | greater, o => o == .gt
  | atLeast, o => o != .lt
  | less, o => o == .lt
  | atMost, o => o != .gt

/-- The built-in operations. -/
inductive Builtin where
  | equal
  | notEqual
  | ordered (relation : Relation)
  | modulo
  | regex
  | present
  | empty
  | anyOf
  | noneOf
  | allOf
  /-- The value of another field. -/
  | field
  | rounded (rounding : Rounding)
  /-- The rounded value of another field. -/
  | roundedField (rounding : Rounding)
  | negation
  | conjunction
  | disjunction
  | neither
  /-- A conjunction about the value at hand. -/
  | contextAnd
  | contextOr
  | difference
  deriving DecidableEq, Repr, Inhabited

/-- The name of an operation in queries. -/
def Builtin.name : Builtin → String
  | equal => "$eq"
  | notEqual => "$ne"
  | ordered .greater => "$gt"
  | ordered .atLeast => "$gte"
  | ordered .less => "$lt"
  | ordered .atMost => "$lte"
  | modulo => "$mod"
  | regex => "$regex"
  | present => "$exists"
  | empty => "$empty"
  | anyOf => "$in"
  | noneOf => "$nin"
  | allOf => "$all"
  | field => "$val"
  | rounded .halfUp => "$round"
  | rounded .down => "$floor"
  | rounded .up => "$ceil"
  | roundedField .halfUp => "$roundRH"
  | roundedField .down => "$floorRH"
  | roundedField .up => "$ceilRH"
  | negation => "$not"
  | conjunction => "$and"
  | disjunction => "$or"
  | neither => "$nor"
  | contextAnd => "$ctxAnd"
  | contextOr => "$ctxOr"
  | difference => "$sub"

end DocFilter
