import DocFilter.Pattern

/-!
# Errors of queries

Why a query does not compile, one constructor for each reason, and the wording of each.
-/

namespace DocFilter

/-- Why a query does not compile. -/
inductive QueryError where
  /-- The text is neither strict nor relaxed JSON. -/
  | malformedText
  | emptyText
  /-- A filter must be an object or an array. -/
  | notFilter
  | unknownOperator (key : String)
  /-- A field is selected where the value at hand must be used. -/
  | contextDisabled (key : String)
  | noConditions
  | expectedArray (operator : String)
  | tooFewOperands (operator : String) (least count : Nat)
  | tooManyOperands (operator : String) (most count : Nat)
  | expectedSelector (operator : String)
  | invalidPattern (operator : String) (reason : PatternError)
  /-- An operator that the query uses without naming it is not registered. -/
  | missingOperator (name : String)
  /-- The operators that a list stands for without naming them stand for each other. -/
  | circularList
  deriving DecidableEq, Repr, Inhabited

/-- The wording of the error. -/
def QueryError.message : QueryError → String
  | malformedText => "Invalid query text: neither JSON nor relaxed JSON"
  | emptyText => "Unsupported query input: empty query text"
  | notFilter => "Unsupported query input: query must be an object or an array"
  | unknownOperator key => "No such operator: '" ++ key ++ "'"
  | contextDisabled key =>
    "Selector '" ++ key ++ "' is not allowed here: the context is already selected"
  | noConditions => "Query has no conditions"
  | expectedArray operator => operator ++ " expects an array operand"
  | tooFewOperands operator least count =>
    operator ++ " expects minimum " ++ toString least ++ " operands, got " ++ toString count
  | tooManyOperands operator most count =>
    operator ++ " expects maximum " ++ toString most ++ " operands, got " ++ toString count
  | expectedSelector operator => operator ++ " expects a selector string operand"
  | invalidPattern operator reason =>
    operator ++ " has an invalid pattern: " ++ reason.message
  | missingOperator name => "Implicit operator " ++ name ++ " is missing from the registry"
  | circularList => "The implicit operators of a list stand for each other"

end DocFilter
