import DocFilter.Json.Printer
import DocFilter.Pattern

/-!
# Errors of evaluation

An operation fails for a cause of its own. A failure in a tree is reported together with the node
where it happened: the name of the operator, the text of its operand, and the value at hand. An
operation that evaluates other nodes passes their reports on unchanged, whatever they say.
-/

namespace DocFilter

/-- What an operation expects of its operand. -/
inductive Expectation where
  | literal
  | list
  | twoOperands
  | filters
  | selector
  | pattern
  deriving DecidableEq, Repr, Inhabited

/-- The wording of an expectation. -/
def Expectation.text : Expectation → String
  | literal => "a literal operand"
  | list => "an array operand"
  | twoOperands => "exactly 2 operands"
  | filters => "filter operands"
  | selector => "a selector operand"
  | pattern => "a pattern operand"

/-- Why an operation fails. -/
inductive Failure where
  | unexpectedOperand (operator : String) (expected : Expectation)
  | missingOperator (name : String)
  | invalidPattern (reason : PatternError)
  /-- A cause that a custom operation reports. -/
  | custom (text : String)
  deriving DecidableEq, Repr, Inhabited

/-- The wording of a failure. -/
def Failure.message : Failure → String
  | unexpectedOperand operator expected => operator ++ " expects " ++ expected.text
  | missingOperator name => "Operator " ++ name ++ " is missing from the registry"
  | invalidPattern reason => "Invalid pattern: " ++ reason.message
  | custom text => text

/-- A failure and the node where it happened. -/
structure MatchError where
  operator : String
  operand : String
  context : Option Json
  source : Failure
  deriving Repr, Inhabited

/-- The wording of a report. -/
def MatchError.message (e : MatchError) : String :=
  let context := match e.context with
    | some v => v.compact
    | none => "<absent>"
  e.operator ++ " failed (operand: " ++ e.operand ++ ", context: " ++ context ++ "): " ++
    e.source.message

/-- How an operation ends when it does not produce a result: by a failure of its own, or by the
report of a node that it evaluated. -/
inductive Interruption (ρ : Type) where
  | failure (cause : Failure)
  | nested (report : ρ)
  deriving Repr, Inhabited

/-- The interruption with its report in another form. -/
def Interruption.map {ρ σ : Type} (f : ρ → σ) : Interruption ρ → Interruption σ
  | failure cause => .failure cause
  | nested report => .nested (f report)

/-- An interruption with the report of a node as it is. -/
abbrev EvalError := Interruption MatchError

/-- The wording of the error. -/
def EvalError.message : EvalError → String
  | .failure cause => cause.message
  | .nested report => report.message

end DocFilter
