import DocFilter.Filter.MatchError
import DocFilter.Filter.Tree

/-!
# Evaluating filters

A node is evaluated on a document and a context, the value that has been selected so far, which
may be absent. Without a context a node selects its own from the document. Then there are three
cases. If the operator or the operator of its operand is right-handed, the operand is evaluated
first and the operator is applied to what it produces. If the operand is another node, the operator
is applied and its result becomes the context of that node. In all other cases the operator is
applied to the operand as it is.

What an operator does is its body: a built-in operation, run by `Builtin.run`, or an operation of
the host, which is a `Procedure`. A body can evaluate nodes and call operators by name, and what
these evaluate and call in turn may be nested to any depth. `Registry.applyWithin` lets calls be
nested to a given depth only and cuts the run off where they go deeper. Nothing but the cutting off
comes of that: it is no error that an operation could see. `Registry.evaluate` is what runs come to
when they are not cut off. The first depth that it tries is enough for all trees of built-in
operations; from there it goes on until the depth is enough. Calls that are nested without end get
no answer when they are run; in the logic they count as absent.
-/

namespace DocFilter

variable {κ ρ : Type}

/-! ## Operations -/

/-- The result of an operation: a value, nothing, or an error. -/
abbrev EvalResult := Except EvalError (Option Json)

/-- What the body of an operator can do besides computing: evaluate a node, and call an operator
by its name. -/
structure Evaluator (κ ρ : Type) where
  node : Node κ → Option Json → Json → Except ρ (Option Json)
  call : String → Option Json → Operand κ → Json → Except (Interruption ρ) (Option Json)

namespace Evaluator

/-- Whether a node holds. Its report goes through the operation that asks. -/
def holds (ev : Evaluator κ ρ) (n : Node κ) (context : Option Json) (document : Json) :
    Except (Interruption ρ) Bool :=
  match ev.node n context document with
  | .ok result => .ok (truthy result)
  | .error report => .error (.nested report)

/-- Whether the registered equality holds between a context and an operand. -/
def equals (ev : Evaluator κ ρ) (context : Option Json) (operand : Operand κ) (document : Json) :
    Except (Interruption ρ) Bool :=
  match ev.call Builtin.equal.name context operand document with
  | .ok result => .ok (truthy result)
  | .error e => .error e

end Evaluator

namespace Builtin

/-- A condition as a result. -/
def answer (b : Bool) : Except (Interruption ρ) (Option Json) :=
  .ok (some (.bool b))

/-- The failure of an operation on an operand of the wrong form. -/
def unexpected {α : Type} (operation : Builtin) (expected : Expectation) :
    Except (Interruption ρ) α :=
  .error (.failure (.unexpectedOperand operation.name expected))

/-- The literal operand; nothing when a right-handed operand has produced nothing. -/
def literal (operation : Builtin) : Operand κ → Except (Interruption ρ) (Option Json)
  | .value v => .ok (some v)
  | .absent => .ok none
  | _ => operation.unexpected .literal

/-- The operands in a list. -/
def list (operation : Builtin) : Operand κ → Except (Interruption ρ) (List (Operand κ))
  | .list items => .ok items
  | _ => operation.unexpected .list

/-- The node that an operand is. -/
def node (operation : Builtin) : Operand κ → Except (Interruption ρ) (Node κ)
  | .node n => .ok n
  | _ => operation.unexpected .filters

/-- What the selector in an operand points at. -/
def selected (operation : Builtin) (document : Json) :
    Operand κ → Except (Interruption ρ) (Option Json)
  | .selector s => .ok (s.resolve document)
  | _ => operation.unexpected .selector

/-- The values that a condition about sets looks at: the items of an array, or the context
itself. -/
def candidates : Option Json → List (Option Json)
  | some (.array items) => items.map some
  | context => [context]

/-- The remainder that a division of the context leaves, when both sides are numbers. -/
def remainder? (context divisor : Option Json) : Option Float :=
  match toNumber? context, toNumber? divisor with
  | some x, some y => floatRemainder? x y
  | _, _ => none

/-- Whether a literal is the number `x`. Texts are no numbers here. -/
def isNumber (x : Float) : Option Json → Bool
  | some (.number n) => n.toFloat == x
  | _ => false

/-- The difference of two values, when both are numbers and their difference is finite. -/
def difference? (left right : Option Json) : Option Json :=
  match toNumber? left, toNumber? right with
  | some x, some y => numberJson? (x - y)
  | _, _ => none

/-- Whether an operand that must be a node holds. -/
def childHolds (operation : Builtin) (ev : Evaluator κ ρ) (context : Option Json) (document : Json)
    (child : Operand κ) : Except (Interruption ρ) Bool := do
  ev.holds (← operation.node child) context document

/-- Whether some candidate equals some operand. The failures are those of `$in`. -/
def someEqual (ev : Evaluator κ ρ) (context : Option Json) (operand : Operand κ) (document : Json) :
    Except (Interruption ρ) Bool := do
  (← anyOf.list operand).anyM fun expected =>
    (candidates context).anyM fun value => ev.equals value expected document

/-- Runs a built-in operation. -/
def run (operation : Builtin) (ev : Evaluator κ ρ) (context : Option Json) (operand : Operand κ)
    (document : Json) : Except (Interruption ρ) (Option Json) :=
  match operation with
  | equal => do
    match ← operation.literal operand with
    | some expected => answer (deepEq expected context)
    | none => answer (looseEq context none)
  | notEqual => do answer (!(← ev.equals context operand document))
  | ordered relation => do
    answer ((compareValues? context (← operation.literal operand)).any relation.accepts)
  | modulo => do
    match ← operation.list operand with
    | [divisor, remainder] =>
      let divisor ← operation.literal divisor
      let remainder ← operation.literal remainder
      match remainder? context divisor with
      | some x => answer (isNumber x remainder)
      | none => answer false
    | _ => operation.unexpected .twoOperands
  | regex =>
    match context with
    | some (.string text) =>
      match operand with
      | .pattern compiled => answer (compiled.isMatch text)
      | .value (.string source) =>
        match Pattern.compile source with
        | .ok compiled => answer (compiled.isMatch text)
        | .error reason => .error (.failure (.invalidPattern reason))
      | .absent => answer true
      | _ => operation.unexpected .pattern
    | _ => answer false
  | present => do
    answer (looseEq (some (.bool context.isSome)) (← operation.literal operand))
  | empty => do answer (isEmptyValue context == truthy (← operation.literal operand))
  | anyOf => do answer (← someEqual ev context operand document)
  | noneOf => do answer (!(← someEqual ev context operand document))
  | allOf => do
    let operands ← operation.list operand
    answer <| ← (candidates context).allM fun value =>
      operands.anyM fun expected => ev.equals value expected document
  | field => operation.selected document operand
  | rounded rounding => .ok (rounding.value? context)
  | roundedField rounding => do return rounding.value? (← operation.selected document operand)
  | negation => do answer (!truthy (← operation.literal operand))
  | conjunction => do
    answer (← (← operation.list operand).allM (operation.childHolds ev none document))
  | disjunction => do
    answer (← (← operation.list operand).anyM (operation.childHolds ev none document))
  | neither => do
    answer (!(← (← operation.list operand).anyM (operation.childHolds ev none document)))
  | contextAnd => do
    answer (← (← operation.list operand).allM (operation.childHolds ev context document))
  | contextOr => do
    answer (← (← operation.list operand).anyM (operation.childHolds ev context document))
  | difference => do
    let inner ← operation.node operand
    return difference? context (inner.selector.bind fun s => s.resolve document)

end Builtin

/-! ## Operations of a host -/

/-- What the reports in a run can be: those of nodes, and others that show only how the run goes. -/
class ReportKind (ρ : Type) where
  of : MatchError → ρ
  /-- The report of a node, if it is one. -/
  error? : ρ → Option MatchError
  error?_of (e : MatchError) : error? (of e) = some e

instance : ReportKind MatchError where
  of e := e
  error? := some
  error?_of _ := rfl

/-- In runs that can be cut off, nothing is reported when they are. -/
instance : ReportKind (Option MatchError) where
  of := some
  error? report := report
  error?_of _ := rfl

/-- The interruption of an operation by itself or by the report of a node. -/
def Interruption.error? [ReportKind ρ] : Interruption ρ → Option EvalError
  | failure cause => some (.failure cause)
  | nested report => (ReportKind.error? report).map .nested

/-- A result, or an error that shows. -/
def seen? {ε ε' α : Type} (error? : ε → Option ε') : Except ε α → Option (Except ε' α)
  | .ok a => some (.ok a)
  | .error e => (error? e).map .error

/-- What an operation of a host does, step by step: it comes to an end, or it evaluates a node or
calls an operator by its name, and goes on with what comes of that. -/
inductive Procedure (κ : Type) where
  | done (result : EvalResult)
  | node (n : Node κ) (context : Option Json) (document : Json)
    (next : Except MatchError (Option Json) → Procedure κ)
  | call (name : String) (context : Option Json) (operand : Operand κ) (document : Json)
    (next : EvalResult → Procedure κ)

/-- Runs a procedure. It goes on with results and with errors that show; other errors end it. -/
def Procedure.run [ReportKind ρ] (ev : Evaluator κ ρ) :
    Procedure κ → Except (Interruption ρ) (Option Json)
  | done result => result.mapError (Interruption.map ReportKind.of)
  | node n context document next =>
    match ev.node n context document with
    | .ok v => (next (.ok v)).run ev
    | .error report =>
      match ReportKind.error? report with
      | some e => (next (.error e)).run ev
      | none => .error (.nested report)
  | call name context operand document next =>
    match ev.call name context operand document with
    | .ok v => (next (.ok v)).run ev
    | .error interruption =>
      match interruption.error? with
      | some e => (next (.error e)).run ev
      | none => .error interruption
termination_by structural p => p

/-- The operations of a host: what each of its keys does with a context, an operand and a
document. -/
abbrev Host (κ : Type) := κ → Option Json → Operand κ → Json → Procedure κ

/-- The host of registries that hold built-in operations only. -/
def Host.none : Host Empty := fun key => nomatch key

/-! ## Nodes -/

/-- The report of an error at a node. A report from further inside stays as it is. -/
def Interruption.report [ReportKind ρ] (e : Interruption ρ) (operator : Operator κ)
    (operand : Operand κ) (context : Option Json) : ρ :=
  match e with
  | nested report => report
  | failure cause => ReportKind.of ⟨operator.name, operand.text, context, cause⟩

namespace Node

/-- The context of a node: the one that is given, or what its selector points at. -/
def contextIn (selector : Option Selector) (context : Option Json) (document : Json) :
    Option Json :=
  match context, selector with
  | none, some s => s.resolve document
  | context, _ => context

/-- Evaluates a node, where `apply` applies an operator. -/
def evaluateWith [ReportKind ρ]
    (apply : Operator κ → Option Json → Operand κ → Json → Except (Interruption ρ) (Option Json)) :
    Node κ → Option Json → Json → Except ρ (Option Json)
  | ⟨selector, operator, operand⟩, given, document =>
    let context := contextIn selector given document
    let applied (o : Operand κ) : Except ρ (Option Json) :=
      (apply operator context o document).mapError fun e => e.report operator operand context
    match operand with
    | .node inner =>
      if operator.rightHanded || inner.operator.rightHanded then do
        applied (.ofValue (← evaluateWith apply inner context document))
      else do
        evaluateWith apply inner (← applied (.node inner)) document
    | .value v => applied (.value v)
    | .absent => applied .absent
    | .list items => applied (.list items)
    | .pattern regex => applied (.pattern regex)
    | .selector s => applied (.selector s)
termination_by structural n => n

end Node

/-! ## Calls within calls -/

/-- Runs the body of an operator. -/
def Host.run [ReportKind ρ] (host : Host κ) (ev : Evaluator κ ρ) (op : Operator κ)
    (context : Option Json) (operand : Operand κ) (document : Json) :
    Except (Interruption ρ) (Option Json) :=
  match op.body with
  | .builtin operation => operation.run ev context operand document
  | .custom key => (host key context operand document).run ev

namespace Registry

/-- The evaluator with which bodies are run, where `apply` applies an operator. -/
def evaluatorWith [ReportKind ρ] (r : Registry κ)
    (apply : Operator κ → Option Json → Operand κ → Json → Except (Interruption ρ) (Option Json)) :
    Evaluator κ ρ where
  node := Node.evaluateWith apply
  call name context operand document :=
    match r.get? name with
    | some op => apply op context operand document
    | none => .error (.failure (.missingOperator name))

/-- Applies an operator, with calls nested at most `depth` deep. Where they go deeper, the run is
cut off. -/
def applyWithin (r : Registry κ) (host : Host κ) :
    Nat → Operator κ → Option Json → Operand κ → Json →
      Except (Interruption (Option MatchError)) (Option Json)
  | 0, _, _, _, _ => .error (.nested none)
  | depth + 1, op, context, operand, document =>
    host.run (r.evaluatorWith (r.applyWithin host depth)) op context operand document
termination_by structural depth => depth

end Registry

/-- The first depth from this one on at which something is found. The search need not end. -/
def depthFrom {α : Type} (found? : Nat → Option α) : Nat → Nat :=
  WellFounded.extrinsicFix (fun next depth => found? depth = none ∧ next = depth + 1)
    fun depth search =>
      match h : found? depth with
      | some _ => depth
      | none => search (depth + 1) ⟨h, rfl⟩

/-- What runs come to when they are not cut off. It is tried with this depth and then with more. -/
def limit {ε : Type} (run? : Nat → Option (Except ε (Option Json))) (depth : Nat) :
    Except ε (Option Json) :=
  match run? depth with
  | some result => result
  | none => (run? (depthFrom run? (depth + 1))).getD (.ok none)

namespace Registry

/-- Applies an operator. -/
def apply (r : Registry κ) (host : Host κ) (op : Operator κ) (context : Option Json)
    (operand : Operand κ) (document : Json) : EvalResult :=
  limit (fun depth =>
    seen? Interruption.error? (r.applyWithin host depth op context operand document))
    (operand.depth + 2)

/-- Evaluates a node. -/
def evaluate (r : Registry κ) (host : Host κ) (n : Node κ) (context : Option Json)
    (document : Json) : Except MatchError (Option Json) :=
  limit (fun depth =>
    seen? ReportKind.error? (n.evaluateWith (r.applyWithin host depth) context document))
    (n.depth + 2)

/-- Calls an operator by its name. -/
def call (r : Registry κ) (host : Host κ) : String → Option Json → Operand κ → Json → EvalResult :=
  (r.evaluatorWith (r.apply host)).call

end Registry

end DocFilter
