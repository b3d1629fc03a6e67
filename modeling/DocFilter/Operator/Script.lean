import DocFilter.Filter.Evaluate

/-!
# Scripted operations

Small operations that a host can give to operators of its own without writing code: constants,
the parts of a call, errors, and calls to other operators.
-/

namespace DocFilter

/-- A scripted operation. -/
inductive Script where
  | constant (v : Json)
  | absent
  | context
  /-- The operand, if it is a literal. -/
  | operand
  | document
  /-- The text of the operand. -/
  | showOperand
  | fail (text : String)
  /-- The result of another operator on the same operand. -/
  | call (name : String)
  /-- Whether the operand, if it is a node, holds. -/
  | holds
  /-- What the operand, if it is a selector, points at. -/
  | resolve
  /-- The length of the operand, if it is a list. -/
  | count

/-- Runs a scripted operation. -/
def Script.run : Host Script
  | .constant v, _, _, _ => .done (.ok (some v))
  | .absent, _, _, _ => .done (.ok none)
  | .context, given, _, _ => .done (.ok given)
  | .operand, _, .value v, _ => .done (.ok (some v))
  | .operand, _, _, _ => .done (.ok none)
  | .document, _, _, doc => .done (.ok (some doc))
  | .showOperand, _, argument, _ => .done (.ok (some (.string argument.text)))
  | .fail text, _, _, _ => .done (.error (.failure (.custom text)))
  | .call name, given, argument, doc => .call name given argument doc .done
  | .holds, given, .node n, doc => .node n given doc fun result => .done <|
    match result with
    | .ok v => .ok (some (.bool (truthy v)))
    | .error report => .error (.nested report)
  | .holds, _, _, _ => .done (.ok none)
  | .resolve, _, .selector s, doc => .done (.ok (s.resolve doc))
  | .resolve, _, _, _ => .done (.ok none)
  | .count, _, .list items, _ => .done (.ok (some (.number (.int items.length))))
  | .count, _, _, _ => .done (.ok none)

end DocFilter
