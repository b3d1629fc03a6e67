import DocFilter.Operator.Registry
import DocFilter.Pattern
import DocFilter.Selector.Basic
import DocFilter.Text.Quoted

/-!
# Filter trees

A compiled query is a tree of nodes. A node may select a field, and applies an operator to an
operand: a literal, another node, a list, a pattern or a selector. The text of a tree shows it in
the notation of the query language, with everything implicit spelt out.
-/

namespace DocFilter

mutual

/-- A condition: the field it selects, if it selects one, an operator and its operand. -/
structure Node (κ : Type) where
  selector : Option Selector
  operator : Operator κ
  operand : Operand κ

/-- What an operator is applied to. -/
inductive Operand (κ : Type) where
  /-- A literal, or the value that a right-handed operand has produced. -/
  | value (v : Json)
  /-- What is left of a right-handed operand that has produced nothing. -/
  | absent
  | node (n : Node κ)
  | list (items : List (Operand κ))
  | pattern (regex : Regex)
  | selector (s : Selector)

end

variable {κ : Type}

/-- A node without a selector. -/
def Node.plain (operator : Operator κ) (operand : Operand κ) : Node κ :=
  ⟨none, operator, operand⟩

/-- The operand that a value, which may be absent, leaves. -/
def Operand.ofValue : Option Json → Operand κ
  | some v => .value v
  | none => .absent

mutual

/-- The number of nodes of a tree. -/
def Node.size : Node κ → Nat
  | ⟨_, _, operand⟩ => operand.size + 1
termination_by structural n => n

/-- The number of nodes in an operand. -/
def Operand.size : Operand κ → Nat
  | .node n => n.size
  | .list items => sizeOfItems items
  | .value _ | .absent | .pattern _ | .selector _ => 0
termination_by structural o => o

def sizeOfItems : List (Operand κ) → Nat
  | [] => 0
  | item :: items => item.size + sizeOfItems items
termination_by structural items => items

end

mutual

/-- How deep lists and nodes are nested in a node. -/
def Node.depth : Node κ → Nat
  | ⟨_, _, operand⟩ => operand.depth + 1
termination_by structural n => n

/-- How deep lists and nodes are nested in an operand. -/
def Operand.depth : Operand κ → Nat
  | .node n => n.depth
  | .list items => depthOfItems items + 1
  | .value _ | .absent | .pattern _ | .selector _ => 0
termination_by structural o => o

def depthOfItems : List (Operand κ) → Nat
  | [] => 0
  | item :: items => max item.depth (depthOfItems items)
termination_by structural items => items

end

mutual

/-- The text of a node. -/
def Node.text : Node κ → String
  | ⟨selector, operator, operand⟩ =>
    let applied := operator.name ++ "(" ++ operand.text ++ ")"
    match selector with
    | some s => s.raw ++ ": " ++ applied
    | none => applied
termination_by structural n => n

/-- The text of an operand. -/
def Operand.text : Operand κ → String
  | .value v => v.compact
  | .absent => "absent"
  | .node n => n.text
  | .list items => "[" ++ String.intercalate ", " (textsOfItems items) ++ "]"
  | .pattern regex => "/" ++ regex.source ++ "/"
  | .selector s => showText s.raw
termination_by structural o => o

def textsOfItems : List (Operand κ) → List String
  | [] => []
  | item :: items => item.text :: textsOfItems items
termination_by structural items => items

end

end DocFilter
