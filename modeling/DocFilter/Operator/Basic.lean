import DocFilter.Json.Basic
import DocFilter.Operator.Builtin
import DocFilter.Text.Character

/-!
# Operators

An operator of the query language has a name, a kind of operand, bounds on the number of operands
in a list, a side, and a body: a built-in operation, or a key by which the program that hosts the
language knows an operation of its own. A right-handed operator produces a value for the operator
around it instead of a condition.

Operators are made by `Operator.create` from a specification and by `Operator.renamed` from
another operator; both see to it that the name is valid.
-/

namespace DocFilter

/-- Why an operator cannot be defined. -/
inductive DefinitionError where
  | invalidName (name : String)
  | unknownKind (kind : String)
  | invalidArity (name : String) (least most : Nat)
  | unknownAliasTarget (name target : String)
  deriving DecidableEq, Repr, Inhabited

/-- The wording of the error. -/
def DefinitionError.message : DefinitionError → String
  | invalidName name =>
    "Invalid operator name '" ++ name ++
      "': names must begin with '$' followed by word characters"
  | unknownKind kind =>
    "Unknown operand kind '" ++ kind ++
      "'. Valid kinds are: array, pattern, operator, context, value"
  | invalidArity name least most =>
    "Operator " ++ name ++ " declares min " ++ toString least ++ " operands but max " ++
      toString most
  | unknownAliasTarget name target =>
    "Alias " ++ name ++ " points at unknown operator " ++ target

/-- What an operator does. -/
inductive Body (κ : Type) where
  | builtin (operation : Builtin)
  | custom (key : κ)
  deriving DecidableEq, Repr

/-- An operator of the query language. -/
structure Operator (κ : Type) where
  name : String
  kind : OperandKind
  least : Nat
  /-- The greatest number of operands in a list; no bound when there is none. -/
  most : Option Nat
  rightHanded : Bool
  body : Body κ
  deriving DecidableEq, Repr

/-- An operator as it is declared. A count of zero is no bound. -/
structure OperatorSpec where
  name : String
  kind : Option String
  least : Option Nat
  most : Option Nat
  rightHanded : Bool
  deriving DecidableEq, Repr

namespace OperatorSpec

/-- A count: an integer of 64 bits that is not negative. -/
def count? : Json → Option Nat
  | .number (.int i) => if 0 ≤ i then some i.toNat else none
  | _ => none

/-- A part of a specification that may be missing or `null`. -/
def optional {α : Type} (read : Json → Option α) : Option Json → Option (Option α)
  | none | some .null => some none
  | some v => (read v).map some

/-- The text of a string. -/
def text? : Json → Option String
  | .string s => some s
  | _ => none

/-- The specification with these parts, of which only the name has to be there. -/
def ofParts? (name kind least most rightHanded : Option Json) : Option OperatorSpec := do
  let name ← name.bind text?
  let kind ← optional text? kind
  let least ← optional count? least
  let most ← optional count? most
  match rightHanded with
  | none => some ⟨name, kind, least, most, false⟩
  | some (.bool b) => some ⟨name, kind, least, most, b⟩
  | some _ => none

/-- A specification from JSON: an object, or an array of its parts in order. -/
def ofJson? : Json → Option OperatorSpec
  | .object members =>
    let get := Members.get? members
    ofParts? (get "name") (get "operandKind") (get "operandCountMin") (get "operandCountMax")
      (get "rightHanded")
  | .array parts =>
    if 5 < parts.length then none
    else ofParts? parts[0]? parts[1]? parts[2]? parts[3]? parts[4]?
  | _ => none

/-- A specification as JSON. -/
def toJson (s : OperatorSpec) : Json :=
  let count (n : Option Nat) : Json := match n with
    | some n => .number (.int n)
    | none => .null
  .object [
    ("name", .string s.name),
    ("operandKind", match s.kind with | some k => .string k | none => .null),
    ("operandCountMin", count s.least),
    ("operandCountMax", count s.most),
    ("rightHanded", .bool s.rightHanded)]

end OperatorSpec

/-- Whether a text can name an operator: a dollar sign and at least one word character. -/
def isOperatorName (name : String) : Bool :=
  match name.toList with
  | '$' :: c :: cs => (c :: cs).all isWord
  | _ => false

namespace Operator

variable {κ : Type}

/-- A built-in operator. -/
def ofBuiltin (operation : Builtin) (kind : OperandKind) (rightHanded : Bool) : Operator κ :=
  ⟨operation.name, kind, 0, none, rightHanded, .builtin operation⟩

/-- A built-in operator that takes a list. -/
def ofBuiltinList (operation : Builtin) (least : Nat) (most : Option Nat) : Operator κ :=
  ⟨operation.name, .array, least, most, false, .builtin operation⟩

/-- The kind that a specification asks for; a value when it says nothing. -/
def kindOf (spec : OperatorSpec) : Except DefinitionError OperandKind :=
  match spec.kind with
  | none => .ok .value
  | some name =>
    match OperandKind.ofName? name with
    | some kind => .ok kind
    | none => .error (.unknownKind name)

/-- The operator that a specification describes, with a body of the host's. Its kind is looked at
first, then its name, then its counts. -/
def create (spec : OperatorSpec) (key : κ) : Except DefinitionError (Operator κ) := do
  let kind ← kindOf spec
  if !isOperatorName spec.name then throw (.invalidName spec.name)
  let least := spec.least.getD 0
  let most := spec.most.getD 0
  if 0 < most ∧ most < least then throw (.invalidArity spec.name least most)
  return ⟨spec.name, kind, least, if most = 0 then none else some most, spec.rightHanded,
    .custom key⟩

/-- The same operator under another name. -/
def renamed (op : Operator κ) (name : String) : Except DefinitionError (Operator κ) :=
  if isOperatorName name then .ok { op with name } else .error (.invalidName name)

/-- The specification of an operator. -/
def spec (op : Operator κ) : OperatorSpec :=
  ⟨op.name, some op.kind.name, if op.least = 0 then none else some op.least, op.most,
    op.rightHanded⟩

/-- Whether an operator refers to a value: it is right-handed and takes a selector. -/
def isReference (op : Operator κ) : Bool :=
  op.rightHanded && op.kind == .context

end Operator

end DocFilter
