import DocFilter.Operator.Basic

/-!
# Registries

A registry holds operators by name, in the order of their names. Adding an operator replaces the
one of its name. An alias puts a copy of an operator under another name, so a later change of the
operator does not reach it. `Registry.defaults` holds the operators of the query language itself.

Two things hold by the way a registry is represented here. An operator is found under the name that
it has, since a registry lists operators and no names beside them. And a call that fails leaves the
registry as it is, since a call makes another registry when it succeeds, and nothing when it fails.
-/

namespace DocFilter

/-- The operators that a query may use, in the order of their names. -/
structure Registry (κ : Type) where
  operators : List (Operator κ)
  deriving DecidableEq, Repr

namespace Registry

variable {κ : Type}

/-- No operators. -/
def empty : Registry κ := ⟨[]⟩

/-- Adds an operator to a list in the order of names, in place of one of its name. -/
def insertInto (op : Operator κ) : List (Operator κ) → List (Operator κ)
  | [] => [op]
  | o :: rest =>
    if op.name = o.name then op :: rest
    else if op.name < o.name then op :: o :: rest
    else o :: insertInto op rest

/-- The registry with an operator added or replaced. -/
def insert (r : Registry κ) (op : Operator κ) : Registry κ :=
  ⟨insertInto op r.operators⟩

/-- The operator of a name. -/
def get? (r : Registry κ) (name : String) : Option (Operator κ) :=
  r.operators.find? fun op => op.name == name

/-- Whether there is an operator of this name. -/
def contains (r : Registry κ) (name : String) : Bool :=
  (r.get? name).isSome

/-- The registry with another name for an operator that it holds. -/
def addAlias (r : Registry κ) (name target : String) :
    Except DefinitionError (Registry κ) :=
  match r.get? target with
  | none => .error (.unknownAliasTarget name target)
  | some op => (op.renamed name).map r.insert

/-- The names of the operators. -/
def names (r : Registry κ) : List String :=
  r.operators.map (·.name)

/-- The number of operators. -/
def size (r : Registry κ) : Nat :=
  r.operators.length

/-- The operators of the query language. -/
def builtins : List (Operator κ) := [
  .ofBuiltin .equal .value false,
  .ofBuiltin .notEqual .value false,
  .ofBuiltin (.ordered .greater) .value false,
  .ofBuiltin (.ordered .atLeast) .value false,
  .ofBuiltin (.ordered .less) .value false,
  .ofBuiltin (.ordered .atMost) .value false,
  .ofBuiltinList .modulo 2 (some 2),
  .ofBuiltin .regex .pattern false,
  .ofBuiltin .present .value false,
  .ofBuiltin .empty .value false,
  .ofBuiltinList .anyOf 2 none,
  .ofBuiltinList .noneOf 2 none,
  .ofBuiltinList .allOf 2 none,
  .ofBuiltin .field .context true,
  .ofBuiltin (.rounded .halfUp) .operator false,
  .ofBuiltin (.rounded .down) .operator false,
  .ofBuiltin (.rounded .up) .operator false,
  .ofBuiltin (.roundedField .halfUp) .context true,
  .ofBuiltin (.roundedField .down) .context true,
  .ofBuiltin (.roundedField .up) .context true,
  .ofBuiltin .negation .operator true,
  .ofBuiltinList .conjunction 2 none,
  .ofBuiltinList .disjunction 2 none,
  .ofBuiltinList .neither 2 none,
  .ofBuiltinList .contextAnd 2 none,
  .ofBuiltinList .contextOr 2 none,
  .ofBuiltin .difference .value false]

/-- The registry of the query language, without additions. -/
def defaults : Registry κ :=
  builtins.foldl insert empty

end Registry

end DocFilter
