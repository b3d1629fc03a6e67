import DocFilter.Filter.Compile
import DocFilter.Filter.Evaluate
import DocFilter.Json.Relaxed
import DocFilter.Json.Strict

/-!
# Filters

A filter is a compiled query together with the registry it was compiled with. It is made from
query text or from a value, and can then be asked of any number of documents.
-/

namespace DocFilter

/-- Query text as JSON text: the members of an object may stand without its braces. -/
def wrapQuery (text : List Char) : List Char :=
  match text with
  | '\x7b' :: _ | '[' :: _ => text
  | _ => '\x7b' :: text ++ ['\x7d']

/-- The value of a query text, which is strict JSON or, failing that, relaxed JSON. -/
def decodeQuery (text : String) : Except QueryError Json :=
  match trim text.toList with
  | [] => .error .emptyText
  | trimmed =>
    let source := String.ofList (wrapQuery trimmed)
    match (Json.read? source).orElse fun _ => Json.Relaxed.read? source with
    | some v => .ok v
    | none => .error .malformedText

/-- A compiled query with its registry. -/
structure Filter (κ : Type) where
  root : Node κ
  registry : Registry κ

namespace Filter

variable {κ : Type}

/-- The filter of a value. -/
def ofValue (registry : Registry κ) (raw : Json) : Except QueryError (Filter κ) := do
  return ⟨← registry.nodeOf raw false, registry⟩

/-- The filter of a query text. -/
def ofText (registry : Registry κ) (text : String) : Except QueryError (Filter κ) := do
  ofValue registry (← decodeQuery text)

/-- What the filter evaluates to on a document. -/
def evaluate (f : Filter κ) (host : Host κ) (context : Option Json) (document : Json) :
    Except MatchError (Option Json) :=
  f.registry.evaluate host f.root context document

/-- Whether a document matches, starting from a context if there is one. -/
def matchesIn (f : Filter κ) (host : Host κ) (context : Option Json) (document : Json) :
    Except MatchError Bool :=
  (f.evaluate host context document).map truthy

/-- Whether a document matches. -/
def matches? (f : Filter κ) (host : Host κ) (document : Json) : Except MatchError Bool :=
  f.matchesIn host none document

/-- The tree of the filter as text. -/
def text (f : Filter κ) : String :=
  f.root.text

end Filter

end DocFilter
