import DocFilter.Document
import DocFilter.Filter.Basic

/-!
# Searches

A filter is asked of a list of documents. A search reports the positions of the documents that
match, or of those that do not when it is inverted. A document on which the filter fails ends the
search, unless such documents are to be skipped; it is never reported as a match.
-/

namespace DocFilter

/-- How a search goes about its documents. -/
structure SearchOptions where
  /-- Report the documents that do not match. -/
  invert : Bool
  /-- Go on after a document on which the filter fails. -/
  skipErrors : Bool
  deriving DecidableEq, Repr, Inhabited

/-- What a search finds: the positions of matches, and the reports of the documents that it
skipped with their positions. -/
structure SearchOutcome where
  matched : List Nat
  skipped : List (Nat × MatchError)
  deriving Repr, Inhabited

/-- Searches documents, the first of which has position `index`; `judge` tells whether a document
matches. -/
def searchFrom (judge : Json → Except MatchError Bool) (options : SearchOptions) (index : Nat) :
    List Document → Except MatchError SearchOutcome
  | [] => .ok ⟨[], []⟩
  | document :: documents =>
    match judge document.value with
    | .ok isMatch => do
      let rest ← searchFrom judge options (index + 1) documents
      if isMatch != options.invert then
        return { rest with matched := index :: rest.matched }
      else return rest
    | .error report =>
      if options.skipErrors then do
        let rest ← searchFrom judge options (index + 1) documents
        return { rest with skipped := (index, report) :: rest.skipped }
      else .error report

/-- Searches documents with a filter. -/
def search {κ : Type} (filter : Filter κ) (host : Host κ) (options : SearchOptions)
    (documents : List Document) : Except MatchError SearchOutcome :=
  searchFrom (filter.matches? host) options 0 documents

namespace SearchOutcome

/-- The matches, one on a line with its source and position. -/
def text (o : SearchOutcome) (documents : List Document) : String :=
  String.join <| (o.matched.filterMap fun index => documents[index]?).map fun d =>
    d.source ++ "#" ++ toString d.index ++ ": " ++ d.value.compact ++ "\n"

/-- The number of matches on a line. -/
def countText (o : SearchOutcome) : String :=
  toString o.matched.length ++ "\n"

/-- A count as JSON. -/
def countJson (n : Nat) : Json :=
  .number (.int n)

/-- Where a document came from, as members of an object. -/
def place (d : Document) : Members :=
  [("source", .string d.source), ("index", countJson d.index)]

/-- A match as JSON. -/
def matchJson (showDocuments : Bool) (d : Document) : Json :=
  .object (place d ++ if showDocuments then [("document", d.value)] else [])

/-- A skipped document as JSON. -/
def skippedJson (d : Document) (report : MatchError) : Json :=
  .object (place d ++
    [("operator", .string report.operator), ("message", .string report.message)])

/-- A report of the search as JSON. -/
def toJson (o : SearchOutcome) (filterText : String) (documents : List Document)
    (showDocuments : Bool) : Json :=
  let found := (o.matched.filterMap fun index => documents[index]?).map
    (matchJson showDocuments)
  let errors := o.skipped.filterMap fun (index, report) =>
    documents[index]?.map fun d => skippedJson d report
  .object [("search", .object [
    ("filter", .string filterText),
    ("documents", countJson documents.length),
    ("matched", countJson o.matched.length),
    ("matches", .array found),
    ("errors", .array errors)])]

/-- The counts of the search as JSON. -/
def countsToJson (o : SearchOutcome) : Json :=
  .object [("search", .object [
    ("matched", countJson o.matched.length),
    ("errors", countJson o.skipped.length)])]

end SearchOutcome

end DocFilter
