import DocFilter.Json.Strict
import DocFilter.Source
import DocFilter.Text.Blank

/-!
# Documents

Input text is split into documents. Text that as a whole is strict JSON is one document, or one
for each item when it is an array. All other text is read line by line, each line that is not
blank being a document. Files are named by paths; the name `-`, or no name at all, stands for
standard input.
-/

namespace DocFilter

/-- Why documents cannot be had from a source. -/
inductive DocumentError where
  | unreadable (source : String) (reason : ReadError)
  /-- A line that is no JSON, counted from one. -/
  | malformed (source : String) (line : Nat)
  deriving DecidableEq, Repr, Inhabited

/-- The wording of the error. -/
def DocumentError.message : DocumentError → String
  | unreadable source reason => "Failed to read '" ++ source ++ "': " ++ reason.message
  | malformed source line =>
    "Invalid JSON in '" ++ source ++ "' at line " ++ toString line ++ ": not a JSON value"

/-- A document, where it came from, and its position there. -/
structure Document where
  source : String
  index : Nat
  value : Json
  deriving Repr, Inhabited

namespace Document

/-- The values on lines of text, the first of which has this number. -/
def linesFrom (source : String) (number : Nat) :
    List (List Char) → Except DocumentError (List Json)
  | [] => .ok []
  | line :: lines =>
    match trim line with
    | [] => linesFrom source (number + 1) lines
    | content =>
      match Json.read? (String.ofList content) with
      | none => .error (.malformed source number)
      | some v => do return v :: (← linesFrom source (number + 1) lines)

/-- The values that a text holds. -/
def valuesOf (source text : String) : Except DocumentError (List Json) :=
  match Json.read? text with
  | some (.array items) => .ok items
  | some v => .ok [v]
  | none => linesFrom source 1 (splitLines text.toList)

/-- Numbers values as documents of one source. -/
def number (source : String) (values : List Json) : List Document :=
  values.zipIdx.map fun (v, index) => ⟨source, index, v⟩

/-- The documents in a text. -/
def ofText (source text : String) : Except DocumentError (List Document) :=
  (valuesOf source text).map (number source)

end Document

/-- The name of standard input. -/
def standardInputName : String := "-"

/-- Whether a path stands for standard input. Empty components and dots after the name do not
count, as they do not in any path. -/
def isStandardInput (path : String) : Bool :=
  match path.splitOn "/" with
  | name :: rest => name == standardInputName && rest.all fun part => part == "" || part == "."
  | [] => false

namespace Source

variable {m : Type → Type} [Monad m]

/-- The documents of one path. -/
def documentsOf (s : Source m) (path : String) : m (Except DocumentError (List Document)) := do
  let isInput := isStandardInput path
  let name := if isInput then standardInputName else path
  match ← if isInput then s.inputText else s.fileText path with
  | .error reason => return .error (.unreadable name reason)
  | .ok text => return Document.ofText name text

/-- The documents of several paths, up to the first error. -/
def documentsOfAll (s : Source m) : List String → m (Except DocumentError (List Document))
  | [] => return .ok []
  | path :: paths => do
    match ← s.documentsOf path with
    | .error e => return .error e
    | .ok documents =>
      match ← s.documentsOfAll paths with
      | .error e => return .error e
      | .ok others => return .ok (documents ++ others)

/-- The documents of all paths in order, or of standard input when there is none. -/
def documents (s : Source m) (paths : List String) : m (Except DocumentError (List Document)) :=
  s.documentsOfAll (if paths.isEmpty then [standardInputName] else paths)

end Source

end DocFilter
