import DocFilter.Operator.Registry
import DocFilter.Source
import DocFilter.Toml.Reader

/-!
# Configuration

Settings from a TOML document: saved filters and aliases of operators, both in the order of their
names, and defaults for output. Everything may be missing, and entries that mean nothing here are
passed over; an entry of the wrong type makes the document unusable.
-/

namespace DocFilter

/-- The settings of a configuration. -/
structure Config where
  /-- Saved filters, as query texts. -/
  filters : List (String × String)
  /-- Additional names of operators. -/
  aliases : List (String × String)
  /-- Whether JSON output is pretty. -/
  pretty : Bool
  /-- Whether reports show the matched documents. -/
  showDocuments : Bool
  deriving DecidableEq, Repr, Inhabited

namespace Config

/-- The settings without a configuration. -/
def default : Config := ⟨[], [], false, false⟩

/-- The value of a key. -/
def field? (entries : List (String × Toml)) (key : String) : Option Toml :=
  (entries.find? fun e => e.1 == key).map (·.2)

/-- The texts of a table of strings. -/
def textsOf : List (String × Toml) → Option (List (String × String))
  | [] => some []
  | (key, .string text) :: rest => do some ((key, text) :: (← textsOf rest))
  | _ :: _ => none

/-- A table of strings in the order of its keys; empty when it is missing. -/
def texts? : Option Toml → Option (List (String × String))
  | none => some []
  | some (.table entries) => (textsOf entries).map fun l => l.mergeSort fun a b => a.1 ≤ b.1
  | some _ => none

/-- A switch, off when it is missing. -/
def switch? : Option Toml → Option Bool
  | none => some false
  | some (.boolean b) => some b
  | some _ => none

/-- The switches for output, in a table or in their order in an array. -/
def output? : Option Toml → Option (Bool × Bool)
  | none => some (false, false)
  | some (.table entries) => do
    some (← switch? (field? entries "pretty"), ← switch? (field? entries "show_documents"))
  | some (.array items) => do some (← switch? items[0]?, ← switch? items[1]?)
  | some _ => none

/-- The settings in the entries of a document. -/
def ofEntries? (entries : List (String × Toml)) : Option Config := do
  let filters ← texts? (field? entries "filters")
  let aliases ← texts? (field? entries "aliases")
  let (pretty, showDocuments) ← output? (field? entries "output")
  some ⟨filters, aliases, pretty, showDocuments⟩

/-- The settings in a TOML text. -/
def read? (text : String) : Option Config := do
  ofEntries? (← Toml.read? text)

/-- Adds aliases to a registry, one after the other. -/
def addAliases {κ : Type} (registry : Registry κ) :
    List (String × String) → Except DefinitionError (Registry κ)
  | [] => .ok registry
  | (name, target) :: rest => do addAliases (← registry.addAlias name target) rest

/-- The operators of a configuration: the built-in ones and its aliases. -/
def registry {κ : Type} (c : Config) : Except DefinitionError (Registry κ) :=
  addAliases Registry.defaults c.aliases

/-- The query text of a saved filter. -/
def savedFilter? (c : Config) (name : String) : Option String :=
  (c.filters.find? fun f => f.1 == name).map (·.2)

end Config

/-- Why there is no configuration. -/
inductive ConfigError where
  | unreadable (path : String) (reason : ReadError)
  | malformed (path : String)
  deriving DecidableEq, Repr, Inhabited

/-- The wording of the error. -/
def ConfigError.message : ConfigError → String
  | unreadable path reason =>
    "Failed to read config file '" ++ path ++ "': " ++ reason.message
  | malformed path =>
    "Failed to parse config file '" ++ path ++ "': not a configuration in TOML"

/-- The configuration in a file, or the default one when no file is named. -/
def Source.config {m : Type → Type} [Monad m] (s : Source m) :
    Option String → m (Except ConfigError Config)
  | none => return .ok Config.default
  | some path => do
    match ← s.fileText path with
    | .error reason => return .error (.unreadable path reason)
    | .ok text =>
      match Config.read? text with
      | some config => return .ok config
      | none => return .error (.malformed path)

end DocFilter
