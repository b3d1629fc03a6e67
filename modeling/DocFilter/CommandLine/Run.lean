import DocFilter.CommandLine.Arguments
import DocFilter.CommandLine.Table
import DocFilter.Config

/-!
# Runs of the command line

A run reads the configuration, compiles the query and carries out the command. It ends with an
exit code, a text for standard output and a text of diagnostics: 0 when all went well, 1 when
something failed, 2 when the arguments could not be understood. Diagnostics that were written
before a failure stay written.
-/

namespace DocFilter

/-- Why a run fails. -/
inductive RunError where
  | config (reason : ConfigError)
  | definition (reason : DefinitionError)
  | query (reason : QueryError)
  | documents (reason : DocumentError)
  | evaluation (report : MatchError)
  /-- The configuration saves no filter of this name. -/
  | noSavedFilter (name : String)
  deriving Repr, Inhabited

/-- The wording of the error. -/
def RunError.message : RunError → String
  | config reason => reason.message
  | definition reason => reason.message
  | query reason => reason.message
  | documents reason => reason.message
  | evaluation report => report.message
  | noSavedFilter name => "No saved filter named '" ++ name ++ "' in config"

/-- What a run leaves behind. -/
structure Outcome where
  exitCode : Nat
  output : String
  diagnostics : String
  deriving DecidableEq, Repr

/-- A run in progress, with the diagnostics written so far. -/
abbrev Run (m : Type → Type) := ExceptT RunError (StateT String m)

/-- The colours of diagnostics, by their terminal codes. -/
inductive Hue where
  | red
  | green
  deriving DecidableEq, Repr

/-- The code of a colour. -/
def Hue.code : Hue → String
  | red => "31"
  | green => "32"

/-- A text in bold and in colour, when `colored`. -/
def Hue.paint (hue : Hue) (colored : Bool) (text : String) : String :=
  if colored then "\x1b[1;" ++ hue.code ++ "m" ++ text ++ "\x1b[0m" else text

namespace Arguments

/-- Whether diagnostics about the run are asked for. -/
def isVerbose (a : Arguments) : Bool :=
  0 < a.verbosity && !a.quiet

/-- Whether diagnostics are coloured, which they are only on request. -/
def isColored (a : Arguments) : Bool :=
  a.color == .always

end Arguments

namespace Run

variable {m : Type → Type} [Monad m]

/-- Writes a line of diagnostics. -/
def writeLine (line : String) : Run m Unit :=
  modify fun written => written ++ line ++ "\n"

/-- Writes a line of diagnostics when `wanted`. -/
def writeLineIf (wanted : Bool) (line : String) : Run m Unit :=
  if wanted then writeLine line else pure ()

/-- A result, or a failure of the run. -/
def ofExcept {ε α : Type} (failure : ε → RunError) : Except ε α → Run m α
  | .ok value => pure value
  | .error e => throw (failure e)

/-- The text of a query. -/
def queryText (config : Config) : QuerySource → Run m String
  | .text query => pure query
  | .saved name =>
    match config.savedFilter? name with
    | some query => pure query
    | none => throw (.noSavedFilter name)

/-- The filter of a query. -/
def filterOf (config : Config) (registry : Registry Empty) (query : QuerySource) :
    Run m (Filter Empty) := do
  ofExcept .query (Filter.ofText registry (← queryText config query))

/-- The settings of a run as diagnostics. -/
def describe (a : Arguments) (config : Config) : Run m Unit := do
  let write := writeLineIf a.isVerbose
  write ("Verbosity level: " ++ toString a.verbosity)
  write ("Color mode: " ++ a.color.label)
  if let some path := a.config then write ("Config file: " ++ path)
  if !config.aliases.isEmpty then
    write ("Operator aliases: " ++ toString config.aliases.length)

/-- A document that was skipped, as a line of diagnostics. -/
def skippedLine (a : Arguments) (document : Document) (report : MatchError) : String :=
  Hue.red.paint a.isColored "skipped" ++ " " ++ document.source ++ "#" ++
    toString document.index ++ ": " ++ report.message

/-- The result of a search in the form that is asked for. -/
def searchOutput (a : Arguments) (config : Config) (countOnly : Bool) (filter : Filter Empty)
    (documents : List Document) (outcome : SearchOutcome) : String :=
  match a.format, countOnly with
  | .text, false => outcome.text documents
  | .text, true => outcome.countText
  | .json, false =>
    (outcome.toJson filter.text documents config.showDocuments).render config.pretty ++ "\n"
  | .json, true => outcome.countsToJson.render config.pretty ++ "\n"

/-- Searches documents. -/
def search (source : Source m) (a : Arguments) (config : Config) (registry : Registry Empty)
    (query : QuerySource) (files : List String) (countOnly : Bool) (options : SearchOptions) :
    Run m String := do
  let filter ← filterOf config registry query
  writeLineIf a.isVerbose ("Filter: " ++ filter.text)
  let documents ← ofExcept .documents (← source.documents files)
  let outcome ← ofExcept .evaluation (DocFilter.search filter Host.none options documents)
  outcome.skipped.forM fun (index, report) =>
    documents[index]?.forM fun document =>
      writeLineIf (!a.quiet) (skippedLine a document report)
  writeLineIf a.isVerbose ("Matched " ++ toString outcome.matched.length ++ " of " ++
    toString documents.length ++ " documents")
  return searchOutput a config countOnly filter documents outcome

/-- Checks a query. -/
def check (a : Arguments) (config : Config) (registry : Registry Empty) (query : QuerySource) :
    Run m String := do
  let filter ← filterOf config registry query
  match a.format with
  | .text =>
    writeLineIf (!a.quiet)
      (Hue.green.paint a.isColored "valid" ++ " " ++ toString filter.root.size ++ " node(s)")
    return filter.text ++ "\n"
  | .json =>
    let report := Json.object [
      ("valid", .bool true),
      ("nodes", .number (.int filter.root.size)),
      ("filter", .string filter.text)]
    return report.render config.pretty ++ "\n"

/-- The numbers of operands that an operator takes. -/
def arityText (op : Operator Empty) : String :=
  match op.kind with
  | .array =>
    match op.most with
    | some most =>
      if op.least = most then toString most else toString op.least ++ ".." ++ toString most
    | none => toString op.least ++ ".."
  | _ => "-"

/-- The operators as a table. -/
def operatorsTable (registry : Registry Empty) : Table where
  header := ["Operator", "Operand", "Arity", "Right-handed"]
  rows := registry.operators.map fun op =>
    [op.name, op.kind.name, arityText op, if op.rightHanded then "yes" else ""]

/-- Lists the operators. -/
def operators (a : Arguments) (config : Config) (registry : Registry Empty) : String :=
  match a.format with
  | .text => (operatorsTable registry).text ++ "\n"
  | .json =>
    (Json.array (registry.operators.map fun op => op.spec.toJson)).render config.pretty ++ "\n"

/-- Carries out what the arguments ask for. The result is the text for standard output. -/
def perform (source : Source m) (a : Arguments) : Run m String := do
  let config ← ofExcept .config (← source.config a.config)
  describe a config
  let registry ← ofExcept .definition config.registry
  match a.task with
  | .search query files countOnly options =>
    search source a config registry query files countOnly options
  | .check query => check a config registry query
  | .operators => return operators a config registry

end Run

namespace RunError

/-- Whether the failure comes before the choice of colours takes effect. -/
def isEarly : RunError → Bool
  | config _ => true
  | _ => false

/-- The last line of diagnostics of a run that fails. -/
def line (e : RunError) (a : Arguments) : String :=
  Hue.red.paint (a.isColored && !e.isEarly) "error:" ++ " " ++ e.message ++ "\n"

end RunError

namespace CommandLine

/-- The name of the program with its version. -/
def versionText : String :=
  "json-filter 0.1.0\n"

/-- How the program is used. -/
def usageText : String :=
  "Usage: json-filter [OPTIONS] <COMMAND>\n\n" ++
  "Commands:\n" ++
  "  match      Print the documents matching a filter\n" ++
  "  check      Compile a filter and print its tree\n" ++
  "  operators  List the available operators\n" ++
  "  help       Print this text\n\n" ++
  "Options:\n" ++
  "  -c, --config <CONFIG>  TOML config with saved filters, operator aliases " ++
  "and output defaults\n" ++
  "  -F, --format <FORMAT>  Output format: text or json\n" ++
  "      --color <COLOR>    When to use colors: auto, always or never\n" ++
  "  -v, --verbose          Print diagnostics to stderr (repeat for more)\n" ++
  "  -q, --quiet            Suppress diagnostics\n" ++
  "  -h, --help             Print this text\n" ++
  "  -V, --version          Print the version\n\n" ++
  "Options of match and check:\n" ++
  "  -n, --name <NAME>      Use a filter saved in the config instead of a query\n\n" ++
  "Options of match:\n" ++
  "  -f, --file <FILES>...  Document files; stdin when omitted\n" ++
  "      --count            Print only the number of matches\n" ++
  "      --invert           Print documents that do not match\n" ++
  "      --skip-errors      Report match errors and keep going\n"

/-- What is left behind when the arguments are not followed. -/
def outcomeOfStop : Stop → Outcome
  | .misuse => ⟨2, "", usageText⟩
  | .help => ⟨0, usageText, ""⟩
  | .version => ⟨0, versionText, ""⟩

/-- Runs the program with these arguments and this setting of the environment for the path of the
configuration. -/
def run {m : Type → Type} [Monad m] (source : Source m) (environment : Option String)
    (arguments : List String) : m Outcome := do
  match Arguments.read environment arguments with
  | .error stop => return outcomeOfStop stop
  | .ok a =>
    match ← (Run.perform source a).run.run "" with
    | (.ok output, diagnostics) => return ⟨0, output, diagnostics⟩
    | (.error e, diagnostics) => return ⟨1, "", diagnostics ++ e.line a⟩

end CommandLine

end DocFilter
