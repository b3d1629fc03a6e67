import DocFilter.Search

/-!
# Command-line arguments

The arguments name a command and its options. Some options may stand before the command as well
as after it; what is given after it wins. A `Grammar` says which options and commands can stand at
one place, `Grammar.read` collects what is given there into a `Given`, and `Arguments.read` puts
the two places together.

Options have a word, `--format json` or `--format=json`, and mostly a letter, `-F json`, `-Fjson`
or `-F=json`; letters of options without a value can be written together, `-vvq`. After `--`
everything is an operand.
-/

namespace DocFilter

/-- The form of the output. -/
inductive OutputFormat where
  | text
  | json
  deriving DecidableEq, Repr, Inhabited

/-- The format of a name. -/
def OutputFormat.ofName? : String → Option OutputFormat
  | "text" => some text
  | "json" => some json
  | _ => none

/-- When diagnostics are coloured. -/
inductive ColorMode where
  | auto
  | always
  | never
  deriving DecidableEq, Repr, Inhabited

namespace ColorMode

/-- The mode of a name. -/
def ofName? : String → Option ColorMode
  | "auto" => some auto
  | "always" => some always
  | "never" => some never
  | _ => none

/-- The mode as it stands in diagnostics. -/
def label : ColorMode → String
  | auto => "Auto"
  | always => "Always"
  | never => "Never"

end ColorMode

/-- Where the query of a command comes from. -/
inductive QuerySource where
  | text (query : String)
  /-- A filter that the configuration saves under a name. -/
  | saved (name : String)
  deriving DecidableEq, Repr, Inhabited

/-- A command with what belongs to it alone. -/
inductive Task where
  | search (query : QuerySource) (files : List String) (countOnly : Bool)
      (options : SearchOptions)
  | check (query : QuerySource)
  | operators
  deriving DecidableEq, Repr

/-- What the command line asks for. -/
structure Arguments where
  config : Option String
  format : OutputFormat
  color : ColorMode
  verbosity : Nat
  quiet : Bool
  task : Task
  deriving DecidableEq, Repr

/-- Why the arguments are not followed. -/
inductive Stop where
  /-- Arguments that do not fit the grammar. -/
  | misuse
  /-- A request for the usage text. -/
  | help
  /-- A request for the version. -/
  | version
  deriving DecidableEq, Repr, Inhabited

/-- The options. -/
inductive OptionName where
  | config
  | format
  | color
  | verbose
  | quiet
  | name
  | file
  | count
  | invert
  | skipErrors
  | help
  | version
  deriving DecidableEq, Repr, Inhabited

/-- What follows an option. -/
inductive Takes where
  | nothing
  | oneValue
  /-- One value or more. -/
  | values
  deriving DecidableEq, Repr, Inhabited

/-- How an option is written. -/
structure OptionRule where
  option : OptionName
  letter : Option Char
  word : String
  takes : Takes
  deriving DecidableEq, Repr, Inhabited

/-- The commands. -/
inductive CommandName where
  | search
  | check
  | operators
  | help
  deriving DecidableEq, Repr, Inhabited

/-- The command of a word. -/
def CommandName.ofWord? : String → Option CommandName
  | "match" => some search
  | "check" => some check
  | "operators" => some operators
  | "help" => some help
  | _ => none

/-- What can stand at one place of the command line. -/
structure Grammar where
  options : List OptionRule
  /-- Whether a command can follow. -/
  hasCommands : Bool
  /-- Whether a query can stand here. -/
  hasQuery : Bool
  deriving DecidableEq, Repr

namespace Grammar

/-- The options that can stand before and after a command. -/
def sharedOptions : List OptionRule := [
  ⟨.config, some 'c', "config", .oneValue⟩,
  ⟨.format, some 'F', "format", .oneValue⟩,
  ⟨.color, none, "color", .oneValue⟩,
  ⟨.verbose, some 'v', "verbose", .nothing⟩,
  ⟨.quiet, some 'q', "quiet", .nothing⟩,
  ⟨.help, some 'h', "help", .nothing⟩]

/-- The name of a saved filter. -/
def nameOption : OptionRule :=
  ⟨.name, some 'n', "name", .oneValue⟩

/-- What can stand before the command. -/
def outer : Grammar :=
  ⟨sharedOptions ++ [⟨.version, some 'V', "version", .nothing⟩], true, false⟩

/-- What can stand after a command. -/
def ofCommand : CommandName → Grammar
  | .search =>
    ⟨sharedOptions ++ [
      nameOption,
      ⟨.file, some 'f', "file", .values⟩,
      ⟨.count, none, "count", .nothing⟩,
      ⟨.invert, none, "invert", .nothing⟩,
      ⟨.skipErrors, none, "skip-errors", .nothing⟩], false, true⟩
  | .check => ⟨sharedOptions ++ [nameOption], false, true⟩
  | .operators => ⟨sharedOptions, false, false⟩
  | .help => ⟨[], true, false⟩

end Grammar

/-- What is given at one place of the command line. -/
structure Given where
  config : Option String
  format : Option OutputFormat
  color : Option ColorMode
  verbosity : Nat
  quiet : Bool
  name : Option String
  files : List String
  count : Bool
  invert : Bool
  skipErrors : Bool
  query : Option String
  deriving DecidableEq, Repr

namespace Given

/-- Nothing is given. -/
def nothing : Given :=
  ⟨none, none, none, 0, false, none, [], false, false, false, none⟩

/-- The greatest verbosity. -/
def verbosityLimit : Nat := 255

/-- A value that may be given once. -/
def once {α : Type} (old : Option α) (new : Option α) : Except Stop (Option α) :=
  match old, new with
  | none, some value => .ok (some value)
  | _, _ => .error .misuse

/-- A switch that may be given once. -/
def switch (old : Bool) : Except Stop Bool :=
  if old then .error .misuse else .ok true

/-- A path, which may not be empty. -/
def path? (value : String) : Option String :=
  if value.isEmpty then none else some value

/-- Adds an option with its values. Only files and verbosity may be given again. -/
def add (g : Given) (option : OptionName) (values : List String) : Except Stop Given :=
  match option, values with
  | .config, [value] => do return { g with config := ← once g.config (path? value) }
  | .format, [value] => do return { g with format := ← once g.format (OutputFormat.ofName? value) }
  | .color, [value] => do return { g with color := ← once g.color (ColorMode.ofName? value) }
  | .verbose, [] => .ok { g with verbosity := min (g.verbosity + 1) verbosityLimit }
  | .quiet, [] => do return { g with quiet := ← switch g.quiet }
  | .name, [value] => do return { g with name := ← once g.name (some value) }
  | .file, value :: values =>
    if (value :: values).all fun v => (path? v).isSome then
      .ok { g with files := g.files ++ value :: values }
    else .error .misuse
  | .count, [] => do return { g with count := ← switch g.count }
  | .invert, [] => do return { g with invert := ← switch g.invert }
  | .skipErrors, [] => do return { g with skipErrors := ← switch g.skipErrors }
  | .help, [] => .error .help
  | .version, [] => .error .version
  | _, _ => .error .misuse

/-- Whether what is given here goes together: diagnostics are either asked for or suppressed, and
a query comes from one place. -/
def isConsistent (g : Given) : Bool :=
  !(g.quiet && 0 < g.verbosity) && !(g.name.isSome && g.query.isSome)

/-- The query that is asked for, which must not be missing. -/
def querySource (g : Given) : Except Stop QuerySource :=
  match g.query, g.name with
  | some text, _ => .ok (.text text)
  | none, some name => .ok (.saved name)
  | none, none => .error .misuse

end Given

/-- An argument by its form. -/
inductive Token where
  | divider
  | word (name : String) (value : Option String)
  | letters (cs : List Char)
  | plain (text : String)
  deriving DecidableEq, Repr

/-- The form of an argument. A single hyphen is plain. -/
def Token.ofArgument (argument : String) : Token :=
  match argument.toList with
  | ['-', '-'] => .divider
  | '-' :: '-' :: cs =>
    let value := match cs.dropWhile (· != '=') with
      | [] => none
      | _ :: value => some (String.ofList value)
    .word (String.ofList (cs.takeWhile (· != '='))) value
  | '-' :: c :: cs => .letters (c :: cs)
  | _ => .plain argument

/-- An option that still takes values, with those that it has. -/
structure Pending where
  option : OptionName
  takes : Takes
  values : List String
  deriving DecidableEq, Repr

namespace Grammar

/-- Closes an option that takes values. -/
def close (given : Given) : Option Pending → Except Stop Given
  | none => .ok given
  | some p => given.add p.option p.values

/-- Takes an operand. -/
def addOperand (g : Grammar) (given : Given) (text : String) : Except Stop Given :=
  if g.hasQuery && given.query.isNone then .ok { given with query := some text }
  else .error .misuse

/-- Reads the letters of options. What follows the letter of an option that takes a value is its
value, without an equals sign in front. -/
def readLetters (g : Grammar) (given : Given) :
    List Char → Except Stop (Given × Option Pending)
  | [] => .ok (given, none)
  | c :: cs =>
    match g.options.find? fun rule => rule.letter == some c with
    | none => .error .misuse
    | some rule =>
      match rule.takes, cs with
      | .nothing, cs => do readLetters g (← given.add rule.option []) cs
      | takes, [] => .ok (given, some ⟨rule.option, takes, []⟩)
      | _, '=' :: value => do return (← given.add rule.option [String.ofList value], none)
      | _, value => do return (← given.add rule.option [String.ofList value], none)

/-- Reads the word of an option. -/
def readWord (g : Grammar) (given : Given) (word : String) (value : Option String) :
    Except Stop (Given × Option Pending) :=
  match g.options.find? fun rule => rule.word == word with
  | none => .error .misuse
  | some rule =>
    match rule.takes, value with
    | .nothing, none => do return (← given.add rule.option [], none)
    | .nothing, some _ => .error .misuse
    | _, some value => do return (← given.add rule.option [value], none)
    | takes, none => .ok (given, some ⟨rule.option, takes, []⟩)

/-- Reads arguments up to a command. The result has the command with the arguments after it. -/
def readFrom (g : Grammar) : Given → Option Pending → List String →
    Except Stop (Given × Option (CommandName × List String))
  | given, pending, [] => do return (← close given pending, none)
  | given, pending, argument :: rest =>
    match Token.ofArgument argument with
    | .divider => do
      return (← rest.foldlM g.addOperand (← close given pending), none)
    | .word word value => do
      let (given, pending) ← g.readWord (← close given pending) word value
      readFrom g given pending rest
    | .letters cs => do
      let (given, pending) ← g.readLetters (← close given pending) cs
      readFrom g given pending rest
    | .plain text =>
      match pending with
      | some ⟨option, .values, values⟩ =>
        readFrom g given (some ⟨option, .values, values ++ [text]⟩) rest
      | some ⟨option, _, _⟩ => do readFrom g (← given.add option [text]) none rest
      | none =>
        match if g.hasCommands then CommandName.ofWord? text else none with
        | some command => .ok (given, some (command, rest))
        | none => do readFrom g (← g.addOperand given text) none rest

/-- Reads arguments up to a command. -/
def read (g : Grammar) (arguments : List String) :
    Except Stop (Given × Option (CommandName × List String)) :=
  g.readFrom .nothing none arguments

end Grammar

namespace Arguments

/-- The task of a command with what is given after it. -/
def taskOf (command : CommandName) (inner : Given) : Except Stop Task :=
  match command with
  | .search => do
    return .search (← inner.querySource) inner.files inner.count ⟨inner.invert, inner.skipErrors⟩
  | .check => do return .check (← inner.querySource)
  | .operators => .ok .operators
  | .help => .error .help

/-- What is asked for before and after a command. A setting of the environment stands in at a
place where no configuration is named, and may not be empty there. -/
def combine (environment : Option String) (outer inner : Given) (task : Task) :
    Except Stop Arguments :=
  if !(outer.isConsistent && inner.isConsistent) then .error .misuse
  else if environment == some "" && (outer.config.isNone || inner.config.isNone) then
    .error .misuse
  else
    .ok {
      config := inner.config <|> outer.config <|> environment
      format := (inner.format <|> outer.format).getD .text
      color := (inner.color <|> outer.color).getD .auto
      verbosity := if inner.verbosity = 0 then outer.verbosity else inner.verbosity
      quiet := outer.quiet || inner.quiet
      task }

/-- Reads the command line. -/
def read (environment : Option String) (arguments : List String) : Except Stop Arguments := do
  match ← Grammar.outer.read arguments with
  | (_, none) => throw .misuse
  | (_, some (.help, rest)) =>
    match rest.map CommandName.ofWord? with
    | [] | [some _] => throw .help
    | _ => throw .misuse
  | (outer, some (command, rest)) =>
    let (inner, _) ← (Grammar.ofCommand command).read rest
    combine environment outer inner (← taskOf command inner)

end Arguments

end DocFilter
