/-!
# Sources of text

Where the bytes of files and of standard input come from is left open: a `Source` says how they
are read, so that what is done with them can be followed with any kind of files.
-/

namespace DocFilter

/-- Why a file cannot be read. -/
inductive ReadError where
  /-- What the operating system says, with the number of the error. -/
  | system (text : String) (code : Nat)
  | notUtf8
  /-- A path with a character that ends paths. -/
  | nulInPath
  deriving DecidableEq, Repr, Inhabited

/-- The wording of the error. -/
def ReadError.message : ReadError → String
  | system text code => text ++ " (os error " ++ toString code ++ ")"
  | notUtf8 => "stream did not contain valid UTF-8"
  | nulInPath => "file name contained an unexpected NUL byte"

/-- Where bytes come from: files by their paths, and standard input. -/
structure Source (m : Type → Type) where
  file : String → m (Except ReadError ByteArray)
  standardInput : m (Except ReadError ByteArray)

namespace Source

/-- The text that bytes encode in UTF-8. -/
def decode (bytes : ByteArray) : Except ReadError String :=
  match String.fromUTF8? bytes with
  | some text => .ok text
  | none => .error .notUtf8

variable {m : Type → Type} [Monad m]

/-- The text of a file. -/
def fileText (s : Source m) (path : String) : m (Except ReadError String) := do
  if path.contains '\x00' then return .error .nulInPath
  return (← s.file path).bind decode

/-- The text of standard input. -/
def inputText (s : Source m) : m (Except ReadError String) := do
  return (← s.standardInput).bind decode

end Source

end DocFilter
