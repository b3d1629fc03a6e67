import DocFilter.CommandLine.Run

/-!
# The program

Connects runs of the command line to the files, the streams and the environment of the system.
-/

namespace DocFilter

/-- The cause of an error of the system. -/
def ReadError.ofSystem : IO.Error → ReadError
  | .noFileOrDirectory _ code details => .system details code.toNat
  | .alreadyExists _ code details => .system details code.toNat
  | .permissionDenied _ code details => .system details code.toNat
  | .invalidArgument _ code details => .system details code.toNat
  | .resourceExhausted _ code details => .system details code.toNat
  | .inappropriateType _ code details => .system details code.toNat
  | .noSuchThing _ code details => .system details code.toNat
  | .interrupted _ code details => .system details code.toNat
  | .otherError code details => .system details code.toNat
  | .resourceBusy code details => .system details code.toNat
  | .resourceVanished code details => .system details code.toNat
  | .unsupportedOperation code details => .system details code.toNat
  | .hardwareFault code details => .system details code.toNat
  | .unsatisfiedConstraints code details => .system details code.toNat
  | .illegalOperation code details => .system details code.toNat
  | .protocolError code details => .system details code.toNat
  | .timeExpired code details => .system details code.toNat
  | .unexpectedEof => .system "unexpected end of file" 0
  | .userError text => .system text 0

/-- The bytes that an action reads, or the cause of its error. -/
def readSystem (read : IO ByteArray) : IO (Except ReadError ByteArray) := do
  try return .ok (← read)
  catch e => return .error (.ofSystem e)

/-- Reads a stream to its end. -/
partial def readToEnd (stream : IO.FS.Stream) (bytes : ByteArray) : IO ByteArray := do
  let more ← stream.read 65536
  if more.isEmpty then return bytes else readToEnd stream (bytes ++ more)

/-- The files of the system and its standard input. -/
def Source.system : Source IO where
  file path := readSystem (IO.FS.readBinFile path)
  standardInput := readSystem do readToEnd (← IO.getStdin) .empty

end DocFilter

open DocFilter in
/-- Runs the program. -/
def main (arguments : List String) : IO UInt32 := do
  let environment ← IO.getEnv "JSON_FILTER_CONFIG"
  let outcome ← CommandLine.run Source.system environment arguments
  IO.eprint outcome.diagnostics
  IO.print outcome.output
  return outcome.exitCode.toUInt32
