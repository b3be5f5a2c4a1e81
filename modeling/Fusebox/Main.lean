import Fusebox.Host.Service

/-! The program itself. It reads its arguments, its configuration and the wish for a
log filter, writes what the library tells it to, and shuts down when its standard
input ends. Sockets are left to whoever embeds the library. -/
namespace Fusebox

/-- The system's clocks at this moment. The wall clock is not asked for, as nothing
that is written depends on it. -/
def systemReading : IO Reading := do
  let elapsed ← IO.monoNanosNow
  return ⟨Instant.ofNanos? elapsed, some .reference⟩

/-- A failure to read a file. -/
def ioErrorOf : IO.Error → IoError
  | .noFileOrDirectory .. => .notFound
  | .inappropriateType .. => .isADirectory
  | .invalidArgument _ 36 _ => .nameTooLong
  | _ => .notADirectory

/-- Reads a file; a failure is part of the answer. -/
def readFile (path : String) : IO (Except IoError ByteArray) := do
  try return .ok (← IO.FS.readBinFile path)
  catch error => return .error (ioErrorOf error)

/-- The file that the arguments name, with its contents. -/
def namedFile (arguments : List String) : IO (Option (Except IoError ByteArray)) :=
  match CommandLine.parse arguments with
  | .run (some path) => some <$> readFile path
  | _ => return none

/-- Writes out how the program ends. -/
def report (exit : Exit) : IO UInt32 := do
  let output ← IO.getStdout
  exit.output.forM output.putStrLn
  output.flush
  exit.error.forM IO.eprintln
  exit.crash.forM fun cause => IO.eprintln cause.message
  return exit.code.toUInt32

end Fusebox

open Fusebox in
/-- Runs the service until its standard input ends. -/
def main (arguments : List String) : IO UInt32 := do
  let file ← namedFile arguments
  let read (_ : String) : Except IoError ByteArray := file.getD (.error .notFound)
  let requested ← IO.getEnv "RUST_LOG"
  match Launch.start arguments read requested (← systemReading) with
  | .ended exit => report exit
  | .running program =>
    let output ← IO.getStdout
    program.written.forM output.putStrLn
    output.flush
    let _ ← (← IO.getStdin).readToEnd
    report (program.shutDown (← systemReading))
