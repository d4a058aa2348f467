import Recorder.Command.Run

/-!
# The program

Reads what a command needs, runs it, and writes what it has to say.
-/

namespace Recorder.Command

/-- The number of an error of the system, which may come as its negative in 32 bits. -/
def errorNumber (code : UInt32) : Nat :=
  min code.toNat (4294967296 - code.toNat)

/-- The words for an error of the system, where `details` says what is not said here. -/
def systemError (code : UInt32) (details : String) : String :=
  let words :=
    match errorNumber code with
    | 2 => "No such file or directory"
    | 13 => "Permission denied"
    | 20 => "Not a directory"
    | 21 => "Is a directory"
    | 36 => "File name too long"
    | _ => details
  words ++ " (os error " ++ toString (errorNumber code) ++ ")"

/-- The words for the failure of a read. -/
def reasonOf : IO.Error → String
  | .noFileOrDirectory _ code details => systemError code details
  | .permissionDenied _ code details => systemError code details
  | .inappropriateType _ code details => systemError code details
  | .invalidArgument _ code details => systemError code details
  | .resourceExhausted _ code details => systemError code details
  | e => toString e

/-- The bytes of a source as text. -/
def textOf (bytes : ByteArray) : Except String String :=
  match String.fromUTF8? bytes with
  | some text => .ok text
  | none => .error "stream did not contain valid UTF-8"

/-- The bytes of a source. -/
def readBytes : Source → IO ByteArray
  | .input => do (← IO.getStdin).readBinToEnd
  | .file path => IO.FS.readBinFile path

/-- The text of a source, or the reason why it cannot be read. -/
def readSource (source : Source) : IO (Except String String) := do
  try return textOf (← readBytes source)
  catch e => return .error (reasonOf e)

end Recorder.Command

open Recorder.Command in
/-- Runs the program on its arguments. -/
def main (args : List String) : IO UInt32 := do
  let texts ← (sources args).mapM fun source => do return (source, ← readSource source)
  let outcome := run (fun source => (texts.lookup source).getD (.error "not read")) args
  (← IO.getStdout).putStr outcome.report.output
  (← IO.getStderr).putStr outcome.report.messages
  return outcome.status.toUInt32
