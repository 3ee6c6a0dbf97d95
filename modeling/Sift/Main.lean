/-
# The program

Reads the file or the standard input that the command line names, runs the command and writes its
output, or a report on what went wrong.

Key definition: `main`.
-/
import Sift.Command.Run
import Std.Time.DateTime.Timestamp

namespace Sift

/-- The bytes of a stream up to its end. -/
partial def readAll (stream : IO.FS.Stream) (bytes : ByteArray) : IO ByteArray := do
  let more ← stream.read 65536
  if more.isEmpty then return bytes else readAll stream (bytes ++ more)

/-- The content of a file. -/
def readFile (file : String) : IO FileContent := do
  try
    return .bytes (← IO.FS.readBinFile file).toList
  catch
    | .noFileOrDirectory .. => return .unopened "No such file or directory (os error 2)"
    | .permissionDenied .. => return .unopened "Permission denied (os error 13)"
    | .inappropriateType .. => return .unread "Is a directory (os error 21)"
    | error => return .unopened (toString error)

/-- What a command reads. -/
def readInput (command : Command) : IO FileContent := do
  if !command.readsRecords then return .bytes []
  match command.inputFile? with
  | some file => readFile file
  | none => return .bytes (← readAll (← IO.getStdin) ByteArray.empty).toList

/-- The current time. -/
def readClock : IO Instant := do
  let nanos := (← Std.Time.Timestamp.now).toNanosecondsSinceUnixEpoch.val
  return ⟨nanos / 1000000000, (nanos % 1000000000).toNat⟩

end Sift

open Sift in
/-- Runs the command of a command line. Refused arguments end with the exit code 2, other failures
with 1. -/
def main (arguments : List String) : IO UInt32 := do
  match Command.ofArguments arguments with
  | .error error =>
    IO.eprintln ("error: " ++ error.message)
    return 2
  | .ok command =>
    match command.run (← readClock) (← readInput command) with
    | .ok output =>
      IO.print (String.ofList output)
      return 0
    | .error failure =>
      IO.eprintln (String.ofList failure.report)
      return 1
