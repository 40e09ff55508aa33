import Typewright.CommandLine

/-!
# The program

Reads the files that are named on the command line and prints the outcome of the call.
-/

open Typewright

/-- What reading a file gives. A refusal that is none of the library's ends the program. -/
def readDocument (path : String) : IO (Except FileError String) := do
  try
    let bytes ← IO.FS.readBinFile path
    match String.fromUTF8? bytes with
    | some text => return .ok text
    | none => return .error .invalidText
  catch
    | .noFileOrDirectory .. => return .error .notFound
    -- A directory is opened before it turns out that it cannot be read, and then no path is reported.
    | .inappropriateType none .. => return .error .isDirectory
    | .inappropriateType .. => return .error .notDirectory
    | .invalidArgument .. => return .error (if path.contains '\x00' then .nullInPath else .nameTooLong)
    | e => throw e

def main (args : List String) : IO UInt32 := do
  let outcome := CommandLine.run (← args.mapM readDocument)
  (← IO.getStderr).putStr outcome.remarks
  (← IO.getStdout).putStr outcome.output
  return UInt32.ofNat outcome.exit
