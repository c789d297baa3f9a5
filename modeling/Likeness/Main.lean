import Likeness.CommandLine

/-!
# The program

Reads the files that a command line names and prints what the run comes to.
-/

namespace Likeness

/-- The paths that a command may read. -/
def Invocation.paths (invocation : Invocation) : List String :=
  let sources :=
    match invocation.command with
    | .compare left right => [left, right]
    | .show path => [path]
    | .tokens path => [path]
  let settings := Invocation.localSettings :: invocation.settingsFile.toList
  sources ++ settings ++ settings.filterMap (Directory.withEnding settingsEnding)

/-- Read a file of the working directory. -/
def readPath (path : String) : IO (Except FileFault ByteArray) :=
  try
    return .ok (← IO.FS.readBinFile path)
  catch error =>
    match error with
    | .inappropriateType _ code _ =>
      return .error (if code = 21 then .isADirectory else .notADirectory)
    | .invalidArgument .. => return .error .nameTooLong
    | _ => return .error .notFound

/-- The files that a command line may read, as a directory. -/
def readDirectory (arguments : List String) : IO Directory := do
  match CommandLine.read arguments with
  | .error _ => return fun _ => .error .notFound
  | .ok invocation =>
    let files ← invocation.paths.mapM fun path => return (path, ← readPath path)
    return fun path => (files.lookup path).getD (.error .notFound)

end Likeness

/-- Run the program; it ends with 1 when the run fails and with 2 when it was called wrongly. -/
def main (arguments : List String) : IO UInt32 := do
  let directory ← Likeness.readDirectory arguments
  match Likeness.CommandLine.run directory arguments with
  | .success output =>
    IO.print output
    return 0
  | .help => return 0
  | .failure error =>
    IO.eprintln ("Error: " ++ error.message)
    return 1
  | .usage => return 2
