import RuleLexer.CommandLine

/-!
# The program

Reads the files that the command line names and prints what `CommandLine.run` answers.
-/

open RuleLexer

/-- The bytes of a file. -/
def readFileBytes (path : String) : IO (Except CommandLine.ReadFault (List UInt8)) := do
  try
    let bytes ← IO.FS.readBinFile path
    return .ok bytes.toList
  catch
    | .noFileOrDirectory .. => return .error .notFound
    -- A directory is opened like a file, and the fault then comes without a name.
    | .inappropriateType none .. => return .error .isDirectory
    | .inappropriateType (some _) .. => return .error .notDirectory
    | .permissionDenied .. => return .error .denied
    | e => return .error (.other (toString e))

/-- The program: answers the exit status. -/
def main (args : List String) : IO UInt32 := do
  let contents ← args.mapM fun path => do return (path, ← readFileBytes path)
  let files : CommandLine.Files := fun path => (contents.lookup path).getD (.error .notFound)
  let program := (← IO.appPath).fileName.getD "rulelexer"
  let outcome := CommandLine.run program args files
  IO.print outcome.stdout
  IO.eprint outcome.stderr
  return outcome.status
