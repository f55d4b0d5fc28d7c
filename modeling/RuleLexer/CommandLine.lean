import RuleLexer.LetPass
import RuleLexer.Regex.Reader
import RuleLexer.Report
import RuleLexer.Specification.Reader

/-!
# The command line

`CommandLine.run` is the whole program as a function: from the arguments and the contents of files to
what is printed and the exit status.
-/

namespace RuleLexer.CommandLine

/-- Why a file cannot be read. -/
inductive ReadFault where
  | notFound
  | isDirectory
  /-- The path goes through a file. -/
  | notDirectory
  | denied
  | notText
  /-- Any other reason, in words. -/
  | other (reason : String)
deriving DecidableEq, Repr

/-- The reason in words. -/
def ReadFault.message : ReadFault → String
  | notFound => "No such file or directory (os error 2)"
  | isDirectory => "Is a directory (os error 21)"
  | notDirectory => "Not a directory (os error 20)"
  | denied => "Permission denied (os error 13)"
  | notText => "stream did not contain valid UTF-8"
  | other reason => reason

/-- The bytes of the file at a path, or why there are none. -/
abbrev Files := String → Except ReadFault (List UInt8)

/-- What a run of the program leaves behind. -/
structure Outcome where
  status : UInt32
  stdout : String := ""
  stderr : String := ""
deriving DecidableEq, Repr

/-- The outcome of a run that fails with a message. -/
def failed (message : String) : Outcome :=
  { status := 1, stderr := message }

/-- The text of a file. -/
def readText (files : Files) (path : String) : Except Outcome String :=
  let fault (f : ReadFault) := failed ("Failed to read " ++ path ++ ": " ++ f.message ++ "\n")
  match files path with
  | .error f => .error (fault f)
  | .ok bytes =>
    match Text.decode bytes with
    | .error _ => .error (fault .notText)
    | .ok text => .ok (String.ofList text)

/-- The last part of a path. -/
def fileName (path : String) : String :=
  String.ofList (path.toList.reverse.takeWhile (· != '/')).reverse

/-- The tokens of the text `input` under the specification in the text `spec` with the given name,
or the report of what is wrong with either. -/
def tokens [Regex.Engine] (spec file input : String) : Except String (List Token) :=
  match Specification.read spec file with
  | .error e => .error (e.report spec)
  | .ok s =>
    match s.scanner {} with
    | .error e => .error (e.report spec)
    | .ok m =>
      match m.tokenize input with
      | .error e => .error (e.report input)
      | .ok ts => .ok ts

/-- Runs the program, called by the given name, on its arguments: a specification and a text. -/
def run [Regex.Engine] (program : String) (args : List String) (files : Files) : Outcome :=
  match args with
  | [specPath, inputPath] =>
    match readText files specPath with
    | .error outcome => outcome
    | .ok spec =>
      match readText files inputPath with
      | .error outcome => outcome
      | .ok input =>
        match tokens spec (fileName specPath) input with
        | .error report => failed report
        | .ok ts => { status := 0, stdout := String.join (ts.map fun t => t.describe ++ "\n") }
  | _ => { status := 2, stderr := "Usage: " ++ program ++ " <spec-file> <input-file>\n" }

end RuleLexer.CommandLine
