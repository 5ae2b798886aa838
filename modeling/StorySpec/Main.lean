import StorySpec.Command.Run

/-!
# The command line

The program as it runs on a machine: the workspace is its file system, the variables are those of
its environment, and notices go to the standard output.

## Main definitions

* `main args`: runs a command line and gives its exit code.
-/

namespace StorySpec

/-- The error of a file operation.  The system numbers its errors, with either sign. -/
def FileError.ofSystem (e : IO.Error) : FileError :=
  match e with
  | .noFileOrDirectory .. => .notFound
  | .alreadyExists .. => .alreadyExists
  | .inappropriateType _ code _ =>
    if code = 21 ∨ code = 0 - 21 then .isDirectory else .notDirectory
  | .invalidArgument _ code _ =>
    if code = 36 ∨ code = 0 - 36 then .nameTooLong
    else if code = 22 ∨ code = 0 - 22 then .nullInPath
    else .other e.toString.toList
  | e => .other e.toString.toList

/-- An action on files, with its error as a value. -/
def onFiles {α : Type} (action : IO α) : IO (Except FileError α) := do
  match ← action.toBaseIO with
  | .ok a => return .ok a
  | .error e => return .error (.ofSystem e)

instance : Workspace IO where
  readText path := do
    match ← onFiles (IO.FS.readBinFile (String.ofList path)) with
    | .error e => return .error e
    | .ok bytes =>
      match Content.ofBytes bytes with
      | .text t => return .ok t
      | .bytes _ => return .error .notText
  openOutput root :=
    onFiles do
      IO.FS.createDirAll (String.ofList root)
      let directory ← IO.FS.realPath (String.ofList root)
      IO.FS.createDirAll (directory / String.ofList stepsDirectory)
  writeOutput root path t :=
    onFiles do
      let directory ← IO.FS.realPath (String.ofList root)
      IO.FS.writeFile (directory / String.ofList path) (String.ofList t)
  announce n := do
    (← IO.getStdout).putStr (String.ofList n.text)

/-- The forms of a command line. -/
def usage : List Text :=
  [ "Turn annotated user stories into Gherkin features and step stubs.".toList,
    [],
    "Usage: story-bdd [OPTIONS] generate [--dry-run] FILES...".toList,
    "       story-bdd [OPTIONS] check [--json] FILES...".toList,
    "       story-bdd [OPTIONS] steps FILE".toList,
    [],
    "Options: --log-level LEVEL, --lang CODE, --file-name-words NUMBER, --output DIRECTORY".toList ]

/-- The name and the version of the program. -/
def versionLine : Text :=
  "story-bdd 0.3.0".toList

/-- Says why a command line is not run, or gives the help that it asks for. -/
def showRefusal : Refusal → IO Unit
  | .help => IO.print (String.ofList (Text.unlines usage))
  | .version => IO.println (String.ofList versionLine)
  | _ => IO.eprint (String.ofList (Text.unlines usage))

end StorySpec

open StorySpec in
/-- Runs a command line and gives its exit code. -/
def main (args : List String) : IO UInt32 := do
  let environment ←
    [logLevelVariable, languageVariable, fileNameWordsVariable, outputDirectoryVariable].mapM
      fun name => return (name, ← IO.getEnv (String.ofList name))
  let lookup (name : Text) : Option Text := (environment.lookup name).join.map String.toList
  let ending : Ending ← run (args.map String.toList) lookup
  match ending with
  | .refused r => showRefusal r
  | ending =>
    for message in ending.messages do
      IO.eprintln (String.ofList message)
  return ending.exitCode.toUInt32
