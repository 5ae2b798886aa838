import StorySpec.Command.Arguments
import StorySpec.Command.Workspace
import StorySpec.Feature.OfDocument
import StorySpec.Stub.File

/-!
# Running commands

Stories become documents and step files in the output directory, story files are checked, and the
stubs for a document are shown.  A command ends with the first file that cannot be read or written;
what it has done before stays done.

## Main definitions

* `Failure`: why a command has ended early.
* `generateAll`, `checkAll`, `showSteps`: the commands.
* `run args lookup`: a whole run, from its arguments and its environment.
-/

namespace StorySpec

/-- The path of a document below the output directory. -/
def featurePath (name : Text) : Text :=
  name ++ ".feature".toList

/-- The path of a step file below the output directory. -/
def stepsPath (name : Text) : Text :=
  Path.append stepsDirectory (name ++ "_steps.rb".toList)

/-- Why a command has ended early. -/
inductive Failure where
  /-- A file cannot be read. -/
  | unreadable (file : Text) (e : FileError)
  /-- The output directory cannot be made. -/
  | unopened (root : Text) (e : FileError)
  /-- The document for a story cannot be written. -/
  | featureUnwritten (file : Text) (e : FileError)
  /-- The step file for a story cannot be written. -/
  | stepsUnwritten (file : Text) (e : FileError)
  /-- A file holds no Gherkin document. -/
  | notGherkin (file : Text)
  deriving DecidableEq, Repr

/-- The messages for an error below the output directory. -/
def outputMessages (e : FileError) : List Text :=
  ["I/O error: ".toList ++ e.message, e.message]

/-- The messages for a failure, from the outermost to its cause. -/
def Failure.messages : Failure → List Text
  | .unreadable file e => ["failed to read ".toList ++ file, e.message]
  | .unopened root e => ("failed to open ".toList ++ root) :: outputMessages e
  | .featureUnwritten file e => ("failed to write feature for ".toList ++ file) :: outputMessages e
  | .stepsUnwritten file e => ("failed to write steps for ".toList ++ file) :: outputMessages e
  | .notGherkin file =>
    ["failed to read steps from ".toList ++ file, "failed to parse feature file".toList]

/-- How a command has ended when nothing failed. -/
inductive Status where
  | success
  | invalid
  deriving DecidableEq, Repr

section Commands

variable {m : Type → Type} [Monad m] [Workspace m]

/-- An action whose error is a failure of the command. -/
def orFail {α : Type} (failure : FileError → Failure) (action : m (Except FileError α)) :
    ExceptT Failure m α := do
  match ← action with
  | .ok a => return a
  | .error e => throw (failure e)

/-- The text of a file on the command line. -/
def readInput (file : Text) : ExceptT Failure m Text :=
  orFail (.unreadable file) (Workspace.readText file)

/-- Prints a notice. -/
def announce (n : Notice) : ExceptT Failure m Unit :=
  liftM (Workspace.announce n : m Unit)

/-- Writes a text below the output directory and says so; on a dry run, shows it instead. -/
def produce (settings : Settings) (dryRun : Bool) (failure : FileError → Failure)
    (path t : Text) : ExceptT Failure m Unit := do
  if dryRun then announce (.document path t)
  else
    orFail failure (Workspace.writeOutput settings.outputDirectory path t)
    announce (.created (Path.append settings.outputDirectory path))

/-- Makes the document and the step file for the story in one file. -/
def generateFile (settings : Settings) (dryRun : Bool) (summary : Summary) (file : Text) :
    ExceptT Failure m Summary := do
  let t ← readInput file
  let summary := { summary with stories := summary.stories + 1 }
  match Outcome.ofText settings.pipeline t with
  | .rejected report =>
    announce (.skipped file report.messages)
    return { summary with skipped := summary.skipped + 1 }
  | .generated _ feature steps =>
    produce settings dryRun (.featureUnwritten file) (featurePath feature.fileName) feature.text
    let summary := { summary with features := summary.features + 1 }
    match steps with
    | .noSteps =>
      announce (.noSteps file)
      return summary
    | .stubs stepFile =>
      produce settings dryRun (.stepsUnwritten file) (stepsPath stepFile.featureName)
        stepFile.render
      return { summary with stepFiles := summary.stepFiles + 1 }

/-- Makes the documents and the step files for the stories in some files. -/
def generateAll (settings : Settings) (dryRun : Bool) (files : List Text) :
    ExceptT Failure m Status := do
  unless dryRun do
    orFail (.unopened settings.outputDirectory) (Workspace.openOutput settings.outputDirectory)
  let summary ← files.foldlM (generateFile settings dryRun) {}
  announce (.summary summary)
  return .success

/-- The report on the story in a file. -/
def checkFile (settings : Settings) (file : Text) : ExceptT Failure m CheckReport := do
  let t ← readInput file
  return .ofReport file (Story.ofText settings.defaultLanguage t).validate

/-- Checks the stories in some files. -/
def checkAll (settings : Settings) (json : Bool) (files : List Text) :
    ExceptT Failure m Status := do
  let reports ← files.mapM (checkFile settings)
  announce (.reports reports json)
  return if reports.all CheckReport.valid then .success else .invalid

/-- Shows the stubs for the document in a file. -/
def showSteps (file : Text) : ExceptT Failure m Status := do
  let t ← readInput file
  match Feature.read? (Path.stem (Path.fileName file)) t with
  | none => throw (.notGherkin file)
  | some feature =>
    match Synthesis.ofFeature feature with
    | .stubs stepFile => announce (.plain stepFile.render)
    | .noSteps => announce (.noSteps file)
    return .success

/-- Runs a command. -/
def Command.run (settings : Settings) : Command → ExceptT Failure m Status
  | .generate files dryRun => generateAll settings dryRun files
  | .check files json => checkAll settings json files
  | .steps file => showSteps file

/-- How a run has ended. -/
inductive Ending where
  /-- The command line is not run. -/
  | refused (r : Refusal)
  /-- The environment cannot be used. -/
  | misconfigured (e : SettingsError)
  /-- The command has ended early. -/
  | failed (f : Failure)
  /-- The command has come to its end. -/
  | finished (s : Status)
  deriving DecidableEq, Repr

/-- The exit code of a run. -/
def Ending.exitCode : Ending → Nat
  | .refused .help => 0
  | .refused .version => 0
  | .refused _ => 2
  | .misconfigured _ => 2
  | .failed _ => 1
  | .finished .invalid => 1
  | .finished .success => 0

/-- The messages about what went wrong in a run, once its command line was accepted. -/
def Ending.messages : Ending → List Text
  | .misconfigured e => [e.message]
  | .failed f => f.messages
  | .refused _ => []
  | .finished _ => []

/-- A whole run: the command line is read, then the environment, and then the command is run. -/
def run (args : List Text) (lookup : Text → Option Text) : m Ending := do
  match Invocation.ofArguments args with
  | .error r => return .refused r
  | .ok invocation =>
    match Settings.ofEnvironment lookup with
    | .error e => return .misconfigured e
    | .ok settings =>
      match ← (invocation.command.run (settings.override invocation.overrides)).run with
      | .error f => return .failed f
      | .ok s => return .finished s

end Commands

end StorySpec
