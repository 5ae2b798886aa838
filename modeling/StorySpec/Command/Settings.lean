import StorySpec.Pipeline

/-!
# Settings

The settings of a run have defaults, which the environment replaces and the command line overrides.

## Main definitions

* `LogLevel`, `LogLevel.ofText v`: the levels of logging, and their reading.
* `wordCount? v`: a positive number that fits into 64 bits.
* `Settings`: the settings of a run.
* `Settings.ofEnvironment lookup`: the settings that the variables of the environment give.
* `Overrides`, `Settings.override s o`: what the command line replaces.
-/

namespace StorySpec

/-- How much is logged. -/
inductive LogLevel where
  | trace
  | debug
  | info
  | warn
  | error
  deriving DecidableEq, Repr

/-- The name of a level. -/
def LogLevel.name : LogLevel → Text
  | .trace => "trace".toList
  | .debug => "debug".toList
  | .info => "info".toList
  | .warn => "warn".toList
  | .error => "error".toList

/-- A setting that cannot be used. -/
inductive SettingsError where
  /-- The value names no level of logging. -/
  | unknownLogLevel (value : Text)
  /-- The variable for the language names no supported language. -/
  | unsupportedLanguage (e : UnsupportedLanguage)
  /-- The value is no positive number. -/
  | invalidWordCount (value : Text)
  /-- The variable for the output directory is blank. -/
  | emptyOutputDirectory
  deriving DecidableEq, Repr

/-! ## Variables -/

/-- The variable that holds the level of logging. -/
def logLevelVariable : Text := "STORY_BDD_LOG_LEVEL".toList

/-- The variable that holds the default language. -/
def languageVariable : Text := "STORY_BDD_LANG".toList

/-- The variable that holds the length of file names. -/
def fileNameWordsVariable : Text := "STORY_BDD_FILE_NAME_WORDS".toList

/-- The variable that holds the output directory. -/
def outputDirectoryVariable : Text := "STORY_BDD_OUTPUT_DIR".toList

/-- The wording of the error. -/
def SettingsError.message (e : SettingsError) : Text :=
  "invalid configuration: ".toList ++
    match e with
    | .unknownLogLevel value =>
      "unknown log level '".toList ++ value ++
        "', expected one of: trace, debug, info, warn, error".toList
    | .unsupportedLanguage e => languageVariable ++ ": ".toList ++ e.message
    | .invalidWordCount value =>
      "invalid file name word count '".toList ++ value ++
        "', expected a positive integer".toList
    | .emptyOutputDirectory => outputDirectoryVariable ++ " must not be empty".toList

/-! ## Values -/

/-- The names of the levels; one of them has two. -/
def logLevelNames : List (Text × LogLevel) :=
  [ ("trace".toList, .trace), ("debug".toList, .debug), ("info".toList, .info),
    ("warn".toList, .warn), ("warning".toList, .warn), ("error".toList, .error) ]

/-- The level with the given name, blanks around the name and case aside. -/
def LogLevel.ofText (value : Text) : Except SettingsError LogLevel :=
  match logLevelNames.lookup (Text.lower (Text.trim value)) with
  | some level => .ok level
  | none => .error (.unknownLogLevel value)

/-- The value of decimal digits. -/
def digitsValue (digits : Text) : Nat :=
  digits.foldl (fun n c => 10 * n + (c.toNat - '0'.toNat)) 0

/-- A positive number in ASCII digits that fits into 64 bits.  A plus sign may stand before it and
blanks around it. -/
def wordCount? (value : Text) : Option Nat :=
  let digits := Text.dropLeading '+' (Text.trim value)
  if digits ≠ [] ∧ digits.all isAsciiDigit ∧ 0 < digitsValue digits ∧
      digitsValue digits < UInt64.size then
    some (digitsValue digits)
  else none

/-- The length of file names that a value gives. -/
def wordCount (value : Text) : Except SettingsError Nat :=
  match wordCount? value with
  | some n => .ok n
  | none => .error (.invalidWordCount value)

/-- The default language that the variable for it gives. -/
def languageSetting (value : Text) : Except SettingsError Language :=
  match Language.ofCode value with
  | .ok l => .ok l
  | .error e => .error (.unsupportedLanguage e)

/-- The output directory that the variable for it gives. -/
def outputDirectorySetting (value : Text) : Except SettingsError Text :=
  if Text.trim value = [] then .error .emptyOutputDirectory else .ok value

/-! ## Settings -/

/-- The settings of a run. -/
structure Settings where
  logLevel : LogLevel := .info
  /-- The language of stories without a directive. -/
  defaultLanguage : Language := .portuguese
  /-- How many words the name of a document has at most. -/
  fileNameWords : Nat := defaultFileNameWords
  /-- The directory that documents and step files are written to. -/
  outputDirectory : Text := "features".toList
  deriving DecidableEq, Repr

/-- What the command line says about the settings. -/
structure Overrides where
  logLevel : Option LogLevel := none
  /-- The language of stories without a directive. -/
  defaultLanguage : Option Language := none
  /-- How many words the name of a document has at most. -/
  fileNameWords : Option Nat := none
  /-- The directory that documents and step files are written to. -/
  outputDirectory : Option Text := none
  deriving DecidableEq, Repr

/-- The value of a variable as `read` understands it, or a default when it is not set. -/
def settingOr {α : Type} (read : Text → Except SettingsError α) (default : α) :
    Option Text → Except SettingsError α
  | some value => read value
  | none => .ok default

namespace Settings

/-- The settings that the variables of the environment give.  The variables are looked at in a
fixed order, and the first that cannot be used decides. -/
def ofEnvironment (lookup : Text → Option Text) : Except SettingsError Settings := do
  let defaults : Settings := {}
  let logLevel ← settingOr LogLevel.ofText defaults.logLevel (lookup logLevelVariable)
  let defaultLanguage ← settingOr languageSetting defaults.defaultLanguage (lookup languageVariable)
  let fileNameWords ← settingOr wordCount defaults.fileNameWords (lookup fileNameWordsVariable)
  let outputDirectory ←
    settingOr outputDirectorySetting defaults.outputDirectory (lookup outputDirectoryVariable)
  return { logLevel, defaultLanguage, fileNameWords, outputDirectory }

/-- The settings with what the command line says. -/
def override (s : Settings) (o : Overrides) : Settings where
  logLevel := o.logLevel.getD s.logLevel
  defaultLanguage := o.defaultLanguage.getD s.defaultLanguage
  fileNameWords := o.fileNameWords.getD s.fileNameWords
  outputDirectory := o.outputDirectory.getD s.outputDirectory

/-- The settings for the making of documents. -/
def pipeline (s : Settings) : PipelineSettings where
  defaultLanguage := s.defaultLanguage
  fileNameWords := s.fileNameWords

end Settings

/-- The overrides `o`, and where they say nothing those of `before`. -/
def Overrides.orElse (o before : Overrides) : Overrides where
  logLevel := o.logLevel <|> before.logLevel
  defaultLanguage := o.defaultLanguage <|> before.defaultLanguage
  fileNameWords := o.fileNameWords <|> before.fileNameWords
  outputDirectory := o.outputDirectory <|> before.outputDirectory

end StorySpec
