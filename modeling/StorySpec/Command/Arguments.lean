import StorySpec.Command.Settings

/-!
# Command lines

A command line names a command and the files that it works on.  Options that override settings may
stand before the name of the command and after it; the latter count where both are there.  After
two hyphens that stand alone, everything is a file.

An option and its value are understood when the next argument that is not its value comes, so that
of several mistakes the one that is understood first is reported.

## Main definitions

* `Command`: what is to be done.
* `Refusal`: why nothing is done.
* `Invocation.ofArguments args`: what the arguments `args` ask for.
-/

namespace StorySpec

/-- What is to be done. -/
inductive Command where
  /-- Make documents and stubs from stories; on a dry run they are shown instead of written. -/
  | generate (files : List Text) (dryRun : Bool)
  /-- Validate stories, with a report in JSON or in plain text. -/
  | check (files : List Text) (json : Bool)
  /-- Show the stubs for a document. -/
  | steps (file : Text)
  deriving DecidableEq, Repr

/-- Why a command line is not run. -/
inductive Refusal where
  | noArguments
  /-- The command has no file. -/
  | missingFile
  | missingCommand
  /-- There is no command of this name. -/
  | unknownCommand
  /-- There is no such option, or there is a file too many. -/
  | unknownArgument
  /-- An option has no value. -/
  | missingValue
  /-- The value of an option cannot be used. -/
  | invalidValue
  /-- An option is given twice. -/
  | repeatedOption
  /-- An option that takes no value has one. -/
  | unexpectedValue
  | help
  | version
  deriving DecidableEq, Repr

/-- What a command line asks for. -/
structure Invocation where
  command : Command
  overrides : Overrides
  deriving DecidableEq, Repr

/-! ## Names -/

/-- The commands by name. -/
inductive CommandName where
  | generate
  | check
  | steps
  deriving DecidableEq, Repr

/-- The command with the given name. -/
def CommandName.ofText? (t : Text) : Option CommandName :=
  [ ("generate".toList, CommandName.generate), ("check".toList, .check),
    ("steps".toList, .steps) ].lookup t

/-- The option that only this command has, if it has one; it takes no value. -/
def CommandName.flag? : CommandName → Option Text
  | .generate => some "dry-run".toList
  | .check => some "json".toList
  | .steps => none

/-- The options that override settings, each of which takes a value. -/
inductive SettingOption where
  | logLevel
  | language
  | fileNameWords
  | outputDirectory
  deriving DecidableEq, Repr

/-- The option with the given name. -/
def SettingOption.ofText? (t : Text) : Option SettingOption :=
  [ ("log-level".toList, SettingOption.logLevel), ("lang".toList, .language),
    ("file-name-words".toList, .fileNameWords), ("output".toList, .outputDirectory) ].lookup t

/-- The overrides with the value of one more option, which must not be there yet. -/
def Overrides.set (o : Overrides) (option : SettingOption) (value : Text) :
    Except Refusal Overrides :=
  match option with
  | .logLevel =>
    match o.logLevel, LogLevel.ofText value with
    | some _, _ => .error .repeatedOption
    | none, .ok level => .ok { o with logLevel := some level }
    | none, .error _ => .error .invalidValue
  | .language =>
    match o.defaultLanguage, Language.ofCode value with
    | some _, _ => .error .repeatedOption
    | none, .ok l => .ok { o with defaultLanguage := some l }
    | none, .error _ => .error .invalidValue
  | .fileNameWords =>
    match o.fileNameWords, wordCount? value with
    | some _, _ => .error .repeatedOption
    | none, some n => .ok { o with fileNameWords := some n }
    | none, none => .error .invalidValue
  | .outputDirectory =>
    match o.outputDirectory with
    | some _ => .error .repeatedOption
    | none => .ok { o with outputDirectory := some value }

/-! ## Arguments one by one -/

/-- The outer form of an argument. -/
inductive ArgumentForm where
  /-- Two hyphens that stand alone. -/
  | escape
  /-- Two hyphens and a name, and a value after an equals sign or none. -/
  | long (name : Text) (value : Option Text)
  /-- A hyphen and a letter. -/
  | short (letter : Char)
  /-- Anything else. -/
  | plain
  deriving DecidableEq, Repr

/-- The outer form of an argument. -/
def ArgumentForm.ofText : Text → ArgumentForm
  | ['-', '-'] => .escape
  | '-' :: '-' :: t =>
    .long (t.takeWhile (· != '=')) ((t.dropWhile (· != '=')).tail?)
  | '-' :: c :: _ => .short c
  | _ => .plain

/-- What the arguments say so far, before or after the name of the command. -/
structure ArgumentState where
  /-- The options that are understood. -/
  overrides : Overrides := {}
  /-- The option that is not understood yet, with its value if that has come. -/
  pending : Option (SettingOption × Option Text) := none
  /-- Whether the command's own option is there. -/
  flag : Bool := false
  files : List Text := []
  deriving DecidableEq, Repr

namespace ArgumentState

/-- The state in which no option is left to be understood. -/
def settle (s : ArgumentState) : Except Refusal ArgumentState :=
  match s.pending with
  | none => .ok s
  | some (_, none) => .error .missingValue
  | some (option, some value) =>
    (s.overrides.set option value).map fun overrides => { s with overrides, pending := none }

/-- The state after one more file; the command for stubs takes a single one. -/
def addFile (s : ArgumentState) (name : CommandName) (file : Text) :
    Except Refusal ArgumentState :=
  if name = .steps ∧ s.files ≠ [] then .error .unknownArgument
  else s.settle.map fun s => { s with files := s.files ++ [file] }

/-- Fails as asked for, unless an option before cannot be understood. -/
def refuse (s : ArgumentState) (r : Refusal) : Except Refusal ArgumentState :=
  s.settle.bind fun _ => .error r

/-- The state after an option with a long name. -/
def addLong (s : ArgumentState) (command : Option CommandName) (name : Text)
    (value : Option Text) : Except Refusal ArgumentState :=
  match SettingOption.ofText? name, value with
  | some option, some v =>
    s.settle.bind fun s => { s with pending := some (option, some v) }.settle
  | some option, none => s.settle.map fun s => { s with pending := some (option, none) }
  | none, value =>
    let isHelp := name = "help".toList
    let isVersion := name = "version".toList ∧ command = none
    let isFlag := command.bind CommandName.flag? = some name
    if isHelp ∨ isVersion ∨ isFlag then
      if value.isSome then .error .unexpectedValue
      else if isHelp then s.refuse .help
      else if isVersion then s.refuse .version
      else s.settle.bind fun s =>
        if s.flag then .error .repeatedOption else .ok { s with flag := true }
    else .error .unknownArgument

/-- The state after an option with a short name, all of which ask for information only. -/
def addShort (s : ArgumentState) (command : Option CommandName) (letter : Char) :
    Except Refusal ArgumentState :=
  if letter = 'h' then s.refuse .help
  else if letter = 'V' ∧ command = none then s.refuse .version
  else .error .unknownArgument

end ArgumentState

/-! ## Whole command lines -/

/-- The answer to the command `help`, which may be followed by the name of one command. -/
def helpRefusal : List Text → Refusal
  | [] => .help
  | [name] =>
    if (CommandName.ofText? name).isSome ∨ name = "help".toList then .help else .unknownCommand
  | _ => .unknownCommand

/-- Where the arguments of a command line lead: to their end, or to the name of a command and the
arguments after it. -/
structure ArgumentsEnd where
  /-- What the arguments say. -/
  state : ArgumentState
  /-- The name of a command and the arguments after it. -/
  next : Option (CommandName × List Text) := none
  deriving DecidableEq, Repr

/-- Reads arguments after the name of a command, or those before it if there is none yet.  All of
them are files once two hyphens have stood alone. -/
def readArguments (command : Option CommandName) (s : ArgumentState) (escaped : Bool) :
    List Text → Except Refusal ArgumentsEnd
  | [] => s.settle.map fun s => { state := s }
  | arg :: rest =>
    if escaped then
      match command with
      | some name =>
        (s.addFile name arg).bind fun s => readArguments command s true rest
      | none =>
        if (CommandName.ofText? arg).isSome ∨ arg = "help".toList then .error .unknownArgument
        else .error .unknownCommand
    else
      match ArgumentForm.ofText arg with
      | .escape => readArguments command s true rest
      | .long name value =>
        (s.addLong command name value).bind fun s => readArguments command s false rest
      | .short letter =>
        (s.addShort command letter).bind fun s => readArguments command s false rest
      | .plain =>
        match s.pending with
        | some (option, none) =>
          readArguments command { s with pending := some (option, some arg) } false rest
        | _ =>
          match command with
          | some name =>
            (s.addFile name arg).bind fun s => readArguments command s false rest
          | none =>
            match CommandName.ofText? arg with
            | some name => .ok { state := s, next := some (name, rest) }
            | none =>
              if arg = "help".toList then .error (helpRefusal rest) else .error .unknownCommand

/-- The command of the given name, if there are files for it. -/
def Command.ofName (name : CommandName) (files : List Text) (flag : Bool) :
    Except Refusal Command :=
  match name, files with
  | _, [] => .error .missingFile
  | .generate, files => .ok (.generate files flag)
  | .check, files => .ok (.check files flag)
  | .steps, file :: _ => .ok (.steps file)

/-- What a command line asks for. -/
def Invocation.ofArguments (args : List Text) : Except Refusal Invocation := do
  let before ← readArguments none {} false args
  match before.next with
  | none =>
    if before.state.overrides = {} then .error .noArguments else .error .missingCommand
  | some (name, rest) =>
    let after ← readArguments (some name) {} false rest
    let command ← Command.ofName name after.state.files after.state.flag
    let outer ← before.state.settle
    return { command, overrides := after.state.overrides.orElse outer.overrides }

end StorySpec
