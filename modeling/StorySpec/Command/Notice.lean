import StorySpec.Command.Json
import StorySpec.Story.Report

/-!
# Notices

What commands print, before it is laid out as text.

## Main definitions

* `Summary`: what is counted while documents are made.
* `CheckReport`: the report on one story file.
* `Notice`: something that is printed, and `Notice.text`, its text.
-/

namespace StorySpec

/-- What is counted while documents are made. -/
structure Summary where
  /-- Stories that were read. -/
  stories : Nat := 0
  /-- Documents that were made. -/
  features : Nat := 0
  /-- Step files that were made. -/
  stepFiles : Nat := 0
  /-- Stories that had faults. -/
  skipped : Nat := 0
  deriving DecidableEq, Repr

/-- The wording of the counts. -/
def Summary.message (s : Summary) : Text :=
  Text.ofNat s.stories ++ " stories: ".toList ++ Text.ofNat s.features ++ " features, ".toList ++
    Text.ofNat s.stepFiles ++ " step files, ".toList ++ Text.ofNat s.skipped ++ " skipped".toList

/-- The report on one story file. -/
structure CheckReport where
  /-- The file, as it is named on the command line. -/
  file : Text
  /-- Whether the story has no faults. -/
  valid : Bool
  /-- The wordings of the faults. -/
  errors : List Text
  deriving DecidableEq, Repr

namespace CheckReport

/-- The report on the story in a file. -/
def ofReport (file : Text) (r : Report) : CheckReport where
  file := file
  valid := r.isValid
  errors := r.messages

/-- The report as a line. -/
def line (r : CheckReport) : Text :=
  if r.valid then "ok ".toList ++ r.file
  else "invalid ".toList ++ r.file ++ ": ".toList ++ Text.joined "; ".toList r.errors

/-- The report as a JSON object, whose braces stand at the given level. -/
def json (r : CheckReport) (level : Nat) : Text :=
  Json.object level
    [ ("file".toList, Json.string r.file),
      ("valid".toList, Json.bool r.valid),
      ("errors".toList, Json.list (level + 1) (r.errors.map Json.string)) ]

end CheckReport

/-- Something that is printed. -/
inductive Notice where
  /-- The story in a file has faults. -/
  | skipped (file : Text) (messages : List Text)
  /-- A file has been written. -/
  | created (path : Text)
  /-- A file would hold this text. -/
  | document (path text : Text)
  /-- No step of the story or document in a file has a stub. -/
  | noSteps (file : Text)
  /-- The counts at the end. -/
  | summary (s : Summary)
  /-- Reports on story files, in JSON or in plain text. -/
  | reports (rs : List CheckReport) (json : Bool)
  | plain (t : Text)
  deriving DecidableEq, Repr

/-- The text of a notice. -/
def Notice.text : Notice → Text
  | .skipped file messages =>
    Text.unlines (("skipped ".toList ++ file) :: messages.map ("  - ".toList ++ ·))
  | .created path => Text.unlines ["created ".toList ++ path]
  | .document path text => Text.unlines ["==> ".toList ++ path ++ " <==".toList] ++ text
  | .noSteps file => Text.unlines [file ++ ": no steps produced".toList]
  | .summary s => Text.unlines [s.message]
  | .reports rs false => Text.unlines (rs.map CheckReport.line)
  | .reports rs true => Text.unlines [Json.list 0 (rs.map (CheckReport.json · 1))]
  | .plain t => t

end StorySpec
