import StorySpec.Stub

/-!
# Step files

A step file has a heading and one block for every stub: the keyword, the pattern in double quotes,
the arguments between bars, and a pending message in single quotes.

## Main definitions

* `singleQuoted t`: the text `t` as it stands in single quotes.
* `Stub.write s pending`: the block of a stub.
* `StepFile.render f`: the text of a step file.
-/

namespace StorySpec

/-- A text as it stands in single quotes: a quote and a backslash get a backslash before them. -/
def singleQuoted (t : Text) : Text :=
  t.flatMap fun c => if c = '\'' ∨ c = '\\' then ['\\', c] else [c]

/-- The arguments of a block, between bars; nothing when there are none. -/
def blockArguments (names : List Text) : Text :=
  if names = [] then [] else " |".toList ++ Text.joined ", ".toList names ++ ['|']

/-- The block of a stub, whose message begins with `pending`. -/
def Stub.write (s : Stub) (pending : Text) : Text :=
  s.keyword ++ "(\"".toList ++ s.pattern ++ "\") do".toList ++ blockArguments s.arguments ++
    "\n  pending '".toList ++ pending ++ ": ".toList ++ singleQuoted s.sourceText ++
    "'\nend\n\n".toList

namespace StepFile

/-- The heading of a step file. -/
def heading (f : StepFile) : Text :=
  "# encoding: utf-8\n# ".toList ++ f.language.words.stepsHeading ++ ' ' :: f.featureName ++
    ".feature\n\n".toList

/-- The text of a step file. -/
def render (f : StepFile) : Text :=
  f.heading ++ f.stubs.flatMap (Stub.write · f.language.words.pending)

end StepFile

end StorySpec
