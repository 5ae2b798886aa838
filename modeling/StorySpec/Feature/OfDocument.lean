import StorySpec.Feature
import StorySpec.Gherkin.Grammar

/-!
# The sections of a Gherkin document

A Gherkin document that was written by someone else is taken apart into sections: one for every
background and every scenario, in the order of the document.

Its language is the one whose word for a document it begins with.  Failing that it is the one of
the first known keyword among the steps outside of rules, and failing that the default.

## Main definitions

* `Gherkin.Document.language d`: the language of the document `d`.
* `Gherkin.Step.line s l`: the step `s` as a line of a document in the language `l`.
* `Gherkin.Scenario.exampleRows s`: the rows of all examples of a scenario.
* `Gherkin.Document.sections d`: the sections of a document.
* `Feature.read? name t`: the document in the text `t`.
-/

namespace StorySpec

namespace Gherkin

namespace Step

/-- The keyword of a step, if it is known as it is written; otherwise the word for what the step
plays. -/
def word (s : Step) (l : Language) : Text :=
  let written := Text.trim s.keyword
  if (Keyword.recognise? written).isSome then written else s.type.slot.word l

/-- A step as a line. -/
def line (s : Step) (l : Language) : Text :=
  s.word l ++ ' ' :: Text.trim s.value

end Step

/-- Cells as a row of a table. -/
def rowLine (cells : List Text) : Text :=
  "| ".toList ++ Text.joined " | ".toList cells ++ " |".toList

/-- The rows of tables one after the other.  The first row of every table but the first one is
left out, as it repeats the header. -/
def mergedRows (tables : List (List (List Text))) : List (List Text) :=
  tables.foldl (fun rows table => rows ++ if rows = [] then table else table.drop 1) []

namespace Scenario

/-- The rows of all examples of a scenario. -/
def exampleRows (s : Scenario) : List Text :=
  (mergedRows (s.examples.filterMap Examples.table)).map rowLine

/-- The section of a scenario. -/
def toSection (s : Scenario) (l : Language) : Section where
  tags := s.tags.map fun tag => '@' :: tag.dropWhile (· == '@')
  outline := s.examples != []
  title := Text.trim s.name
  steps := s.steps.map (Step.line · l)
  exampleRows := s.exampleRows
  table := if s.exampleRows = [] then none else (Table.ofLines s.exampleRows).toOption

end Scenario

/-- The section of a background. -/
def Background.toSection (b : Background) (l : Language) : Section where
  title := Text.trim b.name
  steps := b.steps.map (Step.line · l)

/-- The sections of a background, if there is one, and of scenarios. -/
def blockSections (before : Option Background) (found : List Scenario) (l : Language) :
    List Section :=
  (before.map (Background.toSection · l)).toList ++ found.map (Scenario.toSection · l)

namespace Document

/-- The steps outside of rules. -/
def ownSteps (d : Document) : List Step :=
  (d.background.map Background.steps).getD [] ++ d.scenarios.flatMap Scenario.steps

/-- The language of a document. -/
def language (d : Document) : Language :=
  match Language.all.find? fun l =>
      Text.eqIgnoringAsciiCase l.words.feature (Text.trim d.keyword) with
  | some l => l
  | none =>
    match d.ownSteps.findSome? fun s => Keyword.recognise? (Text.trim s.keyword) with
    | some (l, _) => l
    | none => .portuguese

/-- The sections of a document. -/
def sections (d : Document) : List Section :=
  blockSections d.background d.scenarios d.language ++
    d.rules.flatMap fun r => blockSections r.background r.scenarios d.language

end Document

end Gherkin

/-- What a Gherkin document comes to, which is in a file of the given name and has the text
`t`. -/
def Feature.ofDocument (name t : Text) (d : Gherkin.Document) : Feature where
  fileName := name
  language := d.language
  text := t
  sections := d.sections

/-- The document in a text. -/
def Feature.read? (name t : Text) : Option Feature :=
  (Gherkin.Document.ofText? t).map (Feature.ofDocument name t)

end StorySpec
