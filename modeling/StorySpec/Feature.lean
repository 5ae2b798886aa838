import StorySpec.Language
import StorySpec.Table

/-!
# Feature documents

A feature document is a text together with the sections that it consists of.

## Main definitions

* `Section`: a scenario of a document, plain or with examples.
* `Feature`: a document.
* `Section.lines s l`: the lines that show the section `s` in the language `l`.
-/

namespace StorySpec

/-- A scenario of a document. -/
structure Section where
  /-- The tags, each with its at sign. -/
  tags : List Text := []
  /-- Whether the scenario is an outline with examples. -/
  outline : Bool := false
  title : Text := []
  /-- The steps, each with its keyword. -/
  steps : List Text := []
  exampleRows : List Text := []
  table : Option Table := none
  deriving DecidableEq, Repr

/-- A feature document. -/
structure Feature where
  /-- The name of its file, without extension. -/
  fileName : Text
  /-- The language it is written in. -/
  language : Language
  text : Text
  sections : List Section
  deriving DecidableEq, Repr

/-- A line behind `n` spaces. -/
def indented (n : Nat) (line : Text) : Text :=
  List.replicate n ' ' ++ line

/-- The lines of a section: a blank line, its tags, its title, its steps and, for an outline, the
rows of its examples. -/
def Section.lines (s : Section) (l : Language) : List Text :=
  let keyword := if s.outline then l.words.outline else l.words.scenario
  let examples :=
    if s.outline then
      indented 4 (l.words.examples ++ [':']) :: s.exampleRows.map (indented 6)
    else []
  [[], indented 2 (Text.joined [' '] s.tags), indented 2 (keyword ++ ": ".toList ++ s.title)] ++
    s.steps.map (indented 4) ++ examples

end StorySpec
