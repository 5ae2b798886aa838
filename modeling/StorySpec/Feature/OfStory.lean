import StorySpec.Feature
import StorySpec.Feature.FileName
import StorySpec.Language.Opener
import StorySpec.Step
import StorySpec.Story

/-!
# The document of a story

The document of a story begins with its language, its title and its header lines, and has one
section for every group that has steps.  A group with examples becomes an outline, whose title
counts the outlines; another group becomes a plain scenario, whose title names its kind, its first
and its last step.

## Main definitions

* `Group.toSection g l n`: the section of a group, where `n` outlines stand before it.
* `sectionsOf l n gs`: the sections of groups.
* `Feature.ofStory s n`: the document of the story `s`, whose name has `n` words.
-/

namespace StorySpec

namespace Group

/-- The tags of a group: its kind in lower case and the name it was given. -/
def tags (g : Group) : List Text :=
  ('@' :: Text.lower g.kind.tag) :: (g.tag.map fun name => '@' :: name).toList

/-- The steps of a group with their keywords in the language of the document. -/
def translatedSteps (g : Group) (l : Language) : List Text :=
  g.steps.map (translateStep · l)

/-- What a step says, or the fallback when there is no such step or when it says nothing. -/
def stepTextOr (fallback : Text) (step : Option Text) : Text :=
  match step.map stepText with
  | some (c :: t) => c :: t
  | _ => fallback

/-- The title of a plain scenario: the kind of the group, its first and its last step. -/
def title (g : Group) (l : Language) : Text :=
  Text.joined " - ".toList
    [g.kind.label l, stepTextOr l.words.condition g.steps.head?,
      stepTextOr l.words.result g.steps.getLast?]

/-- The section of a group, when `n` outlines come before it. -/
def toSection (g : Group) (l : Language) (n : Nat) : Section :=
  if g.isOutline then
    { tags := g.tags
      outline := true
      title := l.words.exampleTitle ++ ' ' :: Text.ofNat (n + 1)
      steps := g.translatedSteps l
      exampleRows := exampleRows g.examples
      table := g.table.toOption }
  else
    { tags := g.tags, title := g.title l, steps := g.translatedSteps l }

end Group

/-- The sections of the groups that have steps, when `n` outlines come before them. -/
def sectionsOf (l : Language) : Nat → List Group → List Section
  | _, [] => []
  | n, g :: gs =>
    if g.steps = [] then sectionsOf l n gs
    else g.toSection l n :: sectionsOf l (if g.isOutline then n + 1 else n) gs

namespace Story

/-- The title of the document: what is wanted, without its opening unless nothing else is there. -/
def title (s : Story) : Text :=
  match stripOpener s.want s.language.openers.want with
  | some (c :: t) => c :: t
  | _ => s.want

/-- The first lines of the document. -/
def headerLines (s : Story) : List Text :=
  [ "# language: ".toList ++ s.language.code,
    s.language.words.feature ++ ": ".toList ++ s.title,
    indented 2 ("# ".toList ++ s.role),
    indented 2 ("# ".toList ++ s.want),
    indented 2 ("# ".toList ++ s.goal) ]

/-- The sections of the document. -/
def sections (s : Story) : List Section :=
  sectionsOf s.language 0 s.groups

/-- The lines of the document. -/
def documentLines (s : Story) : List Text :=
  s.headerLines ++ s.sections.flatMap (Section.lines · s.language)

end Story

/-- The document of a story, whose name has at most `n` words. -/
def Feature.ofStory (s : Story) (n : Nat) : Feature where
  fileName := suggestedFileName s.want n
  language := s.language
  text := Text.unlines s.documentLines
  sections := s.sections

end StorySpec
