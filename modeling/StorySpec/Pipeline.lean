import StorySpec.Feature.OfStory
import StorySpec.Story.Reader
import StorySpec.Story.Report
import StorySpec.Stub

/-!
# From a story to its document and stubs

A story is read and validated; a valid one becomes a document, and the document becomes stubs.

## Main definitions

* `PipelineSettings`: the default language and the length of file names.
* `Outcome`: a rejected story with its faults, or a generated document with its stubs.
* `Outcome.ofText settings t`: the outcome for the story in the text `t`.

## Main results

* `ofText_eq_generated_iff`: a document is made of exactly the stories that are valid.
-/

namespace StorySpec

/-- What may be set for the making of documents. -/
structure PipelineSettings where
  /-- The language of stories without a directive. -/
  defaultLanguage : Language := .portuguese
  /-- How many words the name of a document has at most. -/
  fileNameWords : Nat := defaultFileNameWords
  deriving DecidableEq, Repr

/-- What becomes of a story. -/
inductive Outcome where
  /-- The story has faults. -/
  | rejected (report : Report)
  /-- The story has a document, and the document has stubs. -/
  | generated (story : Story) (feature : Feature) (steps : Synthesis)
  deriving DecidableEq, Repr

/-- What becomes of the story in a text. -/
def Outcome.ofText (settings : PipelineSettings) (t : Text) : Outcome :=
  let story := Story.ofText settings.defaultLanguage t
  if story.validate.isValid then
    let feature := Feature.ofStory story settings.fileNameWords
    .generated story feature (Synthesis.ofFeature feature)
  else .rejected story.validate

/-- A document is made of a story exactly when the story is valid. -/
theorem Outcome.ofText_eq_generated_iff {settings : PipelineSettings} {t : Text} {story : Story}
    {feature : Feature} {steps : Synthesis} :
    Outcome.ofText settings t = .generated story feature steps ↔
      story = Story.ofText settings.defaultLanguage t ∧ story.validate.isValid = true ∧
        feature = Feature.ofStory story settings.fileNameWords ∧
        steps = Synthesis.ofFeature feature := by
  unfold Outcome.ofText
  dsimp only
  split
  · constructor
    · intro h
      cases h
      exact ⟨rfl, ‹_›, rfl, rfl⟩
    · rintro ⟨rfl, -, rfl, rfl⟩
      rfl
  · constructor
    · intro h
      cases h
    · rintro ⟨rfl, hvalid, -⟩
      contradiction

end StorySpec
