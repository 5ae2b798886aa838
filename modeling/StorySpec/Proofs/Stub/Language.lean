import Mathlib.Data.List.Forall2
import StorySpec.Proofs.Stub.OfStory

/-!
# Stubs in two languages

A story has one language, and its steps may have keywords of both.  All of them are translated for
the document, so that the language of the story decides how the keywords of the stubs are spelled
and nothing else: the sketches of the steps, and with them the question which steps share a stub,
are the same in either language.

## Main definitions

* `Story.inOtherLanguage s`: the story with the same lines in the other language.
* `Stub.IsCounterpart a b`, `Synthesis.IsCounterpart a b`: stubs, and results of synthesis, that
  differ in the spelling of keywords only.

## Main results

* `sectionStubs_sections`: the stubs for a story are those of its first sketches.
* `isCounterpart_inOtherLanguage`: the stubs for a story in both languages.
-/

namespace StorySpec

/-- The story with the same lines in the other language. -/
def Story.inOtherLanguage (s : Story) : Story :=
  { s with language := s.language.other }

/-- Two stubs that differ in the spelling of the keyword only, which is that of a language in the
one and of the other language in the other. -/
structure Stub.IsCounterpart (a b : Stub) : Prop where
  keyword : b.keyword = Keyword.counterpart a.keyword
  keyword_back : a.keyword = Keyword.counterpart b.keyword
  pattern : b.pattern = a.pattern
  arguments : b.arguments = a.arguments
  parameterTypes : b.parameterTypes = a.parameterTypes
  sourceText : b.sourceText = a.sourceText

/-- Two results that differ in the spelling of keywords only: there are no stubs in both, or the
documents have one name and as many stubs, which are counterparts one by one. -/
inductive Synthesis.IsCounterpart : Synthesis → Synthesis → Prop
  | noSteps : IsCounterpart .noSteps .noSteps
  | stubs {a b : StepFile} (featureName : b.featureName = a.featureName)
      (stubs : List.Forall₂ Stub.IsCounterpart a.stubs b.stubs) :
      IsCounterpart (.stubs a) (.stubs b)

/-- The stubs of a sketch in the two languages are counterparts. -/
theorem StepSketch.isCounterpart_stub (k : StepSketch) (l : Language) :
    (k.stub l).IsCounterpart (k.stub l.other) := by
  refine ⟨?_, ?_, rfl, rfl, rfl, rfl⟩
  · exact (Keyword.counterpart_word k.slot l).symm
  · change k.slot.word l = Keyword.counterpart (k.slot.word l.other)
    rw [Keyword.counterpart_word, Language.other_other]

namespace Story

variable (s : Story)

/-- The stubs for a story are those of its first sketches. -/
theorem sectionStubs_sections :
    sectionStubs s.sections =
      (s.sketches.eraseDupsBy StepSketch.sharesStub).map (StepSketch.stub · s.language) := by
  rw [sectionStubs_eq, stubs_sections]
  exact eraseDupsBy_map s.sketches fun a ha b hb => sameSignature_stub ha hb s.language

/-- Sketches are taken from the lines of a story, whose language they leave open. -/
theorem sketches_inOtherLanguage : s.inOtherLanguage.sketches = s.sketches := rfl

/-- The stubs for a story in the two languages are counterparts one by one. -/
theorem forall₂_sectionStubs :
    List.Forall₂ Stub.IsCounterpart (sectionStubs s.sections)
      (sectionStubs s.inOtherLanguage.sections) := by
  rw [sectionStubs_sections, sectionStubs_sections, sketches_inOtherLanguage,
    List.forall₂_map_left_iff, List.forall₂_map_right_iff, List.forall₂_same]
  intro k _
  exact k.isCounterpart_stub s.language

end Story

/-- **The language of a story** does not matter to its stubs but for the spelling of keywords. -/
theorem isCounterpart_inOtherLanguage (s : Story) (n : Nat) :
    (Synthesis.ofFeature (Feature.ofStory s n)).IsCounterpart
      (Synthesis.ofFeature (Feature.ofStory s.inOtherLanguage n)) := by
  have hstubs := s.forall₂_sectionStubs
  have hnil : sectionStubs s.inOtherLanguage.sections = [] ↔ sectionStubs s.sections = [] := by
    rw [← List.length_eq_zero_iff, ← hstubs.length_eq, List.length_eq_zero_iff]
  by_cases h : sectionStubs s.sections = []
  · have hnone : Synthesis.ofFeature (Feature.ofStory s n) = .noSteps := if_pos h
    have hother : Synthesis.ofFeature (Feature.ofStory s.inOtherLanguage n) = .noSteps :=
      if_pos (hnil.2 h)
    rw [hnone, hother]
    exact .noSteps
  · have hfile : Synthesis.ofFeature (Feature.ofStory s n) =
        .stubs ⟨suggestedFileName s.want n, s.language, sectionStubs s.sections⟩ := if_neg h
    have hother : Synthesis.ofFeature (Feature.ofStory s.inOtherLanguage n) =
        .stubs ⟨suggestedFileName s.want n, s.language.other,
          sectionStubs s.inOtherLanguage.sections⟩ := if_neg (hnil.not.2 h)
    rw [hfile, hother]
    exact .stubs rfl hstubs

end StorySpec
