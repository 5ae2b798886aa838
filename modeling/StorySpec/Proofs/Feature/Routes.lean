import StorySpec.Proofs.Feature.Read
import StorySpec.Proofs.Stub.FirstOccurrence

/-!
# Two routes to the stubs of a story

The stubs for a story are made from its document as it is generated, and they can be made from the
text of the document when it is read again.  The two routes lead to the same stubs exactly when
every section is read to its end and rephrasing the lines of the sections changes no first
occurrence among the stubs.  A note before the first step does no harm, nor does a bullet whose stub
is there already; a keyword alone behind a step ends the reading of the whole document.  This holds
of the stories whose step lines open no other part of a document, such as tags, rows, quoted blocks
and titles.

## Main definitions

* `Section.stubs r`: the stubs of the steps of a section.
* `Section.readStubs r l`: the stubs of the lines that these steps are read as.

## Main results

* `sectionStubs_asRead`: the stubs of a document that is read.
* `routes_agree_iff`: when the two routes lead to the same stubs.
-/

namespace StorySpec

open Gherkin (beginsWith dialectOf)

variable {s : Story} {r : Section} {t : Text} {lang : Language} {sections : List Section}

/-- The stubs of the steps of a section. -/
def Section.stubs (r : Section) : List Stub :=
  r.steps.filterMap (Stub.ofLine? · r.table)

/-- The stubs of the lines that the steps of a section are read as. -/
def Section.readStubs (r : Section) (lang : Language) : List Stub :=
  (r.steps.filterMap (rephrased? · lang)).filterMap (Stub.ofLine? · r.table)

/-- The table of a section that is read types its steps as the table that was written. -/
theorem ofLine?_table_asRead (ht : r.HasTable) (lang : Language) (l : Text) :
    Stub.ofLine? l (r.asRead lang).table = Stub.ofLine? l r.table := by
  cases houtline : r.outline with
  | false => simp [Section.asRead, houtline, (ht.plain houtline).2]
  | true =>
    obtain ⟨table, hok, htable⟩ := ht.outline houtline
    simp [Section.asRead, houtline, htable, ofLine?_readCells hok]

theorem stubs_asRead (ht : r.HasTable) (hread : r.isRead lang = true) :
    (r.asRead lang).stubs = r.readStubs lang := by
  have hlines : (r.asRead lang).steps = r.steps.filterMap (rephrased? · lang) := by
    have hover : ((dialectOf lang).readBody r.steps).2 = [] := by
      simp only [Section.isRead, Bool.and_eq_true, beq_iff_eq] at hread
      exact hread.1
    exact readLines_eq_filterMap hover
  rw [Section.stubs, Section.readStubs, hlines]
  exact List.filterMap_congr fun l _ => ofLine?_table_asRead ht lang l

/-- **The stubs of a document that is read** are the first among those of the rephrased lines. -/
theorem sectionStubs_asRead (ht : ∀ r ∈ sections, r.HasTable)
    (hread : ∀ r ∈ sections, r.isRead lang = true) :
    sectionStubs (sections.map (Section.asRead · lang)) =
      (sections.flatMap (Section.readStubs · lang)).eraseDupsBy Stub.sameSignature := by
  rw [sectionStubs_eq, List.flatMap_map]
  congr 1
  exact List.flatMap_congr fun r hr => stubs_asRead (ht r hr) (hread r hr)

/-- Documents that differ in their sections only have the same stubs when the stubs of the sections
are the same. -/
theorem ofFeature_eq_iff (f : Feature) (sections : List Section) :
    Synthesis.ofFeature { f with sections } = Synthesis.ofFeature f ↔
      sectionStubs sections = sectionStubs f.sections := by
  constructor
  · intro h
    simp only [Synthesis.ofFeature] at h
    split at h <;> split at h
    · simp_all
    · cases h
    · cases h
    · injection h with hfile
      injection hfile
  · intro h
    simp [Synthesis.ofFeature, h]

/-- **The two routes** lead to the same stubs exactly when every section is read to its end and the
first stubs of the rephrased lines are those of the lines.

Nothing is said here about stories with a step line that opens another part of the document: a line
that begins with the at sign of a tag, with the bar of a row, with the quotes of a quoted block
(three double quotes or three backticks), or with the word of a scenario, of an outline, of examples
or of a rule and a colon.  Such a line makes a tag, an argument of the step before it or a title of
what was written as a step, and the lines after it belong to that part. -/
theorem routes_agree_iff {settings : PipelineSettings} {story : Story} {feature : Feature}
    {steps : Synthesis} (h : Outcome.ofText settings t = .generated story feature steps)
    (hplain : ∀ r ∈ story.sections, ∀ l ∈ r.steps,
      beginsWith (dialectOf story.language).partMarks l = false) :
    (Feature.read? feature.fileName feature.text).map Synthesis.ofFeature = some steps ↔
      (∀ r ∈ story.sections, r.isRead story.language = true) ∧
        (story.sections.flatMap (Section.readStubs · story.language)).eraseDupsBy
            Stub.sameSignature =
          (story.sections.flatMap Section.stubs).eraseDupsBy Stub.sameSignature := by
  obtain ⟨-, hvalid, hfeature, hsteps⟩ := Outcome.ofText_eq_generated_iff.1 h
  have htables := hasTable_of_mem_sections (isComplete_of_isValid hvalid)
  have hsections : feature.sections = story.sections := by rw [hfeature]; rfl
  have hstubs : sectionStubs feature.sections =
      (story.sections.flatMap Section.stubs).eraseDupsBy Stub.sameSignature := by
    rw [hsections]
    exact sectionStubs_eq story.sections
  rw [read?_generated h hplain]
  -- a document that is not read leads to no stubs at all, not even to none
  by_cases hall : story.sections.all (Section.isRead · story.language) = true
  · have hread : ∀ r ∈ story.sections, r.isRead story.language = true :=
      List.all_eq_true.1 hall
    rw [if_pos hall, Option.map_some, Option.some.injEq, hsteps, ofFeature_eq_iff,
      sectionStubs_asRead htables hread, hstubs]
    exact (and_iff_right hread).symm
  · rw [if_neg hall, Option.map_none]
    refine ⟨nofun, fun hagree => absurd (List.all_eq_true.2 hagree.1) hall⟩

/-- A story with a note, a comment and a bullet among its steps. -/
def notedStory : Text :=
  Text.unlines
    ["Como cliente".toList, "Quero pagar".toList, "Para levar os produtos".toList,
      "[SUCCESS]".toList, "uma nota".toList, "Dado um carrinho com 2 itens".toList,
      "# um comentário".toList, "* um carrinho com 3 itens".toList, "When pago".toList]

/-- Both routes lead to the same stubs for the story. -/
theorem routes_agree_notedStory :
    let story := Story.ofText .portuguese notedStory
    let feature := Feature.ofStory story 5
    Outcome.ofText {} notedStory = .generated story feature (Synthesis.ofFeature feature) ∧
      (∀ r ∈ story.sections, ∀ l ∈ r.steps,
        beginsWith (dialectOf story.language).partMarks l = false) ∧
      (Feature.read? feature.fileName feature.text).map Synthesis.ofFeature =
        some (Synthesis.ofFeature feature) := by
  intro story feature
  have hvalid : story.validate.isValid = true := by decide +kernel
  have hgenerated : Outcome.ofText {} notedStory =
      .generated story feature (Synthesis.ofFeature feature) :=
    Outcome.ofText_eq_generated_iff.2 ⟨rfl, hvalid, rfl, rfl⟩
  have hplain : ∀ r ∈ story.sections, ∀ l ∈ r.steps,
      beginsWith (dialectOf story.language).partMarks l = false := by decide +kernel
  exact ⟨hgenerated, hplain,
    (routes_agree_iff hgenerated hplain).2 ⟨by decide +kernel, by decide +kernel⟩⟩

/-- A story whose second step is a keyword alone. -/
def loneKeywordStory : Text :=
  Text.unlines
    ["# language: en".toList, "As a customer".toList, "I want to pay".toList,
      "So that the goods are mine".toList, "[SUCCESS]".toList, "Given a cart".toList,
      "When".toList]

/-- The document and two stubs are made of the story, and the document cannot be read. -/
theorem read?_loneKeywordStory :
    let story := Story.ofText .portuguese loneKeywordStory
    let feature := Feature.ofStory story 5
    Outcome.ofText {} loneKeywordStory = .generated story feature (Synthesis.ofFeature feature) ∧
      (sectionStubs feature.sections).length = 2 ∧
      (Feature.read? feature.fileName feature.text).map Synthesis.ofFeature = none := by
  intro story feature
  have hvalid : story.validate.isValid = true := by decide +kernel
  exact ⟨Outcome.ofText_eq_generated_iff.2 ⟨rfl, hvalid, rfl, rfl⟩, by decide +kernel,
    by decide +kernel⟩

end StorySpec
