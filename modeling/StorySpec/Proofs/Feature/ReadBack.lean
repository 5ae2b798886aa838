import StorySpec.Proofs.Feature.Read

/-!
# Documents of stories read back

When every step of a story has a keyword and a text, and every row has one space around each of its
cells, the document of the story is read back as it is, section by section and in every field.  The
one exception is a group that begins with `And` or `But`: such a step continues the step before it,
and where there is none the grammar refuses the whole document.

## Main definitions

* `Group.beginsWithContinuation g`: whether the first step of a group continues another one.
* `Group.IsRegular g`: the steps and the rows of the group `g` are spelled out.

## Main results

* `asRead_toSection`: the section of a regular group is read as it is.
* `read?_generated_eq`: which documents are read back, and as what.
-/

namespace StorySpec

open Gherkin (beginsWith dialectOf rowLine isClosedRow)

variable {g : Group} {t : Text}

/-! ## Groups that are spelled out -/

/-- Whether a group begins with a step that continues another one. -/
def Group.beginsWithContinuation (g : Group) : Bool :=
  (g.steps.head?.bind StepLine.ofText?).any (·.slot.type? == none)

/-- A group whose steps and rows are spelled out. -/
structure Group.IsRegular (g : Group) : Prop where
  steps : ∀ l ∈ g.steps, ∃ step, StepLine.ofText? l = some step ∧ step.text ≠ []
  /-- Every line of the examples is a row with one space around each of its cells. -/
  rows : ∀ l ∈ g.examples, ∃ cs, cs ≠ [] ∧ (∀ c ∈ cs, Text.trim c = c ∧ '|' ∉ c) ∧ l = rowLine cs

/-- A row with one space around each of its cells is the one that is written from its cells. -/
theorem exists_rowLine_iff {l : Text} :
    (∃ cs, cs ≠ [] ∧ (∀ c ∈ cs, Text.trim c = c ∧ '|' ∉ c) ∧ l = rowLine cs) ↔
      rowLine (cells l) = l := by
  constructor
  · rintro ⟨cs, hne, hcells, rfl⟩
    rw [cells_rowLine hne hcells]
  · intro h
    exact ⟨cells l, cells_ne_nil l, fun c hc => trim_of_mem_cells hc, h.symm⟩

theorem Group.isRegular_iff :
    g.IsRegular ↔ (∀ l ∈ g.steps, ∃ step ∈ StepLine.ofText? l, step.text ≠ []) ∧
      ∀ l ∈ g.examples, rowLine (cells l) = l := by
  constructor
  · rintro ⟨hsteps, hrows⟩
    exact ⟨hsteps, fun l hl => exists_rowLine_iff.1 (hrows l hl)⟩
  · rintro ⟨hsteps, hrows⟩
    exact ⟨hsteps, fun l hl => exists_rowLine_iff.2 (hrows l hl)⟩

instance (g : Group) : Decidable g.IsRegular :=
  decidable_of_iff _ Group.isRegular_iff.symm

namespace Group.IsRegular

variable (hg : g.IsRegular)

include hg

/-- The steps of the document are steps with texts. -/
theorem translatedSteps_eq (lang : Language) :
    g.translatedSteps lang = (g.steps.filterMap StepLine.ofText?).map (·.write lang) := by
  rw [Group.translatedSteps, List.map_filterMap, ← List.filterMap_eq_map]
  refine List.filterMap_congr fun l hl => ?_
  obtain ⟨step, hstep, -⟩ := hg.steps l hl
  rw [hstep, Option.map_some, Function.comp, translateStep_of_some hstep]

theorem isContentLine_text (hkept : IsKeptGroup g) :
    ∀ s ∈ g.steps.filterMap StepLine.ofText?, IsContentLine s.text := by
  intro s hs
  obtain ⟨l, hl, hstep⟩ := List.mem_filterMap.1 hs
  obtain ⟨step, hfound, hne⟩ := hg.steps l hl
  obtain rfl : step = s := Option.some.inj (hfound.symm.trans hstep)
  exact ⟨StepLine.isLine_text hstep (hkept.steps l hl).isLine, hne⟩

theorem head?_filterMap :
    (g.steps.filterMap StepLine.ofText?).head? = g.steps.head?.bind StepLine.ofText? := by
  cases hsteps : g.steps with
  | nil => rfl
  | cons l ls =>
    obtain ⟨step, hstep, -⟩ := hg.steps l (by simp [hsteps])
    simp [hstep]

/-- No step of the document opens another part of it. -/
theorem not_partMarks (lang : Language) :
    ∀ l ∈ g.translatedSteps lang, beginsWith (dialectOf lang).partMarks l = false := by
  intro l hl
  obtain ⟨line, hline, rfl⟩ := List.mem_map.1 hl
  obtain ⟨step, hstep, hne⟩ := hg.steps line hline
  rw [translateStep_of_some hstep, write_of_ne_nil hne]
  exact (marks_word step.slot lang step.text).1

/-- The steps of the document are all read, unless the first of them continues another one. -/
theorem readBody_translatedSteps (hkept : IsKeptGroup g) (lang : Language) :
    (((dialectOf lang).readBody (g.translatedSteps lang)).2 == []) =
      !g.beginsWithContinuation := by
  have hread := readBody_write_eq_nil_iff (hg.isContentLine_text hkept) lang
  rw [← hg.translatedSteps_eq, hg.head?_filterMap] at hread
  rw [Bool.eq_iff_iff, beq_iff_eq, hread, Group.beginsWithContinuation]
  cases g.steps.head?.bind StepLine.ofText? <;> simp [Option.isSome_iff_ne_none]

/-- They are read as the same lines. -/
theorem readLines_translatedSteps (hkept : IsKeptGroup g)
    (hfirst : g.beginsWithContinuation = false) (lang : Language) :
    readLines (g.translatedSteps lang) lang = g.translatedSteps lang := by
  have hover := hg.readBody_translatedSteps hkept lang
  rw [hfirst, Bool.not_false, beq_iff_eq, hg.translatedSteps_eq] at hover
  rw [hg.translatedSteps_eq]
  exact readLines_write (hg.isContentLine_text hkept) hover

/-! ### Rows -/

theorem exampleRows_examples : exampleRows g.examples = g.examples := by
  have hrow : ∀ l ∈ g.examples, normaliseRow? l = some l := by
    intro l hl
    obtain ⟨cs, -, -, rfl⟩ := hg.rows l hl
    exact normaliseRow?_rowLine cs
  rw [exampleRows, List.filterMap_congr hrow, List.filterMap_some]

/-- Rows that are spelled out are closed, and none of them is a bar alone. -/
theorem rowsAreRead_examples : rowsAreRead g.examples = true ∧ g.examples.head? ≠ some ['|'] := by
  have hclosed : ∀ l ∈ g.examples, isClosedRow l = true ∧ l ≠ ['|'] := by
    intro l hl
    obtain ⟨cs, -, -, rfl⟩ := hg.rows l hl
    refine ⟨?_, by simp [rowLine]⟩
    rw [isClosedRow, rowLine, List.getLast?_append]
    rfl
  have hbar : ['|'] ∉ g.examples := fun hmem => (hclosed _ hmem).2 rfl
  refine ⟨?_, fun hhead => hbar (List.mem_of_mem_head? hhead)⟩
  simp only [rowsAreRead, Bool.and_eq_true, List.all_eq_true]
  exact ⟨fun l hl => (hclosed l hl).1, by simp [hbar]⟩

theorem map_rowLine_readCells : (readCells g.examples).map rowLine = g.examples := by
  rw [readCells, if_neg hg.rowsAreRead_examples.2, List.map_map]
  refine (List.map_congr_left fun l hl => ?_).trans (List.map_id _)
  obtain ⟨cs, hne, hcells, rfl⟩ := hg.rows l hl
  simp [cells_rowLine hne hcells]

/-! ### Sections -/

/-- The section of a regular group is read to its end unless its first step continues another
one. -/
theorem isRead_toSection (hkept : IsKeptGroup g) (lang : Language) (n : Nat) :
    (g.toSection lang n).isRead lang = !g.beginsWithContinuation := by
  rw [Section.isRead, steps_toSection, hg.readBody_translatedSteps hkept]
  unfold Group.toSection
  split
  · simp [hg.exampleRows_examples, hg.rowsAreRead_examples.1]
  · simp

/-- **The section of a regular group** is read as it is. -/
theorem asRead_toSection (hkept : IsKeptGroup g) (hfirst : g.beginsWithContinuation = false)
    (lang : Language) (n : Nat) : (g.toSection lang n).asRead lang = g.toSection lang n := by
  have hlines := hg.readLines_translatedSteps hkept hfirst lang
  unfold Group.toSection
  split
  · simp only [Section.asRead, hlines, hg.exampleRows_examples, hg.map_rowLine_readCells]
    rfl
  · simp only [Section.asRead, hlines]
    rfl

end Group.IsRegular

/-! ## Documents -/

section Groups

variable {gs : List Group} (hkept : ∀ g ∈ gs, IsKeptGroup g)
  (hregular : ∀ g ∈ gs, g.steps ≠ [] → g.IsRegular)

include hkept hregular

/-- The sections of regular groups are all read unless one of the groups begins with a step that
continues another one. -/
theorem all_isRead_sectionsOf (lang : Language) (n : Nat) :
    (sectionsOf lang n gs).all (Section.isRead · lang) = !gs.any Group.beginsWithContinuation := by
  induction gs generalizing n with
  | nil => rfl
  | cons g gs ih =>
    have hrest := ih (fun h hh => hkept h (List.mem_cons_of_mem g hh))
      fun h hh => hregular h (List.mem_cons_of_mem g hh)
    rw [sectionsOf]
    split
    · rename_i hsteps
      have hfirst : g.beginsWithContinuation = false := by
        simp [Group.beginsWithContinuation, hsteps]
      rw [hrest, List.any_cons, hfirst, Bool.false_or]
    · rename_i hsteps
      have hg := hregular g List.mem_cons_self hsteps
      rw [List.all_cons, hrest, List.any_cons, Bool.not_or,
        hg.isRead_toSection (hkept g List.mem_cons_self)]

theorem map_asRead_sectionsOf (hfirst : ∀ g ∈ gs, g.beginsWithContinuation = false)
    (lang : Language) (n : Nat) :
    (sectionsOf lang n gs).map (Section.asRead · lang) = sectionsOf lang n gs := by
  refine (List.map_congr_left fun r hr => ?_).trans (List.map_id _)
  obtain ⟨g, hg, hsteps, m, rfl⟩ := exists_group_of_mem_sectionsOf hr
  exact (hregular g hg hsteps).asRead_toSection (hkept g hg) (hfirst g hg) lang m

end Groups

/-- **The document of a story** whose steps and rows are spelled out is read back as it is, in every
field, unless a group begins with a step that continues another one.  Then nothing can be read. -/
theorem read?_generated_eq {settings : PipelineSettings} {story : Story} {feature : Feature}
    {steps : Synthesis} (h : Outcome.ofText settings t = .generated story feature steps)
    (hregular : ∀ g ∈ story.groups, g.steps ≠ [] → g.IsRegular) :
    Feature.read? feature.fileName feature.text =
      if story.groups.any Group.beginsWithContinuation then none else some feature := by
  obtain ⟨hstory, -, hfeature, -⟩ := Outcome.ofText_eq_generated_iff.1 h
  have hkept : ∀ g ∈ story.groups, IsKeptGroup g := by
    rw [hstory]
    exact fun g => isKeptGroup_of_mem_groups
  have hplain : ∀ r ∈ story.sections, ∀ l ∈ r.steps,
      beginsWith (dialectOf story.language).partMarks l = false := by
    intro r hr
    obtain ⟨g, hg, hsteps, n, rfl⟩ := exists_group_of_mem_sectionsOf hr
    rw [steps_toSection]
    exact (hregular g hg hsteps).not_partMarks story.language
  have hall : story.sections.all (Section.isRead · story.language) =
      !story.groups.any Group.beginsWithContinuation :=
    all_isRead_sectionsOf hkept hregular story.language 0
  rw [read?_generated h hplain, hall]
  cases hany : story.groups.any Group.beginsWithContinuation with
  | true => rfl
  | false =>
    have hfirst : ∀ g ∈ story.groups, g.beginsWithContinuation = false := fun g hg => by
      simpa using List.any_eq_false.1 hany g hg
    have hsame : story.sections.map (Section.asRead · story.language) = story.sections :=
      map_asRead_sectionsOf hkept hregular hfirst story.language 0
    rw [hsame, hfeature]
    rfl

/-- A story with a table, whose keywords are of both languages. -/
def voucherStory : Text :=
  Text.unlines
    ["# language: en".toList, "As a customer".toList, "I want to pay".toList,
      "So that the goods are mine".toList, "[SUCCESS]@voucher".toList,
      "dado a cart with <count> items".toList, "And a \"voucher\"".toList,
      "When I pay # in full".toList, "[EXAMPLES]".toList, "| count |".toList, "| 2 |".toList]

/-- The document of the story is read back as it is. -/
theorem read?_voucherStory :
    let story := Story.ofText .portuguese voucherStory
    let feature := Feature.ofStory story 5
    Outcome.ofText {} voucherStory = .generated story feature (Synthesis.ofFeature feature) ∧
      (∀ g ∈ story.groups, g.steps ≠ [] → g.IsRegular) ∧
      Feature.read? feature.fileName feature.text = some feature := by
  intro story feature
  have hvalid : story.validate.isValid = true := by decide +kernel
  have hgenerated : Outcome.ofText {} voucherStory =
      .generated story feature (Synthesis.ofFeature feature) :=
    Outcome.ofText_eq_generated_iff.2 ⟨rfl, hvalid, rfl, rfl⟩
  have hregular : ∀ g ∈ story.groups, g.steps ≠ [] → g.IsRegular := by decide +kernel
  have hfirst : story.groups.any Group.beginsWithContinuation = false := by decide +kernel
  refine ⟨hgenerated, hregular, ?_⟩
  have hread := read?_generated_eq hgenerated hregular
  rwa [hfirst] at hread

/-- A story whose only group begins with a step that continues another one. -/
def continuedStory : Text :=
  Text.unlines
    ["# language: en".toList, "As a customer".toList, "I want to pay".toList,
      "So that the goods are mine".toList, "[SUCCESS]".toList, "And I pay".toList,
      "Then the goods are mine".toList]

/-- The document of the story is made, and it cannot be read. -/
theorem read?_continuedStory :
    let story := Story.ofText .portuguese continuedStory
    let feature := Feature.ofStory story 5
    Outcome.ofText {} continuedStory = .generated story feature (Synthesis.ofFeature feature) ∧
      (∀ g ∈ story.groups, g.steps ≠ [] → g.IsRegular) ∧
      Feature.read? feature.fileName feature.text = none := by
  intro story feature
  have hvalid : story.validate.isValid = true := by decide +kernel
  exact ⟨Outcome.ofText_eq_generated_iff.2 ⟨rfl, hvalid, rfl, rfl⟩, by decide +kernel,
    by decide +kernel⟩

end StorySpec
