import StorySpec.Proofs.Feature.Rows
import StorySpec.Proofs.Feature.Steps
import StorySpec.Proofs.Feature.Written

/-!
# Reading the document of a story

The document of a story is read section by section.  As long as no step opens another part of the
document, each section is read as one section with the same tags and the same title; its steps are
those among its lines that the grammar knows, and its rows are written anew from their cells.  The
document is read when every section is read to its end.

## Main definitions

* `Section.isRead s l`: whether a section is read to its end.
* `Section.asRead s l`: the section that it is read as.

## Main results

* `readBack?_eq`: what a section that is written is read as.
* `read?_generated`: what the document of a story is read as.
-/

namespace StorySpec

open Gherkin (IsWritten beginsWith dialectOf rowLine)

variable {s : Story} {g : Group} {r : Section} {t : Text} {lang : Language}

/-! ## Sections -/

namespace Section

/-- Whether a section is read to its end. -/
def isRead (r : Section) (lang : Language) : Bool :=
  ((dialectOf lang).readBody r.steps).2 == [] && (!r.outline || rowsAreRead r.exampleRows)

/-- The section that a section is read as. -/
def asRead (r : Section) (lang : Language) : Section :=
  { r with
    steps := readLines r.steps lang
    exampleRows := if r.outline then (readCells r.exampleRows).map rowLine else []
    table :=
      if r.outline then (Table.ofLines ((readCells r.exampleRows).map rowLine)).toOption
      else none }

/-- A section whose rows make up its table, and which has both exactly when it is an outline. -/
structure HasTable (r : Section) : Prop where
  /-- The rows of an outline make up its table. -/
  outline : r.outline = true → ∃ table,
    Table.ofRows (r.exampleRows.map cells) = .ok table ∧ r.table = some table
  /-- Other sections have neither. -/
  plain : r.outline = false → r.exampleRows = [] ∧ r.table = none

end Section

theorem hasTable_toSection (htable : g.examples ≠ [] → ∃ table, g.table = .ok table)
    (lang : Language) (n : Nat) : (g.toSection lang n).HasTable := by
  unfold Group.toSection
  split
  · rename_i houtline
    obtain ⟨table, hok⟩ := htable (by simpa [Group.isOutline] using houtline)
    refine ⟨fun _ => ⟨table, hok, ?_⟩, fun h => Bool.noConfusion h⟩
    rw [hok]
    rfl
  · exact ⟨fun h => Bool.noConfusion h, fun _ => ⟨rfl, rfl⟩⟩

theorem hasTable_of_mem_sections (hs : s.IsComplete) : ∀ r ∈ s.sections, r.HasTable := by
  intro r hr
  obtain ⟨g, hg, -, n, rfl⟩ := exists_group_of_mem_sectionsOf hr
  exact hasTable_toSection (hs.table g hg) s.language n

/-- The tags of a section that is written are read as they are. -/
theorem tags_read (h : IsWritten r) :
    (r.tags.map fun tag => '@' :: tag.tail.dropWhile (· == '@')) = r.tags := by
  obtain ⟨names, -, hnames, htags⟩ := h.tags
  rw [htags, List.map_map]
  refine List.map_congr_left fun name hname => ?_
  have hat : '@' ∉ name := fun hmem => ((hnames name hname).chars '@' hmem).2 rfl
  have hdrop : name.dropWhile (· == '@') = name := by
    cases name with
    | nil => rfl
    | cons c name =>
      rw [List.dropWhile_cons_of_neg]
      simpa using fun heq : c = '@' => hat (by simp [heq])
  simp [hdrop]

/-- The section that a section of a document comes to when the document is read. -/
def Section.readBack? (r : Section) (lang : Language) : Option Section :=
  ((dialectOf lang).readSection? r).map (Gherkin.Scenario.toSection · lang)

/-- **A section** that is written is read with its tags and its title, if it is read to its end. -/
theorem readBack?_eq (hr : IsWritten r) (ht : r.HasTable) (lang : Language) :
    r.readBack? lang = if r.isRead lang then some (r.asRead lang) else none := by
  have htitle := hr.title.trim
  -- the steps decide first, and the rows only when all steps are read
  by_cases hdone : ((dialectOf lang).readBody r.steps).2 = []
  · rw [Section.readBack?, Gherkin.Dialect.readSection?, if_pos hdone, Section.isRead, hdone]
    cases houtline : r.outline with
    | false =>
      have hexamples : Gherkin.readExamples? r = some [] := by
        simp [Gherkin.readExamples?, houtline]
      rw [hexamples]
      simp [Gherkin.Scenario.toSection, Gherkin.Scenario.exampleRows, Gherkin.mergedRows,
        Section.asRead, readLines, houtline, htitle, Function.comp_def, tags_read hr]
    | true =>
      obtain ⟨table, hok, -⟩ := ht.outline houtline
      rw [readExamples?_of_table houtline hok]
      by_cases hrows : rowsAreRead r.exampleRows = true
      · have hne : readCells r.exampleRows ≠ [] := readCells_ne_nil (hr.rows_ne_nil houtline)
        simp [Gherkin.Scenario.toSection, Gherkin.Scenario.exampleRows, Gherkin.mergedRows,
          Section.asRead, readLines, houtline, htitle, Function.comp_def, tags_read hr, hrows, hne]
      · simp [hrows]
  · simp [Section.readBack?, Gherkin.Dialect.readSection?, hdone, Section.isRead]

/-! ## Documents -/

/-- Sections are read when each of them is. -/
theorem mapM_readBack? {sections : List Section} (hs : ∀ r ∈ sections, IsWritten r)
    (ht : ∀ r ∈ sections, r.HasTable) (lang : Language) :
    sections.mapM (Section.readBack? · lang) =
      if sections.all (Section.isRead · lang) then some (sections.map (Section.asRead · lang))
      else none := by
  induction sections with
  | nil => rfl
  | cons r sections ih =>
    have hrest := ih (fun q hq => hs q (List.mem_cons_of_mem r hq))
      fun q hq => ht q (List.mem_cons_of_mem r hq)
    rw [List.mapM_cons, readBack?_eq (hs r List.mem_cons_self) (ht r List.mem_cons_self), hrest]
    cases hread : r.isRead lang with
    | false => simp [hread]
    | true => cases hall : sections.all (Section.isRead · lang) <;> simp [hread, hall]

/-- The sections that are found are the ones that the document comes to. -/
theorem mapM_readSection? (sections : List Section) (lang : Language) :
    (sections.mapM (dialectOf lang).readSection?).map
        (List.map (Gherkin.Scenario.toSection · lang)) =
      sections.mapM (Section.readBack? · lang) := by
  induction sections with
  | nil => rfl
  | cons r sections ih =>
    rw [List.mapM_cons, List.mapM_cons, ← ih, Section.readBack?]
    cases (dialectOf lang).readSection? r with
    | none => rfl
    | some found => cases sections.mapM (dialectOf lang).readSection? <;> rfl

/-- **The document of a story** is read when each of its sections is read to its end. -/
theorem read?_generated {settings : PipelineSettings} {feature : Feature} {steps : Synthesis}
    (h : Outcome.ofText settings t = .generated s feature steps)
    (hplain : ∀ r ∈ s.sections, ∀ l ∈ r.steps,
      beginsWith (dialectOf s.language).partMarks l = false) :
    Feature.read? feature.fileName feature.text =
      if s.sections.all (Section.isRead · s.language) then
        some { feature with sections := s.sections.map (Section.asRead · s.language) }
      else none := by
  obtain ⟨hstory, hvalid, rfl, -⟩ := Outcome.ofText_eq_generated_iff.1 h
  have hcomplete := isComplete_of_isValid hvalid
  have hkept : ∀ g ∈ s.groups, IsKeptGroup g := by
    rw [hstory]
    exact fun g => isKeptGroup_of_mem_groups
  have hheader : ∀ l ∈ s.header, l = [] ∨ IsContentLine l := by
    rw [hstory]
    exact header_ofText settings.defaultLanguage t
  have hwritten := isWritten_of_mem_sections hkept hcomplete
  have hlanguage : ∀ found, (Gherkin.Document.mk s.language.words.feature none found []).language =
      s.language := by
    intro found
    cases s.language <;> rfl
  have hdocument := Gherkin.ofText?_documentLines (hasHeader_of_isComplete hheader hcomplete)
    hwritten hplain
  have hread := mapM_readBack? hwritten (hasTable_of_mem_sections hcomplete) s.language
  rw [← mapM_readSection?] at hread
  rw [Feature.read?, Feature.ofStory, hdocument]
  cases hfound : s.sections.mapM (dialectOf s.language).readSection? with
  | none =>
    rw [hfound] at hread
    split at hread
    · cases hread
    · rw [if_neg ‹_›]
      rfl
  | some found =>
    rw [hfound] at hread
    split at hread
    · rw [if_pos ‹_›, ← Option.some.inj hread]
      simp [Feature.ofDocument, hlanguage, Gherkin.Document.sections, Gherkin.blockSections]
    · cases hread

end StorySpec
