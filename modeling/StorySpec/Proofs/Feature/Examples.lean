import StorySpec.Proofs.Feature.Written
import StorySpec.Proofs.Table.Reread

/-!
# The examples of a document

A story is looked at three times for its examples: a group announces them, its lines make up a
table or not, and the section of the group is an outline or not.  In a story without faults the
three go together, so that every outline has the table of its group, with a row that is written for
each row of the table.

The rows that are written are the rows of the lines, and the table is made of the lines.  When the
rows are read as lines once more, they make up the same table as long as no quote is at the end of
one of them.

## Main definitions

* `Table.IsWrittenAs table rows`: the rows `rows` show the table `table`.
* `Section.ShowsExamples r g`: the section `r` shows the examples of the group `g`.

## Main results

* `forall₂_sectionsOf`: the groups that have steps have one section each, in order.
* `showsExamples_of_isValid`: the examples of a story without faults.
* `ofLines_exampleRows_generated`: when the rows that are written make up the table once more.
-/

namespace StorySpec

variable {s : Story} {g : Group} {r : Section}

/-! ## Groups and their sections -/

/-- Rows that show a table: a row for the header, and one for each row of the table. -/
structure Table.IsWrittenAs (table : Table) (rows : List Text) : Prop where
  header_ne_nil : table.header ≠ []
  length : rows.length = table.rows.length + 1
  /-- Each row that is written has the cells of the row that it stands for. -/
  cells : rows.map cells = table.header :: table.rows
  aligned : ∀ row ∈ table.rows, row.length = table.header.length

/-- A section that shows the examples of a group, in the rows and in the table of an outline. -/
structure Section.ShowsExamples (r : Section) (g : Group) : Prop where
  outline_iff : r.outline = true ↔ g.examples ≠ []
  outline : r.outline = true → ∃ table, g.table = .ok table ∧ r.table = some table ∧
    r.exampleRows = StorySpec.exampleRows g.examples ∧ table.IsWrittenAs r.exampleRows
  plain : r.outline = false → r.exampleRows = [] ∧ r.table = none

/-- The groups that have steps have one section each, in order. -/
theorem forall₂_sectionsOf {R : Group → Section → Prop} {lang : Language} {gs : List Group}
    (hR : ∀ g ∈ gs, ∀ m, R g (g.toSection lang m)) (n : Nat) :
    List.Forall₂ R (gs.filter fun g => g.steps != []) (sectionsOf lang n gs) := by
  induction gs generalizing n with
  | nil => exact .nil
  | cons g gs ih =>
    have htail := ih fun g' hg' => hR g' (List.mem_cons_of_mem g hg')
    rw [sectionsOf]
    split
    · rename_i hsteps
      rw [List.filter_cons_of_neg (by simp [hsteps])]
      exact htail n
    · rename_i hsteps
      rw [List.filter_cons_of_pos (by simp [hsteps])]
      exact .cons (hR g List.mem_cons_self n) (htail _)

/-! ## Stories without faults -/

/-- The rows among some lines show the table that the lines make up. -/
theorem isWrittenAs_of_ofLines {lines : List Text} {table : Table}
    (h : Table.ofLines lines = .ok table) : table.IsWrittenAs (exampleRows lines) := by
  have hcells := Table.ofRows_eq_ok_iff.1 h
  refine ⟨?_, by simpa using congrArg List.length hcells, hcells, table.aligned⟩
  have hheader : table.header ∈ (exampleRows lines).map cells := by simp [hcells]
  obtain ⟨row, -, hrow⟩ := List.mem_map.1 hheader
  rw [← hrow]
  exact cells_ne_nil row

theorem showsExamples_toSection (htable : g.examples ≠ [] → ∃ table, g.table = .ok table)
    (lang : Language) (n : Nat) : (g.toSection lang n).ShowsExamples g := by
  unfold Group.toSection
  split
  · rename_i houtline
    have hne : g.examples ≠ [] := by simpa [Group.isOutline] using houtline
    obtain ⟨table, hok⟩ := htable hne
    refine ⟨iff_of_true rfl hne, fun _ => ⟨table, hok, ?_, rfl, isWrittenAs_of_ofLines hok⟩,
      fun hplain => Bool.noConfusion hplain⟩
    rw [hok]
    rfl
  · rename_i hplain
    refine ⟨iff_of_false Bool.false_ne_true ?_, fun houtline => Bool.noConfusion houtline,
      fun _ => ⟨rfl, rfl⟩⟩
    simpa [Group.isOutline] using hplain

/-- A group without faults whose examples are announced has examples, and only such a group has a
table. -/
theorem examples_iff_of_faults_eq_nil {i : Nat} (h : g.faults i = [])
    (hannounced : g.examples ≠ [] → g.declaresExamples = true) :
    (g.examples ≠ [] ↔ g.declaresExamples = true) ∧
      (g.examples ≠ [] ↔ ∃ table, g.table = .ok table) := by
  have htable := (Group.faults_eq_nil_iff.1 h).2
  have hexamples : (∃ table, g.table = .ok table) → g.examples ≠ [] := by
    rintro ⟨table, hok⟩ hnil
    refine exampleRows_ne_nil hok ?_
    rw [hnil]
    rfl
  exact ⟨⟨hannounced, fun hdeclares => hexamples (htable (Or.inl hdeclares))⟩,
    fun hne => htable (Or.inr hne), hexamples⟩

/-- The groups of a story without faults: examples, their announcement and a table go together. -/
theorem examples_iff_of_isValid {default : Language} {t : Text}
    (h : (Story.ofText default t).validate.isValid = true)
    (hg : g ∈ (Story.ofText default t).groups) :
    (g.examples ≠ [] ↔ g.declaresExamples = true) ∧
      (g.examples ≠ [] ↔ ∃ table, g.table = .ok table) := by
  obtain ⟨i, hi⟩ := exists_faults_eq_nil_of_isValid h hg
  refine examples_iff_of_faults_eq_nil hi fun hne => ?_
  -- only lines behind an announcement become examples
  rw [(ofText_segments default t).2.1] at hg
  obtain ⟨segment, -, rfl⟩ := List.mem_map.1 hg
  exact segment.declaresExamples_of_examples_ne_nil hne

/-- **The examples of a story without faults.**  A group has lines of examples exactly when it
announces examples, and exactly when it has a table.  The groups that have steps have one section
each, in order, and it is an outline with the table and the rows of the examples exactly when the
group has examples. -/
theorem showsExamples_of_isValid {default : Language} {t : Text}
    (h : (Story.ofText default t).validate.isValid = true) (n : Nat) :
    let story := Story.ofText default t
    (∀ g ∈ story.groups,
      (g.examples ≠ [] ↔ g.declaresExamples = true) ∧
        (g.examples ≠ [] ↔ ∃ table, g.table = .ok table)) ∧
    List.Forall₂ (fun g r => r.ShowsExamples g) (story.groups.filter fun g => g.steps != [])
      (Feature.ofStory story n).sections := by
  intro story
  refine ⟨fun g hg => examples_iff_of_isValid h hg, forall₂_sectionsOf (fun g hg m => ?_) 0⟩
  exact showsExamples_toSection (examples_iff_of_isValid h hg).2.1 story.language m

/-- A story with a group of steps and examples, with a group of examples alone and with a group of
steps alone; the first line of the examples is no row. -/
def harvestStory : Text :=
  Text.unlines
    ["As a farmer".toList, "I want to harvest".toList, "So that the barn is full".toList,
      "[SUCCESS]".toList, "Given <count> fields".toList, "[EXAMPLES]".toList, "of wheat".toList,
      "\"| count |\"".toList, "| 3".toList,
      "[RULE]".toList, "[EXAMPLES]".toList, "| day | yield |".toList,
      "[FAILURE]".toList, "When it rains".toList]

/-- The story has no faults; two of its groups have examples and two have sections. -/
theorem showsExamples_harvestStory :
    let story := Story.ofText .english harvestStory
    let feature := Feature.ofStory story 5
    story.validate.isValid = true ∧
      story.groups.map Group.isOutline = [true, true, false] ∧
      feature.sections.map (·.outline) = [true, false] ∧
      (∀ g ∈ story.groups,
        (g.examples ≠ [] ↔ g.declaresExamples = true) ∧
          (g.examples ≠ [] ↔ ∃ table, g.table = .ok table)) ∧
      List.Forall₂ (fun g r => r.ShowsExamples g) (story.groups.filter fun g => g.steps != [])
        feature.sections := by
  intro story feature
  have hvalid : story.validate.isValid = true := by decide +kernel
  refine ⟨hvalid, by decide +kernel, by decide +kernel, ?_⟩
  exact showsExamples_of_isValid hvalid 5

/-! ## The rows of outlines -/

/-- **The rows of outlines as lines.**  The rows among some lines make up what the lines do, a table
or an error, unless quotes at the ends of rows matter.  Every outline of a document has a table, and
its rows make up that table once more exactly when none of them has a quote at its end. -/
theorem ofLines_exampleRows_generated :
    (∀ lines : List Text,
      Table.ofLines (exampleRows lines) = Table.ofLines lines ↔
        match Table.ofLines lines with
        | .ok _ => ∀ row ∈ exampleRows lines, row.getLast? ≠ some '"'
        | .error .missingHeader => True
        | .error (.raggedRow last _ _) =>
          ∀ row ∈ (exampleRows lines).take last, ¬ GivesUpCell row) ∧
    ∀ (settings : PipelineSettings) (t : Text) (story : Story) (feature : Feature)
      (steps : Synthesis), Outcome.ofText settings t = .generated story feature steps →
      ∀ r ∈ feature.sections, r.outline = true →
        ∃ table, r.table = some table ∧
          (Table.ofLines r.exampleRows = .ok table ↔
            ∀ row ∈ r.exampleRows, row.getLast? ≠ some '"') := by
  refine ⟨Table.ofLines_exampleRows_eq_iff, ?_⟩
  intro settings t story feature steps h r hr houtline
  obtain ⟨rfl, hvalid, rfl, -⟩ := Outcome.ofText_eq_generated_iff.1 h
  obtain ⟨g, hg, -, m, rfl⟩ := exists_group_of_mem_sectionsOf hr
  have hshows := showsExamples_toSection (examples_iff_of_isValid hvalid hg).2.1
    (Story.ofText settings.defaultLanguage t).language m
  obtain ⟨table, hok, htable, hrows, -⟩ := hshows.outline houtline
  refine ⟨table, htable, ?_⟩
  have hiff := Table.ofLines_exampleRows_eq_iff g.examples
  rw [show Table.ofLines g.examples = .ok table from hok] at hiff
  rw [hrows]
  exact hiff

/-- The story has a document with one outline, whose rows make up its table once more. -/
theorem ofLines_exampleRows_harvestStory :
    let feature := Feature.ofStory (Story.ofText .english harvestStory) 5
    Outcome.ofText { defaultLanguage := .english } harvestStory =
        .generated (Story.ofText .english harvestStory) feature (Synthesis.ofFeature feature) ∧
      ∃ r ∈ feature.sections, r.outline = true ∧
        ∃ table, r.table = some table ∧ Table.ofLines r.exampleRows = .ok table := by
  intro feature
  have hvalid : (Story.ofText .english harvestStory).validate.isValid = true := by decide +kernel
  have hgenerated : Outcome.ofText { defaultLanguage := .english } harvestStory =
      .generated (Story.ofText .english harvestStory) feature (Synthesis.ofFeature feature) :=
    Outcome.ofText_eq_generated_iff.2 ⟨rfl, hvalid, rfl, rfl⟩
  have hlast : ∃ r ∈ feature.sections,
      r.outline = true ∧ ∀ row ∈ r.exampleRows, row.getLast? ≠ some '"' := by decide +kernel
  obtain ⟨r, hr, houtline, hquotes⟩ := hlast
  obtain ⟨table, htable, hiff⟩ :=
    ofLines_exampleRows_generated.2 _ _ _ _ _ hgenerated r hr houtline
  exact ⟨hgenerated, r, hr, houtline, table, htable, hiff.2 hquotes⟩

/-- A story with examples whose last row ends with two quotes. -/
def saleStory : Text :=
  Text.unlines
    ["As a farmer".toList, "I want to sell".toList, "So that the barn is empty".toList,
      "[SUCCESS]".toList, "Given a sack for <price>".toList, "[EXAMPLES]".toList,
      "|price".toList, "|10\"\"".toList]

/-- The second of the quotes is left out when the rows are written, and the first when they are read
again: the column of the table holds a text, and that of the rows a number. -/
theorem ofLines_exampleRows_saleStory :
    let lines := ["|price".toList, "|10\"\"".toList]
    let feature := Feature.ofStory (Story.ofText .english saleStory) 5
    let priceType (table : Table) := table.columnType "price".toList
    Table.ofLines (exampleRows lines) ≠ Table.ofLines lines ∧
      Outcome.ofText { defaultLanguage := .english } saleStory =
        .generated (Story.ofText .english saleStory) feature (Synthesis.ofFeature feature) ∧
      ∃ r ∈ feature.sections, r.outline = true ∧ r.exampleRows = exampleRows lines ∧
        r.table.map priceType = some .string ∧
        (Table.ofLines r.exampleRows).toOption.map priceType = some .int := by
  intro lines feature priceType
  have hvalid : (Story.ofText .english saleStory).validate.isValid = true := by decide +kernel
  refine ⟨fun h => ?_, Outcome.ofText_eq_generated_iff.2 ⟨rfl, hvalid, rfl, rfl⟩, ?_⟩
  · have htypes := congrArg (fun result => result.toOption.map priceType) h
    exact absurd htypes (by decide +kernel)
  · decide +kernel

end StorySpec
