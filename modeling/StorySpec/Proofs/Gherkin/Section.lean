import StorySpec.Proofs.Gherkin.Scenario

/-!
# Sections in Gherkin documents

A section of a document is read as a scenario whose title, tags, steps and examples are those of
the section, if its lines are steps from the first word for one on and its rows make up a table.
Otherwise the reading of the document comes to a stop within the section.

## Main definitions

* `dialectOf l`: the dialect in which documents of the language `l` are read.
* `readExamples? s`, `readSection? s`: what the section `s` is read as.
* `IsWritten s`: the section `s` consists of lines that may be written.

## Main results

* `many_examples`: what the rows of a section are read as.
* `scenario_section`: what a section is read as at its place in a document.
* `many_nextScenario`: what the sections of a document are read as.
-/

namespace StorySpec.Gherkin

open StorySpec.Gherkin.Parser

variable {d : Dialect} {n : Nat} {t u v : Text} {ls : List Text} {lang : Language} {s : Section}

/-! ## Languages and dialects -/

/-- The dialect in which the documents of a language are read. -/
def dialectOf : Language → Dialect
  | .portuguese => .portuguese
  | .english => .english

theorem isPlain_dialectOf (lang : Language) : (dialectOf lang).IsPlain := by
  cases lang <;> exact ⟨by unfold SpacedWords; decide, by decide, by decide⟩

/-! ## Examples -/

/-- The examples that the rows of a section are read as: there is nothing to read in a plain
section, and in an outline all rows have to be closed and to make up a table. -/
def readExamples? (s : Section) : Option (List Examples) :=
  if s.outline then
    if s.exampleRows.all isClosedRow then
      (alignedTable? (s.exampleRows.map rowCells)).map fun rows => [{ table := some rows }]
    else none
  else some []

/-- The text of the examples of a section, before the text `u`. -/
def examplesText (s : Section) (lang : Language) (u : Text) : Text :=
  if s.outline then block 4 [lang.words.examples ++ [':']] (block 6 s.exampleRows u) else u

theorem stuck_rows (hd : d.IsPlain) (hrows : AreRows ls) (hne : ls ≠ []) (n : Nat) (u : Text) :
    Stuck d (settle (block n ls u)) := by
  obtain ⟨l, ls, rfl⟩ := List.exists_cons_of_ne_nil hne
  have hbar := hrows.bar l List.mem_cons_self
  rw [hrows.settle_cons]
  refine stuck_line hd (hrows.isLine l List.mem_cons_self) (isSilent_of_bar hbar) ?_ _
  obtain ⟨r, rfl⟩ := List.head?_eq_some_iff.1 hbar
  refine List.any_eq_false.2 fun w hw hprefix => ?_
  obtain ⟨hempty, hfirst⟩ : w ≠ [] ∧ w.head? ≠ some '|' := by
    rcases List.mem_cons.1 hw with rfl | hw
    · decide
    · obtain ⟨hempty, -, hfirst⟩ := hd.head w (List.mem_append_right _ hw)
      exact ⟨hempty, hfirst⟩
  obtain ⟨c, w, rfl⟩ := List.exists_cons_of_ne_nil hempty
  obtain ⟨x, hx⟩ := List.isPrefixOf_iff_prefix.1 hprefix
  rw [List.cons_append, List.cons.injEq] at hx
  exact hfirst (congrArg some hx.1)

/-- The line that announces examples is read as their header. -/
theorem header_examples (lang : Language) (u : Text) :
    header (dialectOf lang).examples (lang.words.examples ++ ':' :: '\n' :: u) =
      some (([], []), settle u) := by
  have hsettled : Settled (lang.words.examples ++ ':' :: '\n' :: u) := by
    cases lang <;> (intro c hc; cases hc; decide)
  have hat : (lang.words.examples ++ ':' :: '\n' :: u).head? ≠ some '@' := by
    cases lang <;> (intro h; cases h)
  have hword : oneOf (dialectOf lang).examples (lang.words.examples ++ ':' :: '\n' :: u) =
      some (lang.words.examples, ':' :: '\n' :: u) := by
    cases lang <;> rfl
  rw [header, bind_apply, hsettled.spaces, Option.bind_some, bind_apply, tags_of_head hsettled hat,
    Option.bind_some, bind_apply, hsettled.spaces, Option.bind_some, bind_apply, titled,
    bind_apply, hsettled.keyword, hword, Option.bind_some, title_empty]
  rfl

section Rows

variable (hd : d.IsPlain) (hrows : AreRows ls) (hne : ls ≠ []) (hu : Settled (settle u))
  (hbar : (settle u).head? ≠ some '|')

include hd hrows hne hu hbar

/-- No description stands between the header of examples and their rows. -/
theorem examplesBody_block (n : Nat) :
    examplesBody d (settle (block n ls u)) =
      match alignedTable? ((ls.takeWhile isClosedRow).map rowCells) with
      | some rows => some ({ table := some rows }, settle (block n (ls.dropWhile isClosedRow) u))
      | none => some ({ table := none }, settle (block n ls u)) := by
  have hsettled := (stuck_rows hd hrows hne n u).settled
  have hline : descriptionLine (d.scenarioWords ++ [['|']]) (settle (block n ls u)) = none := by
    obtain ⟨l, ls, rfl⟩ := List.exists_cons_of_ne_nil hne
    have hlbar := hrows.bar l List.mem_cons_self
    rw [hrows.settle_cons, descriptionLine_append, if_pos]
    · obtain ⟨r, rfl⟩ := List.head?_eq_some_iff.1 hlbar
      simp [beginsWith]
    · intro w hw
      rcases List.mem_append.1 hw with hw | hw
      · exact hd.scenarioWords_noBreak w hw
      · rw [List.mem_singleton.1 hw]; decide
    · exact hrows.isLine l List.mem_cons_self
    · exact isSilent_of_bar hlbar
    · rw [hlbar]; decide
  rw [examplesBody, bind_apply, description_of_none hsettled hline, Option.bind_some, bind_apply]
  have htable := table_block (n := n) hrows hu hbar
  cases haligned : alignedTable? ((ls.takeWhile isClosedRow).map rowCells) with
  | some rows =>
    rw [haligned] at htable
    rw [optional_of_some htable]
    rfl
  | none =>
    rw [haligned] at htable
    rw [optional_of_none htable]
    rfl

end Rows

theorem settle_examplesText (lang : Language) (houtline : s.outline = true) (u : Text) :
    settle (examplesText s lang u) =
      lang.words.examples ++ ':' :: '\n' :: block 6 s.exampleRows u := by
  have hline : IsLine (lang.words.examples ++ [':']) ∧
      isSilent (lang.words.examples ++ [':']) = false := by
    cases lang <;> exact ⟨⟨by decide, by decide⟩, by decide⟩
  rw [examplesText, if_pos houtline, settle_block_cons_of_loud 4 hline.1 hline.2]
  simp

theorem examples_examplesText (lang : Language) (houtline : s.outline = true) (u : Text) :
    examples (dialectOf lang) (settle (examplesText s lang u)) =
      examplesBody (dialectOf lang) (settle (block 6 s.exampleRows u)) := by
  have hsettled : Settled (lang.words.examples ++ ':' :: '\n' :: block 6 s.exampleRows u) := by
    cases lang <;> (intro c hc; cases hc; decide)
  rw [settle_examplesText lang houtline, examples_eq hsettled, bind_apply, header_examples]
  rfl

/-- What is left of the rows of an outline is shorter than its examples. -/
theorem length_settle_rows_lt (lang : Language) (houtline : s.outline = true) {rest : List Text}
    (hrest : rest <:+ s.exampleRows) (u : Text) :
    (settle (block 6 rest u)).length < (settle (examplesText s lang u)).length ∧
      (settle (block 6 rest u)).length ≤ (examplesText s lang u).length := by
  have hle := (length_settle_le _).trans (length_block_le_of_suffix 6 hrest u)
  rw [settle_examplesText lang houtline, examplesText, if_pos houtline, block_cons]
  simp
  omega

/-- Where rows are left over, no more examples are read, and nothing else begins. -/
theorem many_examples_of_rows_left (hrows : AreRows s.exampleRows) (houtline : s.outline = true)
    {rest : List Text} (hrest : rest <:+ s.exampleRows) (hne : rest ≠ []) {e : Examples}
    (he : examples (dialectOf lang) (settle (examplesText s lang u)) =
      some (e, settle (block 6 rest u))) :
    ∃ found t, many (examples (dialectOf lang)) (settle (examplesText s lang u)) = some (found, t) ∧
      Stuck (dialectOf lang) t ∧ t.length ≤ (examplesText s lang u).length := by
  obtain ⟨hlt, hle⟩ := length_settle_rows_lt lang houtline hrest u
  have hstuck := stuck_rows (isPlain_dialectOf lang) (hrows.of_suffix hrest) hne 6 u
  refine ⟨[e], _, ?_, hstuck, hle⟩
  rw [many_cons he hlt, many_of_none hstuck.examples]
  rfl

/-- **The rows of a section** are read as its examples, or the reading stops at one of them. -/
theorem many_examples (hrows : AreRows s.exampleRows)
    (hne : s.outline = true → s.exampleRows ≠ []) (hu : Closing (dialectOf lang) (settle u)) :
    (∀ found, readExamples? s = some found →
        many (examples (dialectOf lang)) (settle (examplesText s lang u)) =
          some (found, settle u)) ∧
      (readExamples? s = none → ∃ found t,
        many (examples (dialectOf lang)) (settle (examplesText s lang u)) = some (found, t) ∧
          Stuck (dialectOf lang) t ∧ t.length ≤ (examplesText s lang u).length) := by
  have hd := isPlain_dialectOf lang
  cases houtline : s.outline with
  | false =>
    simp only [readExamples?, examplesText, houtline]
    refine ⟨?_, nofun⟩
    rintro found ⟨⟩
    exact many_of_none hu.examples
  | true =>
    have hne := hne houtline
    have hbody := examplesBody_block (d := dialectOf lang) hd hrows hne hu.settled
      hu.noArgument.head?_ne 6
    have hexamples := examples_examplesText lang houtline u
    rw [hbody] at hexamples
    simp only [readExamples?, houtline, if_true]
    cases haligned : alignedTable? ((s.exampleRows.takeWhile isClosedRow).map rowCells) with
    | none =>
      rw [haligned] at hexamples
      have hnone : (if s.exampleRows.all isClosedRow = true then
          (alignedTable? (s.exampleRows.map rowCells)).map fun rows =>
            [({ table := some rows } : Examples)]
          else none) = none := by
        split
        · rename_i hall
          rw [List.takeWhile_eq_self_iff.2 (List.all_eq_true.1 hall)] at haligned
          rw [haligned]
          rfl
        · rfl
      rw [hnone]
      -- closed rows that make up no table are not read at all
      exact ⟨nofun, fun _ =>
        many_examples_of_rows_left hrows houtline (List.suffix_refl _) hne hexamples⟩
    | some rows =>
      rw [haligned] at hexamples
      by_cases hall : s.exampleRows.all isClosedRow = true
      · have hclosed := List.all_eq_true.1 hall
        rw [List.takeWhile_eq_self_iff.2 hclosed] at haligned
        rw [List.dropWhile_eq_nil_iff.2 hclosed] at hexamples
        rw [if_pos hall, haligned]
        refine ⟨?_, nofun⟩
        rintro found ⟨⟩
        rw [many_cons hexamples (length_settle_rows_lt lang houtline List.nil_suffix u).1,
          block_nil, many_of_none hu.examples]
        rfl
      · have hover : s.exampleRows.dropWhile isClosedRow ≠ [] := fun hnil =>
          hall (List.all_eq_true.2 (List.dropWhile_eq_nil_iff.1 hnil))
        rw [if_neg hall]
        exact ⟨nofun, fun _ =>
          many_examples_of_rows_left hrows houtline (List.dropWhile_suffix _) hover hexamples⟩

/-! ## Sections -/

/-- A section that consists of lines that may be written. -/
structure IsWritten (s : Section) : Prop where
  tags : ∃ names, names ≠ [] ∧ (∀ name ∈ names, IsTagName name) ∧ s.tags = names.map ('@' :: ·)
  title : IsLine s.title
  title_ne_nil : s.title ≠ []
  steps : ∀ l ∈ s.steps, IsLine l
  rows : AreRows s.exampleRows
  rows_ne_nil : s.outline = true → s.exampleRows ≠ []

/-- The scenario that a section is read as: no line of its steps may be left over, and its rows
have to be read as examples. -/
def Dialect.readSection? (d : Dialect) (s : Section) : Option Scenario :=
  if (d.readBody s.steps).2 = [] then
    (readExamples? s).map fun found =>
      { name := s.title
        tags := s.tags.map (·.drop 1)
        steps := (d.readBody s.steps).1
        examples := found }
  else none

/-- The word before the title of a section. -/
def headword (s : Section) (lang : Language) : Text :=
  if s.outline then lang.words.outline else lang.words.scenario

/-- The title of a section and what follows it. -/
def titleText (s : Section) (lang : Language) (u : Text) : Text :=
  headword s lang ++ ':' :: ' ' :: (s.title ++ '\n' :: block 4 s.steps (examplesText s lang u))

theorem settled_titleText (s : Section) (lang : Language) (u : Text) :
    Settled (titleText s lang u) ∧ (titleText s lang u).head? ≠ some '@' := by
  unfold titleText headword
  split <;> cases lang <;> exact ⟨by intro c hc; cases hc; decide, by intro h; cases h⟩

/-- The title is known by its own word, and not taken for that of something else. -/
theorem titled_titleText (hs : IsWritten s) (lang : Language) (u : Text) :
    titled (if s.outline then (dialectOf lang).outline else (dialectOf lang).scenario)
        (titleText s lang u) =
      some (s.title, settle (block 4 s.steps (examplesText s lang u))) ∧
    titled (dialectOf lang).examples (titleText s lang u) = none ∧
    (s.outline = true → titled (dialectOf lang).scenario (titleText s lang u) = none) := by
  have hsettled := (settled_titleText s lang u).1
  refine ⟨?_, titled_of_not_beginsWith hsettled ?_,
    fun houtline => titled_of_not_beginsWith hsettled ?_⟩
  · have hword : oneOf (if s.outline then (dialectOf lang).outline else (dialectOf lang).scenario)
          (titleText s lang u) =
        some (headword s lang,
          ':' :: ' ' :: (s.title ++ '\n' :: block 4 s.steps (examplesText s lang u))) := by
      unfold titleText headword
      cases s.outline <;> cases lang <;> rfl
    rw [titled, bind_apply, hsettled.keyword, hword, Option.bind_some,
      title_line hs.title hs.title_ne_nil]
  · unfold titleText headword
    cases s.outline <;> cases lang <;> rfl
  · unfold titleText headword
    rw [houtline]
    cases lang <;> rfl

section Named

variable {names : List Text} (hne : names ≠ []) (hnames : ∀ name ∈ names, IsTagName name)
  (htags : s.tags = names.map ('@' :: ·))

include hne htags

theorem settle_lines (lang : Language) (u : Text) :
    settle (Text.unlines (s.lines lang) ++ u) =
      tagLine names ++ '\n' :: (List.replicate 2 ' ' ++ titleText s lang u) := by
  have hsettled :
      Settled (tagLine names ++ '\n' :: (List.replicate 2 ' ' ++ titleText s lang u)) := by
    obtain ⟨r, hr⟩ := exists_tagLine_append hne _
    rw [hr]
    exact settled_at r
  have hshape : Text.unlines (s.lines lang) ++ u = '\n' :: (List.replicate 2 ' ' ++
      (tagLine names ++ '\n' :: (List.replicate 2 ' ' ++ titleText s lang u))) := by
    unfold Section.lines titleText headword examplesText tagLine
    rw [htags]
    cases s.outline <;> simp [indented, block]
  rw [hshape, settle_newline, settle_replicate_space 2 hsettled.head, hsettled.settle]

end Named

/-- The parts of a scenario are over where the next section begins. -/
theorem closing_lines (hs : IsWritten s) (lang : Language) (u : Text) :
    Closing (dialectOf lang) (settle (Text.unlines (s.lines lang) ++ u)) := by
  obtain ⟨names, hne, hnames, htags⟩ := hs.tags
  obtain ⟨hsettled, hat⟩ := settled_titleText s lang u
  rw [settle_lines hne htags]
  obtain ⟨r, hr⟩ := exists_tagLine_append hne
    ('\n' :: (List.replicate 2 ' ' ++ titleText s lang u))
  refine ⟨?_, ?_⟩
  · rw [hr]
    intro c hc
    cases hc
    rfl
  · have hstart := settled_at r
    rw [← hr] at hstart
    rw [examples_eq hstart, bind_apply, header_tagged hne hnames hsettled hat,
      (titled_titleText hs lang u).2.1]
    rfl

theorem closing_nil (lang : Language) : Closing (dialectOf lang) [] := by
  refine ⟨nofun, ?_⟩
  rw [examples_eq settled_nil, bind_apply, header_of_not_titled settled_nil (by simp)
    (by cases lang <;> rfl)]
  rfl

/-- The place before the examples of a section, or before what follows it, ends the steps. -/
theorem examplesText_ends_steps (hu : Closing (dialectOf lang) (settle u)) :
    NoArgument (settle (examplesText s lang u)) ∧
      descriptionLine (dialectOf lang).scenarioWords (settle (examplesText s lang u)) = none ∧
      beginsWith (dialectOf lang).stepKeywords (settle (examplesText s lang u)) = false := by
  cases houtline : s.outline with
  | false =>
    have hwords := (isPlain_dialectOf lang).scenarioWords_head
    rw [examplesText, houtline]
    exact ⟨hu.noArgument, hu.descriptionLine hwords,
      hu.not_beginsWith fun w hw => hwords w (List.mem_append_right _ hw)⟩
  | true =>
    have hline : IsLine (lang.words.examples ++ [':']) ∧
        isSilent (lang.words.examples ++ [':']) = false := by
      cases lang <;> exact ⟨⟨by decide, by decide⟩, by decide⟩
    have hshape : settle (examplesText s lang u) =
        lang.words.examples ++ [':'] ++ '\n' :: block 6 s.exampleRows u := by
      rw [settle_examplesText lang houtline]
      simp
    rw [hshape]
    refine ⟨noArgument_append hline.1 hline.2 (by cases lang <;> decide) _, ?_, ?_⟩
    · rw [descriptionLine_append (isPlain_dialectOf lang).scenarioWords_noBreak hline.1 hline.2
        (by cases lang <;> decide), if_pos (by cases lang <;> decide)]
    · rw [beginsWith_append fun w hw => ((isPlain_dialectOf lang).spaced w hw).2]
      cases lang <;> decide

/-- A section is read as its header and what stands under it. -/
theorem scenario_lines (hs : IsWritten s) {names : List Text} (hne : names ≠ [])
    (hnames : ∀ name ∈ names, IsTagName name) (htags : s.tags = names.map ('@' :: ·))
    {sc : Scenario} (h : scenarioBody (dialectOf lang) names s.title
      (settle (block 4 s.steps (examplesText s lang u))) = some (sc, t)) :
    scenario (dialectOf lang) (settle (Text.unlines (s.lines lang) ++ u)) = some (sc, t) := by
  obtain ⟨hsettled, hat⟩ := settled_titleText s lang u
  obtain ⟨htitled, -, hother⟩ := titled_titleText hs lang u
  have hstart := (closing_lines hs lang u).settled
  rw [settle_lines hne htags] at hstart ⊢
  have hmarked : ∀ ws, scenarioMarked (dialectOf lang) ws
      (tagLine names ++ '\n' :: (List.replicate 2 ' ' ++ titleText s lang u)) =
        (titled ws (titleText s lang u)).bind fun x =>
          scenarioBody (dialectOf lang) names x.1 x.2 := by
    intro ws
    rw [scenarioMarked_eq hstart, bind_apply, header_tagged hne hnames hsettled hat]
    cases titled ws (titleText s lang u) <;> rfl
  -- the words for a scenario are tried first, and an outline is not marked by any of them
  cases houtline : s.outline with
  | false =>
    rw [if_neg (by simp [houtline])] at htitled
    refine orElse_of_some ?_
    rw [hmarked, htitled]
    exact h
  | true =>
    rw [if_pos houtline] at htitled
    rw [scenario, orElse_of_none]
    · rw [hmarked, htitled]
      exact h
    · rw [hmarked, hother houtline]
      rfl

theorem scenarioBody_eq (d : Dialect) (labels : List Text) (name : Text) (t : Text) :
    scenarioBody d labels name t =
      ((do description d.scenarioWords; steps d) t).bind fun found =>
        (many (examples d) found.2).map fun tables : List Examples × Text =>
          ({ name, tags := labels, steps := found.1, examples := tables.1 }, tables.2) := by
  have hassoc : scenarioBody d labels name = (do
      let found ← (do description d.scenarioWords; steps d : Parser (List Step))
      let tables ← many (examples d)
      return { name, tags := labels, steps := found, examples := tables }) := by
    simp only [scenarioBody, bind_assoc]
  rw [hassoc, bind_apply]
  rfl

theorem length_lt_settle_lines (hs : IsWritten s) (lang : Language) (u : Text) :
    (block 4 s.steps (examplesText s lang u)).length <
      (settle (Text.unlines (s.lines lang) ++ u)).length := by
  obtain ⟨names, hne, -, htags⟩ := hs.tags
  rw [settle_lines hne htags, titleText]
  simp
  omega

theorem length_le_length_examplesText (s : Section) (lang : Language) (u : Text) :
    u.length ≤ (examplesText s lang u).length := by
  unfold examplesText
  split
  · exact (length_le_length_block 6 _ u).trans (length_le_length_block 4 _ _)
  · exact Nat.le_refl _

theorem length_settle_lt_lines (hs : IsWritten s) (lang : Language) (u : Text) :
    (settle u).length < (settle (Text.unlines (s.lines lang) ++ u)).length := by
  have hle := length_settle_le u
  have hexamples := length_le_length_examplesText s lang u
  have hblock := length_le_length_block 4 s.steps (examplesText s lang u)
  have hlines := length_lt_settle_lines hs lang u
  omega

/-- **A section** is read as one scenario.  Either all of it is read, or the reading comes to a stop
within it. -/
theorem scenario_section (hs : IsWritten s)
    (hplain : ∀ l ∈ s.steps, beginsWith (dialectOf lang).partMarks l = false)
    (hu : Closing (dialectOf lang) (settle u)) :
    (∀ sc, (dialectOf lang).readSection? s = some sc →
        scenario (dialectOf lang) (settle (Text.unlines (s.lines lang) ++ u)) =
          some (sc, settle u)) ∧
      ((dialectOf lang).readSection? s = none → ∃ sc t,
        scenario (dialectOf lang) (settle (Text.unlines (s.lines lang) ++ u)) = some (sc, t) ∧
          Stuck (dialectOf lang) t ∧
            t.length < (settle (Text.unlines (s.lines lang) ++ u)).length) := by
  obtain ⟨names, hne, hnames, htags⟩ := hs.tags
  have hd := isPlain_dialectOf lang
  have hlabels : s.tags.map (·.drop 1) = names := by
    rw [htags, List.map_map]
    exact List.map_id names
  obtain ⟨hargument, hdescription, hsteps⟩ := examplesText_ends_steps (s := s) hu
  obtain ⟨rest, hrest, hover, hrun⟩ := body_block (n := 4) hd hs.steps hplain hargument
    hdescription hsteps
  have hrestLine : ∀ l ∈ rest, IsLine l := fun l hl => hs.steps l (hrest.mem hl)
  have hbody := scenarioBody_eq (dialectOf lang) names s.title
    (settle (block 4 s.steps (examplesText s lang u)))
  have hlength := length_lt_settle_lines hs lang u
  rw [hrun, Option.bind_some] at hbody
  by_cases hdone : ((dialectOf lang).readBody s.steps).2 = []
  · obtain ⟨hread, hstop⟩ := many_examples hs.rows hs.rows_ne_nil hu
    rw [settle_block_of_loud_eq_nil 4 hrestLine (hover.trans hdone)] at hbody
    rw [Dialect.readSection?, if_pos hdone, hlabels]
    cases hexamples : readExamples? s with
    | some found =>
      rw [hread found hexamples] at hbody
      refine ⟨?_, nofun⟩
      rintro sc ⟨⟩
      exact scenario_lines hs hne hnames htags hbody
    | none =>
      obtain ⟨found, t, hmany, hstuck, hle⟩ := hstop hexamples
      rw [hmany] at hbody
      refine ⟨nofun, fun _ => ⟨_, t, scenario_lines hs hne hnames htags hbody, hstuck, ?_⟩⟩
      have hblock := length_le_length_block 4 s.steps (examplesText s lang u)
      omega
  · rw [Dialect.readSection?, if_neg hdone]
    have hstuck : Stuck (dialectOf lang) (settle (block 4 rest (examplesText s lang u))) := by
      rcases settle_block_cases 4 hrestLine (examplesText s lang u) with
        ⟨hnil, -⟩ | ⟨l, others, hsuffix, hloud, -, heq⟩
      · exact absurd (hover.symm.trans hnil) hdone
      · have hmem : l ∈ rest := hsuffix.mem List.mem_cons_self
        rw [heq]
        refine stuck_line hd (hrestLine l hmem) hloud ?_ _
        refine beginsWith_of_subset (fun w hw => ?_) (hplain l (hrest.mem hmem))
        rcases List.mem_cons.1 hw with rfl | hw
        · exact List.mem_cons_self
        · exact List.mem_cons_of_mem _ (List.mem_append_right _ hw)
    rw [many_of_none hstuck.examples] at hbody
    refine ⟨nofun, fun _ => ⟨_, settle (block 4 rest (examplesText s lang u)),
      scenario_lines hs hne hnames htags hbody, hstuck, ?_⟩⟩
    have hle := (length_settle_le _).trans
      (length_block_le_of_suffix 4 hrest (examplesText s lang u))
    omega

/-! ## All sections of a document -/

/-- A scenario, and the spaces before it. -/
def nextScenario (d : Dialect) : Parser Scenario := do
  spaces
  scenario d

/-- The text of some sections. -/
def sectionsText (sections : List Section) (lang : Language) : Text :=
  Text.unlines (sections.flatMap (·.lines lang))

theorem sectionsText_cons (s : Section) (sections : List Section) (lang : Language) :
    sectionsText (s :: sections) lang =
      Text.unlines (s.lines lang) ++ sectionsText sections lang := by
  rw [sectionsText, List.flatMap_cons, Text.unlines_append]
  rfl

theorem settle_sectionsText_nil (lang : Language) : settle (sectionsText [] lang) = [] :=
  settle_nil

theorem closing_sectionsText {sections : List Section} (hs : ∀ s ∈ sections, IsWritten s)
    (lang : Language) : Closing (dialectOf lang) (settle (sectionsText sections lang)) := by
  cases sections with
  | nil =>
    rw [settle_sectionsText_nil]
    exact closing_nil lang
  | cons s sections =>
    rw [sectionsText_cons]
    exact closing_lines (hs s List.mem_cons_self) lang _

theorem scenario_nil (lang : Language) : scenario (dialectOf lang) [] = none := by
  have hmarked : ∀ ws, beginsWith (ws.map (· ++ [':'])) [] = false →
      scenarioMarked (dialectOf lang) ws [] = none := by
    intro ws hws
    rw [scenarioMarked_eq settled_nil, bind_apply, header_of_not_titled settled_nil (by simp) hws]
    rfl
  rw [scenario, orElse_of_none (hmarked _ (by cases lang <;> rfl))]
  exact hmarked _ (by cases lang <;> rfl)

/-- A scenario takes something where it begins. -/
theorem length_lt_of_scenario {sections : List Section} (hs : ∀ s ∈ sections, IsWritten s)
    (hplain : ∀ s ∈ sections, ∀ l ∈ s.steps, beginsWith (dialectOf lang).partMarks l = false)
    {sc : Scenario}
    (h : scenario (dialectOf lang) (settle (sectionsText sections lang)) = some (sc, t)) :
    t.length < (settle (sectionsText sections lang)).length := by
  cases sections with
  | nil =>
    rw [settle_sectionsText_nil, scenario_nil] at h
    cases h
  | cons s sections =>
    have hwritten := hs s List.mem_cons_self
    have hrest := closing_sectionsText (fun r hr => hs r (List.mem_cons_of_mem s hr)) lang
    obtain ⟨hread, hstop⟩ := scenario_section hwritten (hplain s List.mem_cons_self) hrest
    rw [sectionsText_cons] at h ⊢
    cases hsection : (dialectOf lang).readSection? s with
    | some found =>
      rw [hread found hsection] at h
      cases h
      exact length_settle_lt_lines hwritten lang _
    | none =>
      obtain ⟨found, r, hscenario, -, hlt⟩ := hstop hsection
      rw [hscenario] at h
      cases h
      exact hlt

/-- **The sections of a document** are read as scenarios one after the other, or the reading comes
to a stop within one of them. -/
theorem many_nextScenario {sections : List Section} (hs : ∀ s ∈ sections, IsWritten s)
    (hplain : ∀ s ∈ sections, ∀ l ∈ s.steps, beginsWith (dialectOf lang).partMarks l = false) :
    (∀ found, sections.mapM (dialectOf lang).readSection? = some found →
        many (nextScenario (dialectOf lang)) (settle (sectionsText sections lang)) =
          some (found, [])) ∧
      (sections.mapM (dialectOf lang).readSection? = none → ∃ found t,
        many (nextScenario (dialectOf lang)) (settle (sectionsText sections lang)) =
          some (found, t) ∧ Stuck (dialectOf lang) t) := by
  have hnext : ∀ {t : Text}, Settled t →
      nextScenario (dialectOf lang) t = scenario (dialectOf lang) t := by
    intro t ht
    rw [nextScenario, bind_apply, ht.spaces]
    rfl
  -- on the sections: where one of them is not read to its end, no scenario begins
  induction sections with
  | nil =>
    rw [settle_sectionsText_nil, List.mapM_nil]
    refine ⟨?_, nofun⟩
    rintro found ⟨⟩
    exact many_of_none ((hnext settled_nil).trans (scenario_nil lang))
  | cons s sections ih =>
    have hwritten := hs s List.mem_cons_self
    have hrest := closing_sectionsText (fun r hr => hs r (List.mem_cons_of_mem s hr)) lang
    have hsettled := (closing_lines hwritten lang (sectionsText sections lang)).settled
    obtain ⟨hread, hstop⟩ := scenario_section hwritten (hplain s List.mem_cons_self) hrest
    obtain ⟨hreadRest, hstopRest⟩ := ih (fun r hr => hs r (List.mem_cons_of_mem s hr))
      fun r hr => hplain r (List.mem_cons_of_mem s hr)
    rw [sectionsText_cons, List.mapM_cons]
    cases hsection : (dialectOf lang).readSection? s with
    | none =>
      obtain ⟨sc, t, hscenario, hstuck, hlt⟩ := hstop hsection
      refine ⟨nofun, fun _ => ⟨[sc], t, ?_, hstuck⟩⟩
      rw [many_cons ((hnext hsettled).trans hscenario) hlt,
        many_of_none ((hnext hstuck.settled).trans hstuck.scenario)]
      rfl
    | some sc =>
      have hscenario := (hnext hsettled).trans (hread sc hsection)
      rw [many_cons hscenario (length_settle_lt_lines hwritten lang _)]
      cases hsections : sections.mapM (dialectOf lang).readSection? with
      | some found =>
        refine ⟨?_, nofun⟩
        rintro all ⟨⟩
        rw [hreadRest found hsections]
        rfl
      | none =>
        obtain ⟨found, t, hmany, hstuck⟩ := hstopRest hsections
        refine ⟨nofun, fun _ => ⟨sc :: found, t, ?_, hstuck⟩⟩
        rw [hmany]
        rfl

end StorySpec.Gherkin
