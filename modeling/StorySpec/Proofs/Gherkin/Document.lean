import StorySpec.Feature.OfStory
import StorySpec.Proofs.Gherkin.Section

/-!
# Documents of stories as Gherkin documents

The grammar reads the document of a story as a feature in the dialect of its language.  The header
lines are comments to it, and what it finds below them are the scenarios that the sections are read
as.  When one of these is not read to its end, the document is not read at all.

## Main definitions

* `HasHeader s`: the header lines of the story `s` may be written.

## Main results

* `directive_header`: the first line names the dialect.
* `documentEnd_of_stuck`: a document cannot be read to its end where nothing begins.
* `ofText?_documentLines`: what the document of a story is read as.
-/

namespace StorySpec.Gherkin

open StorySpec.Gherkin.Parser

variable {t u : Text} {lang : Language} {sections : List Section}

/-! ## The first lines -/

/-- A story whose header lines may be written. -/
structure HasHeader (s : Story) : Prop where
  title : IsLine s.title
  title_ne_nil : s.title ≠ []
  lines : ∀ l ∈ [s.role, s.want, s.goal], IsLine l
  /-- No header line is missing. -/
  lines_ne_nil : ∀ l ∈ [s.role, s.want, s.goal], l ≠ []

/-- A header line is a comment in the document. -/
theorem isSilent_comment {l : Text} (hl : IsLine l) (hne : l ≠ []) :
    IsLine ("# ".toList ++ l) ∧ isSilent ("# ".toList ++ l) = true := by
  refine ⟨⟨?_, ?_⟩, rfl⟩
  · exact Text.trim_append (s := ['#']) [' '] (by decide) (by decide) hl.trim hne
  · simpa using hl.noBreak

/-- **The first line** names the dialect. -/
theorem directive_header (lang : Language) (u : Text) :
    directive ("# language: ".toList ++ (lang.code ++ '\n' :: u)) = some (lang.code, u) := by
  have hshape : "# language: ".toList ++ (lang.code ++ '\n' :: u) =
      '#' :: ' ' :: ("language".toList ++ ':' :: ' ' :: (lang.code ++ '\n' :: u)) := rfl
  have hskip : skipMany ((fun _ => ()) <$> satisfy isSpace <|> newline)
      ('#' :: ' ' :: ("language".toList ++ ':' :: ' ' :: (lang.code ++ '\n' :: u))) =
        some ((), '#' :: ' ' :: ("language".toList ++ ':' :: ' ' :: (lang.code ++ '\n' :: u))) := by
    refine skipMany_of_none ?_
    rw [orElse_of_none rfl]
    exact newline_of_head (by intro c hc; cases hc; decide)
  have hline : IsLine lang.code ∧ lang.code ≠ [] := by
    cases lang <;> exact ⟨⟨by decide, by decide⟩, by decide⟩
  have hcode : ∀ c ∈ (lang.code ++ '\n' :: u).head?, isSpace c = false := by
    cases lang <;> (intro c hc; cases hc; decide)
  rw [hshape, directive, bind_apply, hskip, Option.bind_some, bind_apply, word_singleton_cons,
    Option.bind_some, bind_apply, spaces_space, spaces_of_head (by intro c hc; cases hc; decide),
    Option.bind_some, bind_apply, word_append, Option.bind_some, bind_apply,
    spaces_of_head (by simp [isSpace]), Option.bind_some, bind_apply, word_singleton_cons,
    Option.bind_some, bind_apply, spaces_space, spaces_of_head hcode, Option.bind_some, bind_apply,
    restOfLine_append hline.1.isTail hline.2, Option.bind_some, bind_apply,
    spaces_of_head (by simp [isSpace]), Option.bind_some, bind_apply, lineEnd_newline]
  rfl

theorem ofCode?_code (lang : Language) : Dialect.ofCode? lang.code = some (dialectOf lang) := by
  cases lang <;> rfl

/-! ## The scenarios of a document -/

/-- The scenarios of a document are its sections as far as they are read. -/
theorem scenarios_sectionsText (hs : ∀ s ∈ sections, IsWritten s)
    (hplain : ∀ s ∈ sections, ∀ l ∈ s.steps, beginsWith (dialectOf lang).partMarks l = false) :
    scenarios (dialectOf lang) (settle (sectionsText sections lang)) =
      many (nextScenario (dialectOf lang)) (settle (sectionsText sections lang)) := by
  have hsettled := (closing_sectionsText hs lang).settled
  rw [scenarios, bind_apply, hsettled.spaces, Option.bind_some]
  exact sepBy_eq_many hsettled.spaces fun sc t h => length_lt_of_scenario hs hplain h

theorem rule_eq (d : Dialect) : rule d = (do
    let _ ← header d.rule
    description (d.background ++ d.scenario ++ d.outline)
    let before ← optional (background d)
    skipMany lineEnd
    let found ← scenarios d
    skipMany lineEnd
    return { background := before, scenarios := found }) := by
  simp only [rule, header, titled, bind_assoc, pure_bind]

/-- What follows the scenarios of a document, and the end of the document. -/
def documentEnd (d : Dialect) : Parser (List Rule) := do
  skipMany lineEnd
  spaces
  let grouped ← sepBy (rule d) spaces
  skipMany lineEnd
  atEnd
  return grouped

theorem documentEnd_nil (lang : Language) : documentEnd (dialectOf lang) [] = some ([], []) := by
  have hrule : rule (dialectOf lang) [] = none := by
    rw [rule_eq, bind_apply, header_of_not_titled settled_nil (by simp) (by cases lang <;> rfl)]
    rfl
  rw [documentEnd, bind_apply, settled_nil.skipMany_lineEnd, Option.bind_some, bind_apply,
    settled_nil.spaces, Option.bind_some, bind_apply, sepBy_of_none hrule, Option.bind_some,
    bind_apply, settled_nil.skipMany_lineEnd]
  rfl

/-- **A document** cannot be read to its end from a place where nothing begins. -/
theorem documentEnd_of_stuck {d : Dialect} (h : Stuck d t) : documentEnd d t = none := by
  have hrule : rule d t = none := by
    rw [rule_eq, bind_apply, h.header fun w hw => List.mem_map.2 ⟨w, by simp [hw], rfl⟩]
    rfl
  have hend : atEnd t = none := by
    obtain ⟨c, r, rfl⟩ := List.exists_cons_of_ne_nil h.ne_nil
    rfl
  rw [documentEnd, bind_apply, h.settled.skipMany_lineEnd, Option.bind_some, bind_apply,
    h.settled.spaces, Option.bind_some, bind_apply, sepBy_of_none hrule, Option.bind_some,
    bind_apply, h.settled.skipMany_lineEnd, Option.bind_some, bind_apply, hend]
  rfl

/-! ## Whole documents -/

/-- The text of a document behind its first line. -/
def featureText (s : Story) : Text :=
  s.language.words.feature ++ ':' :: ' ' :: (s.title ++ '\n' ::
    block 2 [("# ".toList ++ s.role), ("# ".toList ++ s.want), ("# ".toList ++ s.goal)]
      (sectionsText s.sections s.language))

theorem unlines_documentLines (s : Story) :
    Text.unlines s.documentLines =
      "# language: ".toList ++ (s.language.code ++ '\n' :: featureText s) := by
  simp [Story.documentLines, Story.headerLines, featureText, sectionsText, block, indented]

/-- The scenarios of a document and what follows them. -/
def documentBody (lang : Language) : Parser Document := do
  let outside ← scenarios (dialectOf lang)
  let grouped ← documentEnd (dialectOf lang)
  return Document.mk lang.words.feature none outside grouped

/-- Neither the title nor the header lines of a story matter to the grammar. -/
theorem feature_featureText {s : Story} (hheader : HasHeader s)
    (hs : ∀ r ∈ s.sections, IsWritten r) :
    feature (dialectOf s.language) (featureText s) =
      documentBody s.language (settle (sectionsText s.sections s.language)) := by
  have hclosing := closing_sectionsText hs s.language
  have hsettled : Settled (featureText s) ∧ (featureText s).head? ≠ some '@' := by
    unfold featureText
    cases s.language <;> exact ⟨by intro c hc; cases hc; decide, by intro h; cases h⟩
  have hcomments : ∀ l ∈ [("# ".toList ++ s.role), ("# ".toList ++ s.want),
      ("# ".toList ++ s.goal)], IsLine l ∧ isSilent l = true := by
    intro l hl
    obtain ⟨m, hm, rfl⟩ : ∃ m ∈ [s.role, s.want, s.goal], "# ".toList ++ m = l := List.mem_map.1 hl
    exact isSilent_comment (hheader.lines m hm) (hheader.lines_ne_nil m hm)
  have hword : oneOf (dialectOf s.language).feature (featureText s) =
      some (s.language.words.feature, ':' :: ' ' :: (s.title ++ '\n' ::
        block 2 [("# ".toList ++ s.role), ("# ".toList ++ s.want), ("# ".toList ++ s.goal)]
          (sectionsText s.sections s.language))) := by
    unfold featureText
    cases s.language <;> rfl
  have hsettle : settle (block 2 [("# ".toList ++ s.role), ("# ".toList ++ s.want),
      ("# ".toList ++ s.goal)] (sectionsText s.sections s.language)) =
        settle (sectionsText s.sections s.language) := by
    refine settle_block_of_loud_eq_nil 2 (fun l hl => (hcomments l hl).1) ?_ _
    exact List.filter_eq_nil_iff.2 fun l hl => by simp [(hcomments l hl).2]
  have hdescription : description ((dialectOf s.language).background ++
      (dialectOf s.language).rule ++ (dialectOf s.language).scenario ++
        (dialectOf s.language).outline) (settle (sectionsText s.sections s.language)) =
      some ((), settle (sectionsText s.sections s.language)) :=
    hclosing.description (by cases s.language <;> decide)
  have hbackground : background (dialectOf s.language)
      (settle (sectionsText s.sections s.language)) = none :=
    hclosing.background (by cases s.language <;> decide)
  rw [feature, bind_apply, hsettled.1.skipMany_lineEnd, Option.bind_some, bind_apply,
    tags_of_head hsettled.1 hsettled.2, Option.bind_some, bind_apply, hsettled.1.keyword, hword,
    Option.bind_some, bind_apply, title_line hheader.title hheader.title_ne_nil, Option.bind_some,
    hsettle, bind_apply, hdescription, Option.bind_some, bind_apply,
    optional_of_none hbackground, Option.bind_some, bind_apply,
    hclosing.settled.skipMany_lineEnd, Option.bind_some]
  simp only [documentBody, documentEnd, bind_assoc, pure_bind]

/-- The text of lines ends with a line break. -/
theorem getLast?_unlines {ls : List Text} (h : ls ≠ []) :
    (Text.unlines ls).getLast? = some '\n' := by
  obtain ⟨front, l, rfl⟩ := (List.eq_nil_or_concat' ls).resolve_left h
  simp

/-- **The document of a story** is read as the scenarios that its sections are read as, if all of
them are read. -/
theorem ofText?_documentLines {s : Story} (hheader : HasHeader s)
    (hs : ∀ r ∈ s.sections, IsWritten r)
    (hplain : ∀ r ∈ s.sections, ∀ l ∈ r.steps,
      beginsWith (dialectOf s.language).partMarks l = false) :
    Document.ofText? (Text.unlines s.documentLines) =
      (s.sections.mapM (dialectOf s.language).readSection?).map fun found =>
        Document.mk s.language.words.feature none found [] := by
  have hclosed : closeLastLine (Text.unlines s.documentLines) = Text.unlines s.documentLines :=
    if_pos (getLast?_unlines (by simp [Story.documentLines, Story.headerLines]))
  have hspaces : spaces (Text.unlines s.documentLines) =
      some ((), Text.unlines s.documentLines) := by
    rw [unlines_documentLines]
    exact spaces_of_head (by intro c hc; cases hc; decide)
  have hdocument : document (Text.unlines s.documentLines) =
      documentBody s.language (settle (sectionsText s.sections s.language)) := by
    rw [document, bind_apply, hspaces, Option.bind_some, bind_apply]
    rw [unlines_documentLines, optional_of_some (directive_header s.language _), Option.bind_some]
    simp only [ofCode?_code]
    exact feature_featureText hheader hs
  -- either all scenarios are found, or nothing goes on behind the ones that are
  obtain ⟨hread, hstop⟩ := many_nextScenario hs hplain
  rw [Document.ofText?, hclosed, hdocument, documentBody, bind_apply,
    scenarios_sectionsText hs hplain]
  cases hsections : s.sections.mapM (dialectOf s.language).readSection? with
  | some found =>
    rw [hread found hsections, Option.bind_some, bind_apply, documentEnd_nil]
    rfl
  | none =>
    obtain ⟨found, t, hmany, hstuck⟩ := hstop hsections
    rw [hmany, Option.bind_some, bind_apply, documentEnd_of_stuck hstuck]
    rfl

end StorySpec.Gherkin
