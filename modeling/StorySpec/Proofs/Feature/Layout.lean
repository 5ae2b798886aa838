import Mathlib.Data.List.Chain
import StorySpec.Proofs.Feature.Written

/-!
# The layout of documents

A document is a text and a list of sections, and the two belong together: the lines of the text are
the header lines and the lines of the sections, each line of its own.  A blank line stands before
every section and nowhere else, no line ends with blanks, and one line break ends the text.

The lines are told here from the fields of the sections, with the blanks in front of them spelled
out, and not by the functions that write the document.

## Main definitions

* `Section.layout r w`: the lines that show the section `r` with the words `w`.
* `Feature.layout f s`: the lines of the document `f` of the story `s`.
* `isBlankLine l`: whether the line `l` is blank.

## Main results

* `unlines_eq_joined`: splitting a text at its line breaks gives its lines and nothing behind them.
* `isSpaced_append_flatMap`: blank lines between blocks of lines that show something.
* `splitOn_generated_text`: the text of a document has the layout of its sections.
-/

namespace StorySpec

variable {l : Text} {ls : List Text} {s : Story} {r : Section}

/-! ## Layouts -/

/-- The lines that show a section: its tags and its title, its steps, and for an outline its rows,
each deeper than what it belongs to. -/
def Section.layout (r : Section) (w : Vocabulary) : List Text :=
  ("  ".toList ++ Text.joined [' '] r.tags) ::
    ("  ".toList ++ (if r.outline then w.outline else w.scenario) ++ ": ".toList ++ r.title) ::
    (r.steps.map ("    ".toList ++ ·) ++
      if r.outline then
        ("    ".toList ++ w.examples ++ [':']) :: r.exampleRows.map ("      ".toList ++ ·)
      else [])

/-- The lines of a document: the language, the title and the header lines of its story, and then
every section behind a blank line. -/
def Feature.layout (f : Feature) (s : Story) : List Text :=
  [ "# language: ".toList ++ f.language.code,
    f.language.words.feature ++ ": ".toList ++ s.title,
    "  # ".toList ++ s.role,
    "  # ".toList ++ s.want,
    "  # ".toList ++ s.goal ] ++
    f.sections.flatMap fun r => [] :: r.layout f.language.words

theorem lines_eq_layout (r : Section) (lang : Language) :
    r.lines lang = [] :: r.layout lang.words := by
  unfold Section.lines Section.layout
  cases r.outline <;> rfl

theorem layout_ofStory (s : Story) (n : Nat) :
    (Feature.ofStory s n).layout s = s.documentLines := by
  simp only [Feature.layout, Feature.ofStory, Story.documentLines, lines_eq_layout]
  rfl

/-! ## Lines of a text -/

/-- Whether a line is blank. -/
def isBlankLine (l : Text) : Bool :=
  l.all isBlank

/-- A line that shows something up to its end. -/
structure IsShown (l : Text) : Prop where
  isTail : IsTail l
  ne_nil : l ≠ []

theorem IsShown.isBlankLine_eq (h : IsShown l) : isBlankLine l = false := by
  have hlast := h.isTail.last _ (List.getLast?_eq_some_getLast h.ne_nil)
  exact List.all_eq_false.2 ⟨_, List.getLast_mem h.ne_nil, by simp [hlast]⟩

theorem IsContentLine.isShown_append (h : IsContentLine l) {u : Text} (hu : '\n' ∉ u) :
    IsShown (u ++ l) := by
  refine ⟨⟨?_, ?_⟩, by simp [h.ne_nil]⟩
  · rw [List.getLast?_append_of_ne_nil u h.ne_nil]
    exact h.isLine.isTail.last
  · simp [hu, h.isLine.noBreak]

/-- Splitting a text at its line breaks gives its lines and nothing behind them. -/
theorem unlines_eq_joined (ls : List Text) :
    Text.unlines ls = Text.joined ['\n'] (ls ++ [[]]) := by
  induction ls with
  | nil => rfl
  | cons l ls ih =>
    rw [Text.unlines_cons, ih]
    cases ls <;> simp

theorem splitOn_unlines (h : ∀ l ∈ ls, '\n' ∉ l) :
    (Text.unlines ls).splitOn '\n' = ls ++ [[]] := by
  rw [unlines_eq_joined]
  apply List.splitOn_intercalate
  · intro l hl
    rcases List.mem_append.1 hl with hl | hl
    · exact h l hl
    · rw [List.mem_singleton.1 hl]
      exact List.not_mem_nil
  · simp

/-! ## Blank lines between blocks -/

/-- Lines that end with no blanks and among which `n` are blank, no two of them neighbours and none
of them the last. -/
structure IsSpaced (ls : List Text) (n : Nat) : Prop where
  isTail : ∀ l ∈ ls, IsTail l
  apart : ls.IsChain fun a b => ¬ (isBlankLine a = true ∧ isBlankLine b = true)
  count : ls.countP isBlankLine = n
  last : ∃ front l, ls = front ++ [l] ∧ IsShown l

theorem isSpaced_of_isShown (hne : ls ≠ []) (h : ∀ l ∈ ls, IsShown l) : IsSpaced ls 0 := by
  refine ⟨fun l hl => (h l hl).isTail, ?_, ?_, ls.dropLast, ls.getLast hne,
    (List.dropLast_append_getLast hne).symm, h _ (List.getLast_mem hne)⟩
  · apply List.Pairwise.isChain
    apply List.pairwise_of_forall_mem_list
    intro a ha b _
    simp [(h a ha).isBlankLine_eq]
  · rw [List.countP_eq_zero]
    intro l hl
    simp [(h l hl).isBlankLine_eq]

theorem IsSpaced.append {n : Nat} {block : List Text} (h : IsSpaced ls n) (hne : block ≠ [])
    (hblock : ∀ l ∈ block, IsShown l) : IsSpaced (ls ++ [] :: block) (n + 1) := by
  obtain ⟨htail, hapart, hcount, hlast⟩ := isSpaced_of_isShown hne hblock
  refine ⟨?_, ?_, ?_, ?_⟩
  · intro l hl
    rcases List.mem_append.1 hl with hl | hl
    · exact h.isTail l hl
    · rcases List.mem_cons.1 hl with rfl | hl
      · exact ⟨nofun, List.not_mem_nil⟩
      · exact htail l hl
  · rw [List.isChain_append, List.isChain_cons]
    refine ⟨h.apart, ⟨fun b hb => ?_, hapart⟩, fun a ha b _ => ?_⟩
    · simp [(hblock b (List.mem_of_mem_head? hb)).isBlankLine_eq]
    · obtain ⟨front, l, rfl, hl⟩ := h.last
      obtain rfl : l = a := by simpa using ha
      simp [hl.isBlankLine_eq]
  · rw [List.countP_append, List.countP_cons, h.count, hcount]
    simp [isBlankLine]
  · obtain ⟨front, l, rfl, hl⟩ := hlast
    exact ⟨ls ++ [] :: front, l, by simp, hl⟩

/-- Blocks that follow one another, each behind a blank line. -/
theorem isSpaced_append_flatMap {α : Type} {n : Nat} {blocks : List α} {f : α → List Text}
    (h : IsSpaced ls n) (hf : ∀ a ∈ blocks, f a ≠ [] ∧ ∀ l ∈ f a, IsShown l) :
    IsSpaced (ls ++ blocks.flatMap fun a => [] :: f a) (n + blocks.length) := by
  induction blocks generalizing ls n with
  | nil => simpa using h
  | cons a blocks ih =>
    obtain ⟨hne, hshown⟩ := hf a List.mem_cons_self
    have hmore := ih (h.append hne hshown) fun b hb => hf b (List.mem_cons_of_mem a hb)
    rw [List.flatMap_cons, ← List.append_assoc, List.length_cons, Nat.add_comm blocks.length,
      ← Nat.add_assoc]
    exact hmore

/-- One line break ends the text of such lines. -/
theorem IsSpaced.exists_unlines_eq {n : Nat} (h : IsSpaced ls n) :
    ∃ body, Text.unlines ls = body ++ ['\n'] ∧ body.getLast? ≠ some '\n' := by
  obtain ⟨front, l, rfl, hl⟩ := h.last
  refine ⟨Text.unlines front ++ l, by simp, ?_⟩
  rw [List.getLast?_append_of_ne_nil _ hl.ne_nil]
  intro hbreak
  cases hl.isTail.last _ hbreak

/-! ## The lines of a story's document -/

theorem translateStep_ne_nil (hl : l ≠ []) (lang : Language) : translateStep l lang ≠ [] := by
  cases h : StepLine.ofText? l with
  | none => rwa [translateStep_of_none h]
  | some step =>
    have hword := (step.slot.word_ne_nil_and_not_blank lang).1
    rw [translateStep_of_some h, StepLine.write]
    split <;> simp [hword]

theorem isContentLine_of_mem_steps (hkept : ∀ g ∈ s.groups, IsKeptGroup g) (hr : r ∈ s.sections)
    (hl : l ∈ r.steps) : IsContentLine l := by
  obtain ⟨g, hg, -, n, rfl⟩ := exists_group_of_mem_sectionsOf hr
  rw [steps_toSection] at hl
  obtain ⟨line, hline, rfl⟩ := List.mem_map.1 hl
  have hcontent := (hkept g hg).steps line hline
  exact ⟨isLine_translateStep hcontent.isLine _, translateStep_ne_nil hcontent.ne_nil _⟩

theorem isContentLine_joined {ts : List Text} (hne : ts ≠ []) (h : ∀ t ∈ ts, IsContentLine t) :
    IsContentLine (Text.joined [' '] ts) := by
  induction ts with
  | nil => exact absurd rfl hne
  | cons t ts ih =>
    cases ts with
    | nil => simpa using h t List.mem_cons_self
    | cons u ts =>
      rw [Text.joined_cons_cons, List.append_assoc]
      apply (h t List.mem_cons_self).append
      · exact ih (by simp) fun v hv => h v (List.mem_cons_of_mem t hv)
      · decide

theorem isContentLine_tag {name : Text} (h : Gherkin.IsTagName name) :
    IsContentLine ('@' :: name) := by
  apply isContentLine_of_not_blank (by simp)
  intro c hc
  rcases List.mem_cons.1 hc with rfl | hc
  · decide
  · exact (h.chars c hc).1

/-- The words before titles hold no line break. -/
theorem noBreak_words (lang : Language) :
    '\n' ∉ lang.words.feature ∧ '\n' ∉ lang.words.outline ∧ '\n' ∉ lang.words.scenario := by
  cases lang <;> exact ⟨by decide, by decide, by decide⟩

theorem isContentLine_examples (lang : Language) :
    IsContentLine (lang.words.examples ++ [':']) := by
  cases lang <;> exact ⟨⟨by decide, by decide⟩, by decide⟩

theorem isContentLine_code (lang : Language) : IsContentLine lang.code := by
  cases lang <;> exact ⟨⟨by decide, by decide⟩, by decide⟩

theorem isShown_of_mem_layout (hr : Gherkin.IsWritten r) (hsteps : ∀ m ∈ r.steps, IsContentLine m)
    {lang : Language} (hl : l ∈ r.layout lang.words) : IsShown l := by
  obtain ⟨-, houtline, hscenario⟩ := noBreak_words lang
  obtain ⟨names, hne, hnames, htags⟩ := hr.tags
  have htagline : IsContentLine (Text.joined [' '] r.tags) := by
    rw [htags]
    apply isContentLine_joined (by simpa using hne)
    intro t ht
    obtain ⟨name, hname, rfl⟩ := List.mem_map.1 ht
    exact isContentLine_tag (hnames name hname)
  have hrow : ∀ m ∈ r.exampleRows, IsContentLine m := by
    intro m hm
    refine ⟨hr.rows.isLine m hm, ?_⟩
    rintro rfl
    cases hr.rows.bar [] hm
  rcases List.mem_cons.1 hl with rfl | hl
  · exact htagline.isShown_append (by decide)
  rcases List.mem_cons.1 hl with rfl | hl
  · apply IsContentLine.isShown_append ⟨hr.title, hr.title_ne_nil⟩
    cases r.outline <;> simp [houtline, hscenario]
  rcases List.mem_append.1 hl with hl | hl
  · obtain ⟨m, hm, rfl⟩ := List.mem_map.1 hl
    exact (hsteps m hm).isShown_append (by decide)
  · split at hl
    · rcases List.mem_cons.1 hl with rfl | hl
      · rw [List.append_assoc]
        exact (isContentLine_examples lang).isShown_append (by decide)
      · obtain ⟨m, hm, rfl⟩ := List.mem_map.1 hl
        exact (hrow m hm).isShown_append (by decide)
    · cases hl

theorem isShown_of_mem_headerLines (hs : Gherkin.HasHeader s) (hl : l ∈ s.headerLines) :
    IsShown l := by
  have hcomment : ∀ m ∈ [s.role, s.want, s.goal], IsShown ("  # ".toList ++ m) := by
    intro m hm
    apply IsContentLine.isShown_append ⟨hs.lines m hm, hs.lines_ne_nil m hm⟩
    decide
  simp only [Story.headerLines, List.mem_cons, List.not_mem_nil, or_false] at hl
  rcases hl with rfl | rfl | rfl | rfl | rfl
  · exact (isContentLine_code s.language).isShown_append (by decide)
  · apply IsContentLine.isShown_append ⟨hs.title, hs.title_ne_nil⟩
    simp [(noBreak_words s.language).1]
  · exact hcomment s.role (by simp)
  · exact hcomment s.want (by simp)
  · exact hcomment s.goal (by simp)

/-- The lines of a document without faults are spaced. -/
theorem isSpaced_layout_ofStory (hkept : ∀ g ∈ s.groups, IsKeptGroup g)
    (hheader : Gherkin.HasHeader s) (hs : s.IsComplete) (n : Nat) :
    IsSpaced ((Feature.ofStory s n).layout s) s.sections.length := by
  have hshown : ∀ r ∈ s.sections, ∀ l ∈ r.layout s.language.words, IsShown l :=
    fun r hr l => isShown_of_mem_layout (isWritten_of_mem_sections hkept hs r hr)
      fun m => isContentLine_of_mem_steps hkept hr
  have hspaced := isSpaced_append_flatMap
    (isSpaced_of_isShown (List.cons_ne_nil _ _) fun l => isShown_of_mem_headerLines hheader)
    fun r hr => ⟨List.cons_ne_nil _ _, hshown r hr⟩
  rwa [Nat.zero_add] at hspaced

/-- **The text of a document** has the layout of its sections: each line stands on its own, there is
a blank line before every section and no other one, no line ends with a blank, and one line break
ends the text. -/
theorem splitOn_generated_text {settings : PipelineSettings} {t : Text} {story : Story}
    {feature : Feature} {steps : Synthesis}
    (h : Outcome.ofText settings t = .generated story feature steps) :
    feature.text.splitOn '\n' = feature.layout story ++ [[]] ∧
      (feature.layout story).countP isBlankLine = feature.sections.length ∧
      (feature.layout story).IsChain (fun a b => ¬ (isBlankLine a = true ∧ isBlankLine b = true)) ∧
      (∀ l ∈ feature.layout story, ∀ c ∈ l.getLast?, isBlank c = false) ∧
      ∃ body, feature.text = body ++ ['\n'] ∧ body.getLast? ≠ some '\n' := by
  obtain ⟨hstory, hvalid, rfl, -⟩ := Outcome.ofText_eq_generated_iff.1 h
  have hkept : ∀ g ∈ story.groups, IsKeptGroup g := by
    rw [hstory]
    exact fun g => isKeptGroup_of_mem_groups
  have hcomplete := isComplete_of_isValid hvalid
  have hheader : Gherkin.HasHeader story := by
    refine hasHeader_of_isComplete ?_ hcomplete
    rw [hstory]
    exact header_ofText _ _
  have hspaced := isSpaced_layout_ofStory hkept hheader hcomplete settings.fileNameWords
  have htext : (Feature.ofStory story settings.fileNameWords).text =
      Text.unlines ((Feature.ofStory story settings.fileNameWords).layout story) := by
    rw [layout_ofStory]
    rfl
  rw [htext, splitOn_unlines fun l hl => (hspaced.isTail l hl).noBreak]
  exact ⟨rfl, hspaced.count, hspaced.apart, fun l hl => (hspaced.isTail l hl).last,
    hspaced.exists_unlines_eq⟩

/-- A story with carriage returns and blanks of other kinds in its lines, an outline whose rows hold
no text, and a row apart from the others. -/
def parcelStory : Text :=
  Text.unlines
    ["\u00a0# language: en\r".toList, "As a\tcustomer \r".toList, "I want to - send\r".toList,
      "\r".toList, "So that it\u2003arrives\u3000".toList, "[FAILURE]@late".toList,
      "When\u00a0\r".toList, " \u2009 it rains\r\r".toList, "[EXAMPLES]\r".toList,
      "|size|| \r".toList, "\t||\u00a0|\r".toList, "[SUCCESS]".toList, "Entao it\rarrives ".toList]

/-- The lines of the document of the story, among which there are two blank ones. -/
theorem splitOn_parcelStory :
    let story := Story.ofText .portuguese parcelStory
    let feature := Feature.ofStory story 3
    Outcome.ofText { fileNameWords := 3 } parcelStory =
        .generated story feature (Synthesis.ofFeature feature) ∧
      feature.text.splitOn '\n' = feature.layout story ++ [[]] ∧
      (feature.layout story).countP isBlankLine = 2 := by
  intro story feature
  have hvalid : story.validate.isValid = true := by decide +kernel
  have hgenerated : Outcome.ofText { fileNameWords := 3 } parcelStory =
      .generated story feature (Synthesis.ofFeature feature) :=
    Outcome.ofText_eq_generated_iff.2 ⟨rfl, hvalid, rfl, rfl⟩
  obtain ⟨hsplit, hcount, -⟩ := splitOn_generated_text hgenerated
  refine ⟨hgenerated, hsplit, hcount.trans ?_⟩
  decide +kernel

end StorySpec
