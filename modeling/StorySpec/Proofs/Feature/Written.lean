import StorySpec.Proofs.Gherkin.Document
import StorySpec.Proofs.Language.Opener
import StorySpec.Proofs.Step
import StorySpec.Proofs.Story.Lines

/-!
# The document of a story can be written

The sections and the header lines of a story without faults are lines: none of them holds a line
break or begins or ends with a blank, and none that is needed is empty.

## Main results

* `isLine_translateStep`: a translated step is a line.
* `isWritten_toSection`: a group with steps has a section that can be written.
* `isWritten_of_mem_sections`, `hasHeader_of_isComplete`: the same for whole stories.
-/

namespace StorySpec

open Gherkin (IsWritten HasHeader AreRows IsTagName)

variable {s : Story} {g : Group} {l t : Text} {lang : Language}

/-! ## Steps -/

theorem StepLine.isLine_text {step : StepLine} (h : StepLine.ofText? t = some step)
    (ht : IsLine t) : IsLine step.text := by
  have htext : step.text <:+ t := by
    obtain ⟨found, -, rfl⟩ := Option.map_eq_some_iff.1 h
    rw [ht.trim]
    exact (Text.trimStart_suffix _).trans (List.dropWhile_suffix _)
  exact isLine_of_isInfix ht.noBreak htext.isInfix (StepLine.trim_text h)

/-- A translated step is a line. -/
theorem isLine_translateStep (ht : IsLine t) (lang : Language) : IsLine (translateStep t lang) := by
  cases h : StepLine.ofText? t with
  | none => rwa [translateStep_of_none h]
  | some step =>
    have htext := StepLine.isLine_text h ht
    have hword : '\n' ∉ step.slot.word lang := by
      intro hmem
      have hblank := (step.slot.word_ne_nil_and_not_blank lang).2 _ hmem
      cases hblank
    rw [translateStep_of_some h]
    refine ⟨StepLine.trim_write htext.trim lang, ?_⟩
    simp only [StepLine.write]
    split
    · exact hword
    · simp [hword, htext.noBreak]

/-- What a step says in a title is a line, and not an empty one. -/
theorem isContentLine_stepTextOr {fallback : Text} (hfallback : IsContentLine fallback)
    (step : Option Text) (hstep : ∀ line ∈ step, IsLine line) :
    IsContentLine (Group.stepTextOr fallback step) := by
  unfold Group.stepTextOr
  split
  · rename_i c text heq
    obtain ⟨line, hline, htext⟩ := Option.map_eq_some_iff.1 heq
    have hl := hstep line hline
    refine ⟨?_, by simp⟩
    rw [← htext]
    unfold stepText
    split
    · rename_i found hfound
      exact StepLine.isLine_text hfound hl
    · rwa [hl.trim]
  · exact hfallback

/-! ## Titles and tags -/

theorem isContentLine_words (lang : Language) :
    IsContentLine lang.words.condition ∧ IsContentLine lang.words.result ∧
      IsContentLine lang.words.exampleTitle := by
  cases lang <;>
    exact ⟨⟨⟨by decide, by decide⟩, by decide⟩, ⟨⟨by decide, by decide⟩, by decide⟩,
      ⟨by decide, by decide⟩, by decide⟩

theorem isContentLine_label (kind : GroupKind) (lang : Language) :
    IsContentLine (kind.label lang) := by
  cases kind <;> cases lang <;> exact ⟨⟨by decide, by decide⟩, by decide⟩

/-- A text without blanks is a line. -/
theorem isContentLine_of_not_blank (hne : t ≠ []) (h : ∀ c ∈ t, isBlank c = false) :
    IsContentLine t :=
  ⟨⟨Text.trim_of_not_blank h, fun hmem => by cases h _ hmem⟩, hne⟩

theorem IsGroupName.isContentLine {name : Text} (h : IsGroupName name) : IsContentLine name :=
  isContentLine_of_not_blank h.ne_nil fun c hc => isBlank_of_isNameChar (h.chars c hc)

theorem isContentLine_ofNat (n : Nat) : IsContentLine (Text.ofNat n) := by
  refine IsGroupName.isContentLine ⟨Nat.toDigits_ne_nil, fun c hc => ?_⟩
  have hdigit : c.isDigit = true := Nat.isDigit_of_mem_toDigits (by decide) (by decide) hc
  simp [isNameChar, Char.isAlphanum, hdigit]

theorem IsContentLine.append {a b : Text} (ha : IsContentLine a) (hb : IsContentLine b) {m : Text}
    (hm : '\n' ∉ m) : IsContentLine (a ++ (m ++ b)) :=
  ⟨ha.isLine.append m ha.ne_nil hb.isLine hb.ne_nil hm, by simp [ha.ne_nil]⟩

theorem isContentLine_title (hg : IsKeptGroup g) (lang : Language) :
    IsContentLine (g.title lang) := by
  obtain ⟨hcondition, hresult, -⟩ := isContentLine_words lang
  have hfirst := isContentLine_stepTextOr hcondition g.steps.head?
    fun line hline => (hg.steps line (List.mem_of_head? hline)).isLine
  have hlast := isContentLine_stepTextOr hresult g.steps.getLast?
    fun line hline => (hg.steps line (List.mem_of_getLast? hline)).isLine
  have hjoined := (isContentLine_label g.kind lang).append
    (hfirst.append hlast (m := " - ".toList) (by decide)) (m := " - ".toList) (by decide)
  simpa [Group.title] using hjoined

theorem isTagName_lower_tag (kind : GroupKind) : IsTagName (Text.lower kind.tag) := by
  have hall : Text.lower kind.tag ≠ [] ∧
      (Text.lower kind.tag).all (fun c => !isBlank c && c != '@') = true := by
    cases kind <;> decide +kernel
  exact ⟨hall.1, fun c hc => by simpa using List.all_eq_true.1 hall.2 c hc⟩

theorem isTagName_of_isGroupName {name : Text} (h : IsGroupName name) : IsTagName name := by
  refine ⟨h.ne_nil, fun c hc => ⟨isBlank_of_isNameChar (h.chars c hc), ?_⟩⟩
  rintro rfl
  exact absurd (h.chars _ hc) (by decide)

/-! ## Rows -/

theorem isLine_of_normaliseRow? {row : Text} (hl : IsLine l) (h : normaliseRow? l = some row) :
    IsLine row :=
  have hrow := isInfix_of_normaliseRow? h
  isLine_of_isInfix hl.noBreak hrow.1 hrow.2

theorem areRows_exampleRows (h : ∀ l ∈ g.examples, IsContentLine l) :
    AreRows (exampleRows g.examples) := by
  refine ⟨fun row hrow => ?_, fun row hrow => ?_⟩
  · obtain ⟨line, hline, hnormal⟩ := List.mem_filterMap.1 hrow
    exact isLine_of_normaliseRow? (h line hline).isLine hnormal
  · obtain ⟨line, -, hnormal⟩ := List.mem_filterMap.1 hrow
    exact head?_of_normaliseRow? hnormal

/-- Lines that make up a table have rows. -/
theorem exampleRows_ne_nil {lines : List Text} {table : Table}
    (h : Table.ofLines lines = .ok table) : exampleRows lines ≠ [] := by
  intro hnil
  rw [Table.ofLines, hnil] at h
  cases h

/-! ## Sections -/

/-- Both kinds of sections show the same steps. -/
theorem steps_toSection (g : Group) (lang : Language) (n : Nat) :
    (g.toSection lang n).steps = g.translatedSteps lang := by
  unfold Group.toSection
  split <;> rfl

/-- A group with steps has a section that can be written. -/
theorem isWritten_toSection (hg : IsKeptGroup g)
    (htable : g.examples ≠ [] → ∃ table, g.table = .ok table) (lang : Language) (n : Nat) :
    IsWritten (g.toSection lang n) := by
  have hnames : ∀ name ∈ Text.lower g.kind.tag :: g.tag.toList, IsTagName name := by
    intro name hname
    rcases List.mem_cons.1 hname with rfl | hname
    · exact isTagName_lower_tag g.kind
    · exact isTagName_of_isGroupName (hg.tag name (by simpa using hname))
  have htags : g.tags = (Text.lower g.kind.tag :: g.tag.toList).map ('@' :: ·) := by
    simp only [Group.tags, List.map_cons]
    cases g.tag <;> rfl
  have hsteps : ∀ l ∈ g.translatedSteps lang, IsLine l := by
    intro l hl
    obtain ⟨line, hline, rfl⟩ := List.mem_map.1 hl
    exact isLine_translateStep (hg.steps line hline).isLine lang
  have hcount : IsContentLine (lang.words.exampleTitle ++ ' ' :: Text.ofNat (n + 1)) :=
    (isContentLine_words lang).2.2.append (isContentLine_ofNat (n + 1)) (m := [' ']) (by decide)
  have htitle := isContentLine_title hg lang
  unfold Group.toSection
  split
  · rename_i houtline
    have hne : g.examples ≠ [] := by simpa [Group.isOutline] using houtline
    obtain ⟨table, htable⟩ := htable hne
    exact ⟨⟨_, by simp, hnames, htags⟩, hcount.isLine, hcount.ne_nil, hsteps,
      areRows_exampleRows hg.examples, fun _ => exampleRows_ne_nil htable⟩
  · exact ⟨⟨_, by simp, hnames, htags⟩, htitle.isLine, htitle.ne_nil, hsteps,
      ⟨nofun, nofun⟩, nofun⟩

/-- Every section of the groups with steps is the section of one of them. -/
theorem exists_group_of_mem_sectionsOf {gs : List Group} {n : Nat} {r : Section}
    (h : r ∈ sectionsOf lang n gs) : ∃ g ∈ gs, g.steps ≠ [] ∧ ∃ m, r = g.toSection lang m := by
  induction gs generalizing n with
  | nil => cases h
  | cons g gs ih =>
    rw [sectionsOf] at h
    split at h
    · obtain ⟨g', hg', hr⟩ := ih h
      exact ⟨g', List.mem_cons_of_mem g hg', hr⟩
    · rename_i hsteps
      rcases List.mem_cons.1 h with rfl | h
      · exact ⟨g, List.mem_cons_self, hsteps, n, rfl⟩
      · obtain ⟨g', hg', hr⟩ := ih h
        exact ⟨g', List.mem_cons_of_mem g hg', hr⟩

/-- **The sections of a story** without faults can be written. -/
theorem isWritten_of_mem_sections (hkept : ∀ g ∈ s.groups, IsKeptGroup g) (hs : s.IsComplete) :
    ∀ r ∈ s.sections, IsWritten r := by
  intro r hr
  obtain ⟨g, hg, -, m, rfl⟩ := exists_group_of_mem_sectionsOf hr
  exact isWritten_toSection (hkept g hg) (hs.table g hg) s.language m

/-! ## The header -/

/-- What follows the opening of a line is a line. -/
theorem isLine_of_stripOpener {openers : List Text} {rest : Text} (hl : IsLine l)
    (h : stripOpener l openers = some rest) : IsLine rest := by
  obtain ⟨opener, -, hafter⟩ := List.exists_of_findSome?_eq_some h
  obtain ⟨-, tail, -, -, -, -, rfl⟩ := afterOpener?_eq_some_iff.1 hafter
  have htail : IsTail (tail.dropWhile isSeparator) :=
    hl.isTail.of_suffix (isSuffix_of_stripOpener h)
  refine ⟨Text.trim_eq_self_iff.2 ⟨fun c hc => ?_, htail.last⟩, htail.noBreak⟩
  have hfirst := List.head?_dropWhile_not isSeparator tail
  rw [Option.mem_def.1 hc] at hfirst
  simp only [isSeparator, Bool.or_eq_false_iff] at hfirst
  exact hfirst.1.1

/-- **The header of a story** without faults can be written. -/
theorem hasHeader_of_isComplete (hkept : ∀ l ∈ s.header, l = [] ∨ IsContentLine l)
    (hs : s.IsComplete) : HasHeader s := by
  have hlines : ∀ l ∈ s.header, IsContentLine l := fun l hl =>
    (hkept l hl).resolve_left (hs.header l hl)
  have hwant := hlines s.want (by simp [Story.header])
  have htitle : IsContentLine s.title := by
    unfold Story.title
    split
    · rename_i c text hstrip
      exact ⟨isLine_of_stripOpener hwant.isLine hstrip, by simp⟩
    · exact hwant
  exact ⟨htitle.isLine, htitle.ne_nil, fun l hl => (hlines l hl).isLine,
    fun l hl => (hlines l hl).ne_nil⟩

end StorySpec
