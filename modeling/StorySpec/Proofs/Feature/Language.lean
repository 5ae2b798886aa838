import StorySpec.Proofs.Feature.Sections

/-!
# The language of a document

The words of a document say which language it is in: the word before its title does or, where that
one is in neither language, the first known keyword among its steps.  The steps of rules are steps
of the document, too.  But a known keyword counts only outside of rules, so that a document whose
first known keyword is an English one in a rule is taken for a Portuguese one.

## Main definitions

* `Gherkin.Document.steps d`: all steps of a document.
* `Gherkin.Document.IsIn d l`: by its words, the document `d` is in the language `l`.
* `Gherkin.Document.IsEnglishByRules d`: only a keyword in a rule says that the document is in
  English.

## Main results

* `steps_eq`: the steps of rules are behind the others.
* `isIn_unique`: a document is in one language only.
* `isIn_language_iff`: the language that is found is the one of the words, unless only a rule says
  which one that is.
-/

namespace StorySpec

namespace Gherkin

/-! ## The words of a document -/

/-- The language that the keyword of a step is known in. -/
def Step.knownIn? (s : Step) : Option Language :=
  (Keyword.recognise? (Text.trim s.keyword)).map Prod.fst

/-- The first of the steps whose keyword is known has one of the language `l`. -/
def IsFirstKnown (steps : List Step) (l : Language) : Prop :=
  ∃ before s after, steps = before ++ s :: after ∧ s.knownIn? = some l ∧
    ∀ r ∈ before, r.knownIn? = none

theorem isFirstKnown_iff {steps : List Step} {l : Language} :
    IsFirstKnown steps l ↔ steps.findSome? Step.knownIn? = some l :=
  List.findSome?_eq_some_iff.symm

namespace Document

/-- All steps of a document, part by part. -/
def steps (d : Document) : List Step :=
  d.parts.flatMap Part.steps

/-- The steps in the rules of a document. -/
def ruleSteps (d : Document) : List Step :=
  d.rules.flatMap fun r => (blockParts r.background r.scenarios).flatMap Part.steps

/-- The word before the title is that of the language `l`, in whatever case its ASCII letters
are. -/
def IsTitledIn (d : Document) (l : Language) : Prop :=
  Text.eqIgnoringAsciiCase l.words.feature (Text.trim d.keyword) = true

instance (d : Document) (l : Language) : Decidable (d.IsTitledIn l) :=
  inferInstanceAs (Decidable (_ = true))

/-- The language that a document is in by its own words.  Without a word that is known it is in the
default one. -/
inductive IsIn (d : Document) : Language → Prop
  | title {l : Language} (h : d.IsTitledIn l) : d.IsIn l
  | step {l : Language} (h : ∀ m, ¬ d.IsTitledIn m) (hfirst : IsFirstKnown d.steps l) : d.IsIn l
  | default (h : ∀ m, ¬ d.IsTitledIn m) (hnone : ∀ s ∈ d.steps, s.knownIn? = none) :
      d.IsIn .portuguese

/-- Only a keyword in a rule says that a document is in English: neither the word before the title
nor any keyword outside of rules is known. -/
structure IsEnglishByRules (d : Document) : Prop where
  title : ∀ l, ¬ d.IsTitledIn l
  ownSteps : ∀ s ∈ d.ownSteps, s.knownIn? = none
  ruleSteps : IsFirstKnown d.ruleSteps .english

variable {d : Document} {l m : Language}

theorem flatMap_steps_blockParts (before : Option Background) (found : List Scenario) :
    (blockParts before found).flatMap Part.steps =
      (before.map Background.steps).getD [] ++ found.flatMap Scenario.steps := by
  cases before <;> simp [blockParts, Part.steps, List.flatMap_map]

/-- The steps of rules are behind the others. -/
theorem steps_eq (d : Document) : d.steps = d.ownSteps ++ d.ruleSteps := by
  rw [steps, parts, List.flatMap_append, flatMap_steps_blockParts, List.flatMap_assoc]
  rfl

/-! ## One language -/

/-- The words before titles differ in the two languages. -/
theorem eq_of_isTitledIn (hl : d.IsTitledIn l) (hm : d.IsTitledIn m) : l = m := by
  have hwords : Text.lowerAscii l.words.feature = Text.lowerAscii m.words.feature :=
    (beq_iff_eq.1 hl).trans (beq_iff_eq.1 hm).symm
  cases l <;> cases m <;> first | rfl | exact absurd hwords (by decide)

/-- A document is in one language only. -/
theorem isIn_unique (hl : d.IsIn l) (hm : d.IsIn m) : l = m := by
  cases hl with
  | title h =>
    cases hm with
    | title h' => exact eq_of_isTitledIn h h'
    | step hno => exact absurd h (hno l)
    | default hno => exact absurd h (hno l)
  | step hno hfirst =>
    cases hm with
    | title h => exact absurd h (hno m)
    | step _ hfirst' =>
      rw [isFirstKnown_iff] at hfirst hfirst'
      exact Option.some.inj (hfirst.symm.trans hfirst')
    | default _ hnone =>
      rw [isFirstKnown_iff, List.findSome?_eq_none_iff.2 hnone] at hfirst
      cases hfirst
  | default hno hnone =>
    cases hm with
    | title h => exact absurd h (hno m)
    | step _ hfirst =>
      rw [isFirstKnown_iff, List.findSome?_eq_none_iff.2 hnone] at hfirst
      cases hfirst
    | default => rfl

/-! ## The language that is found -/

/-- The word before the title decides, when it is known. -/
theorem language_of_isTitledIn (h : d.IsTitledIn l) : d.language = l := by
  unfold language
  split
  · rename_i m hm
    have hfound : d.IsTitledIn m := by simpa [IsTitledIn] using List.find?_some hm
    exact eq_of_isTitledIn hfound h
  · rename_i hnone
    exact absurd h (List.find?_eq_none.1 hnone l l.mem_all)

/-- Otherwise the first known keyword outside of rules does. -/
theorem language_of_not_isTitledIn (h : ∀ l, ¬ d.IsTitledIn l) :
    d.language = (d.ownSteps.findSome? Step.knownIn?).getD .portuguese := by
  have hnone : (Language.all.find? fun l =>
      Text.eqIgnoringAsciiCase l.words.feature (Text.trim d.keyword)) = none :=
    List.find?_eq_none.2 fun l _ => h l
  have hknown : d.ownSteps.findSome? Step.knownIn? =
      (d.ownSteps.findSome? fun s => Keyword.recognise? (Text.trim s.keyword)).map Prod.fst :=
    List.map_findSome?.symm
  rw [language, hnone, hknown]
  cases d.ownSteps.findSome? fun s => Keyword.recognise? (Text.trim s.keyword) <;> rfl

/-- The first known keyword is one outside of rules, if there is one. -/
theorem findSome?_steps (d : Document) :
    d.steps.findSome? Step.knownIn? =
      (d.ownSteps.findSome? Step.knownIn?).or (d.ruleSteps.findSome? Step.knownIn?) := by
  rw [steps_eq, List.findSome?_append]

/-- A document that is in English by its rules is taken for a Portuguese one. -/
theorem IsEnglishByRules.language_eq (h : d.IsEnglishByRules) :
    d.language = .portuguese ∧ d.IsIn .english := by
  have hown : d.ownSteps.findSome? Step.knownIn? = none :=
    List.findSome?_eq_none_iff.2 h.ownSteps
  constructor
  · rw [language_of_not_isTitledIn h.title, hown]
    rfl
  · refine .step h.title (isFirstKnown_iff.2 ?_)
    rw [findSome?_steps, hown, Option.none_or]
    exact isFirstKnown_iff.1 h.ruleSteps

theorem IsEnglishByRules.not_isIn (h : d.IsEnglishByRules) : ¬ d.IsIn d.language := by
  obtain ⟨hlanguage, henglish⟩ := h.language_eq
  intro hin
  have := isIn_unique hin henglish
  rw [hlanguage] at this
  cases this

/-- Every other document is taken for one in the language that it is in. -/
theorem isIn_language (h : ¬ d.IsEnglishByRules) : d.IsIn d.language := by
  by_cases htitle : ∃ l, d.IsTitledIn l
  · obtain ⟨l, hl⟩ := htitle
    rw [language_of_isTitledIn hl]
    exact .title hl
  have hno : ∀ l, ¬ d.IsTitledIn l := not_exists.1 htitle
  have hsteps := findSome?_steps d
  rw [language_of_not_isTitledIn hno]
  cases hown : d.ownSteps.findSome? Step.knownIn? with
  | some l =>
    rw [hown, Option.some_or] at hsteps
    exact .step hno (isFirstKnown_iff.2 hsteps)
  | none =>
    rw [hown, Option.none_or] at hsteps
    -- the default is right when rules have no known keyword or begin with a Portuguese one
    cases hrules : d.ruleSteps.findSome? Step.knownIn? with
    | none =>
      rw [hrules] at hsteps
      exact .default hno (List.findSome?_eq_none_iff.1 hsteps)
    | some l =>
      rw [hrules] at hsteps
      cases l with
      | portuguese => exact .step hno (isFirstKnown_iff.2 hsteps)
      | english =>
        exact absurd ⟨hno, List.findSome?_eq_none_iff.1 hown, isFirstKnown_iff.2 hrules⟩ h

/-- **The language of a document** is the one that it is in by its own words, unless only a keyword
in a rule says that this is English; then it is Portuguese.  So a document whose known keywords are
all English is never taken for a Portuguese one when one of them stands outside of rules. -/
theorem isIn_language_iff (d : Document) :
    (d.IsIn d.language ↔ ¬ d.IsEnglishByRules) ∧
      (d.IsEnglishByRules → d.language = .portuguese ∧ d.IsIn .english) ∧
      ((∀ l, ¬ d.IsTitledIn l) → (∀ s ∈ d.steps, s.knownIn? ≠ some .portuguese) →
        (∃ s ∈ d.ownSteps, s.knownIn? = some .english) → d.language = .english) := by
  refine ⟨⟨fun h hrules => hrules.not_isIn h, isIn_language⟩, IsEnglishByRules.language_eq, ?_⟩
  rintro hno hall ⟨s, hs, hknown⟩
  rw [language_of_not_isTitledIn hno]
  cases hown : d.ownSteps.findSome? Step.knownIn? with
  | none =>
    rw [List.findSome?_eq_none_iff.1 hown s hs] at hknown
    cases hknown
  | some l =>
    obtain ⟨r, hr, hrl⟩ := List.exists_of_findSome?_eq_some hown
    cases l with
    | english => rfl
    | portuguese =>
      have hmem : r ∈ d.steps := by
        rw [steps_eq]
        exact List.mem_append_left _ hr
      exact absurd hrl (hall r hmem)

end Document

/-! ## Keywords outside of rules, and in rules only -/

/-- A document whose steps are English, or have a bullet for a keyword, outside of its rule as well
as in it. -/
def wallet : Document where
  keyword := "Ability".toList
  background := none
  scenarios :=
    [{ name := "s".toList
       tags := []
       steps :=
        [⟨"* ".toList, .setup, "a wallet".toList⟩, ⟨"When ".toList, .action, "I pay".toList⟩]
       examples := [] }]
  rules :=
    [{ background := none
       scenarios :=
        [{ name := "t".toList
           tags := []
           steps := [⟨"Then ".toList, .outcome, "it is empty".toList⟩]
           examples := [] }] }]

/-- The keyword outside of the rule makes the document an English one. -/
theorem language_wallet :
    (∀ l, ¬ wallet.IsTitledIn l) ∧ (∀ s ∈ wallet.steps, s.knownIn? ≠ some .portuguese) ∧
      (∃ s ∈ wallet.ownSteps, s.knownIn? = some .english) ∧ wallet.language = .english ∧
      ¬ wallet.IsEnglishByRules ∧ wallet.IsIn wallet.language := by
  have htitle : ∀ l, ¬ wallet.IsTitledIn l := by
    intro l
    cases l <;> decide
  have hsteps : ∀ s ∈ wallet.steps, s.knownIn? ≠ some .portuguese := by decide +kernel
  have hown : ∃ s ∈ wallet.ownSteps, s.knownIn? = some .english := by decide +kernel
  have hrules : ¬ wallet.IsEnglishByRules := by
    rintro ⟨-, hnone, -⟩
    obtain ⟨s, hs, hknown⟩ := hown
    rw [hnone s hs] at hknown
    cases hknown
  obtain ⟨hiff, -, henglish⟩ := Document.isIn_language_iff wallet
  exact ⟨htitle, hsteps, hown, henglish htitle hsteps hown, hrules, hiff.2 hrules⟩

/-- A document whose steps are in a rule, the first of them with a bullet. -/
def cash : Document where
  keyword := "Ability".toList
  background := none
  scenarios := []
  rules :=
    [{ background := none
       scenarios :=
        [{ name := "s".toList
           tags := []
           steps :=
            [⟨"* ".toList, .setup, "a cart".toList⟩, ⟨"When ".toList, .action, "I pay".toList⟩]
           examples := [] }] }]

theorem isEnglishByRules_cash : cash.IsEnglishByRules where
  title l := by cases l <;> decide
  ownSteps _ hs := absurd hs List.not_mem_nil
  ruleSteps := isFirstKnown_iff.2 (by decide +kernel)

/-- All that is known of the words of the document is an English keyword, and it is taken for a
Portuguese one: its bullet becomes a Portuguese keyword. -/
theorem language_cash :
    let text := Text.unlines
      ["# language: en".toList, "Ability: pay".toList, "  Rule: cash".toList,
        "    Scenario: s".toList, "      * a cart".toList, "      When I pay".toList]
    Document.ofText? text = some cash ∧ cash.IsIn .english ∧ ¬ cash.IsIn cash.language ∧
      (Feature.ofDocument "f".toList text cash).sections.map Section.steps =
        [["Dado a cart".toList, "When I pay".toList]] := by
  intro text
  exact ⟨by decide +kernel, isEnglishByRules_cash.language_eq.2, isEnglishByRules_cash.not_isIn,
    by decide +kernel⟩

end Gherkin

end StorySpec
