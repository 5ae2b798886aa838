import StorySpec.Feature.OfDocument
import StorySpec.Proofs.Gherkin.Section
import StorySpec.Proofs.Step
import StorySpec.Proofs.Story.Lines

/-!
# The steps of a document read again

The steps of a section are read line by line.  A line that is read as a step comes back as a line: a
step with a known keyword and a text as it was, and a bullet or a synonym with the known keyword of
its type.  A keyword alone is no step, nor is a line that begins with no keyword.

## Main definitions

* `readLines ls l`: the lines that lines of a document in the language `l` are read as.
* `rephrased? l`: the line that a single line is read as, if it is read as a step.
* `Slot.type? s`: the type of the steps with a keyword, unless they continue another step.

## Main results

* `rephrased?_of_readStep?`: what a line is read as does not depend on the steps before it.
* `readLines_eq_filterMap`: lines that are read to their end are rephrased one by one.
* `readStep?_word`, `rephrased?_write`: a step with a text is read as it is.
* `readBody_write_eq_nil_iff`: which lists of steps with texts are read.
-/

namespace StorySpec

open Gherkin (beginsWith dialectOf isSilent)

variable {lang : Language} {ss : List StepLine} {l t : Text} {ls : List Text}

/-- The lines that the steps of a section are read as. -/
def readLines (ls : List Text) (lang : Language) : List Text :=
  ((dialectOf lang).readBody ls).1.map (Gherkin.Step.line · lang)

/-! ## Single lines -/

/-- The line that a line is read as behind a step, if it is read as a step there. -/
def rephrased? (l : Text) (lang : Language) : Option Text :=
  ((dialectOf lang).readStep? (some .setup) l).map (Gherkin.Step.line · lang)

/-- A step has a type of its own, or there is a step before it, which it continues. -/
theorem readStep?_eq_or (d : Gherkin.Dialect) (last : Option Gherkin.StepType) (l : Text) :
    d.readStep? last l = (d.readStep? none l).or (last.bind fun type =>
      (Gherkin.lineStep? d.addition type l).or (Gherkin.lineStep? d.contrast type l)) := by
  simp only [Gherkin.Dialect.readStep?]
  cases Gherkin.lineStep? d.setup .setup l <;> cases Gherkin.lineStep? d.action .action l <;>
    cases Gherkin.lineStep? d.outcome .outcome l <;> cases last <;> simp

/-- A keyword that continues a step is known as it is written, except for the bullet, which has a
type of its own. -/
theorem recognise?_continuation (lang : Language) :
    ∀ w ∈ (dialectOf lang).addition ++ (dialectOf lang).contrast,
      w ∈ (dialectOf lang).setup ∨ (Keyword.recognise? (Text.trim w)).isSome := by
  cases lang <;> decide +kernel

theorem readStep?_of_not_beginsWith {d : Gherkin.Dialect} (h : beginsWith d.stepKeywords l = false)
    (last : Option Gherkin.StepType) : d.readStep? last l = none := by
  have hline : ∀ (ws : List Text) (type : Gherkin.StepType), (∀ w ∈ ws, w ∈ d.stepKeywords) →
      Gherkin.lineStep? ws type l = none := by
    intro ws type hws
    rw [Gherkin.lineStep?, Gherkin.oneOf_eq_none_iff.2 (Gherkin.beginsWith_of_subset hws h)]
    rfl
  simp only [Gherkin.Dialect.readStep?]
  rw [hline d.setup _ fun w hw => ?_, hline d.action _ fun w hw => ?_,
    hline d.outcome _ fun w hw => ?_]
  · cases last with
    | none => rfl
    | some type =>
      rw [Option.bind_some, Option.bind_some, hline d.addition _ fun w hw => ?_,
        hline d.contrast _ fun w hw => ?_]
      · rfl
      all_goals simp [Gherkin.Dialect.stepKeywords, hw]
  all_goals simp [Gherkin.Dialect.stepKeywords, hw]

theorem readStep?_ne_none_of_mem_setup {d : Gherkin.Dialect} {w : Text} (h : w ∈ d.setup)
    (t : Text) : d.readStep? none (w ++ t) ≠ none := by
  have hsetup : Gherkin.lineStep? d.setup .setup (w ++ t) ≠ none := by
    rw [Gherkin.lineStep?, Ne, Option.map_eq_none_iff, Gherkin.oneOf_eq_none_iff]
    simp only [beginsWith, Bool.not_eq_false, List.any_eq_true]
    exact ⟨w, h, by simp⟩
  obtain ⟨s, hs⟩ := Option.ne_none_iff_exists'.1 hsetup
  simp [Gherkin.Dialect.readStep?, hs]

/-- **What a line is read as** does not depend on the steps before it, if it is read as a step. -/
theorem rephrased?_of_readStep? {last : Option Gherkin.StepType} {s : Gherkin.Step}
    (h : (dialectOf lang).readStep? last l = some s) : rephrased? l lang = some (s.line lang) := by
  rw [readStep?_eq_or] at h
  rw [rephrased?, readStep?_eq_or]
  cases hown : (dialectOf lang).readStep? none l with
  | some found =>
    rw [hown] at h
    cases h
    rfl
  | none =>
    have hcontinues : ∀ (ws : List Text) (type : Gherkin.StepType),
        (∀ w ∈ ws, w ∈ (dialectOf lang).addition ++ (dialectOf lang).contrast) →
          (Gherkin.lineStep? ws .setup l).map (Gherkin.Step.line · lang) =
            (Gherkin.lineStep? ws type l).map (Gherkin.Step.line · lang) := by
      intro ws type hws
      rw [Gherkin.lineStep?, Gherkin.lineStep?, Option.map_map, Option.map_map]
      refine Option.map_congr fun found hfound => ?_
      obtain ⟨hmem, rfl⟩ := Gherkin.eq_append_of_oneOf (Option.mem_def.1 hfound)
      rcases recognise?_continuation lang _ (hws _ hmem) with hbullet | hknown
      · exact absurd hown (readStep?_ne_none_of_mem_setup hbullet _)
      · simp [Gherkin.Step.line, Gherkin.Step.word, hknown]
    rw [hown] at h
    cases last with
    | none => cases h
    | some type =>
      have hadded := hcontinues (dialectOf lang).addition type fun w hw =>
        List.mem_append_left _ hw
      have hcontrast := hcontinues (dialectOf lang).contrast type fun w hw =>
        List.mem_append_right _ hw
      rw [Option.none_or, Option.bind_some] at h
      rw [Option.none_or, Option.bind_some, Option.map_or, hadded, hcontrast, ← Option.map_or, h,
        Option.map_some]

/-! ## Lists of lines -/

/-- Lines that are read as steps to their end are rephrased one by one. -/
theorem readSteps_eq_filterMap {last : Option Gherkin.StepType}
    (h : ((dialectOf lang).readSteps last ls).2 = []) :
    ((dialectOf lang).readSteps last ls).1.map (Gherkin.Step.line · lang) =
      ls.filterMap (rephrased? · lang) := by
  -- on the lines; the type of the last step differs from line to line, and does not matter
  induction ls generalizing last with
  | nil => rfl
  | cons l ls ih =>
    rw [Gherkin.Dialect.readSteps] at h ⊢
    cases hread : (dialectOf lang).readStep? last l with
    | none =>
      rw [hread] at h
      cases h
    | some s =>
      rw [hread] at h
      have hcons : (l :: ls).filterMap (rephrased? · lang) =
          s.line lang :: ls.filterMap (rephrased? · lang) :=
        List.filterMap_cons_some (rephrased?_of_readStep? hread)
      rw [hcons, ← ih h]
      rfl

/-- Comments are no steps. -/
theorem rephrased?_of_silent (h : isSilent l = true) (lang : Language) :
    rephrased? l lang = none := by
  cases l with
  | nil => cases lang <;> rfl
  | cons c l =>
    obtain rfl : c = '#' := by simpa [isSilent] using h
    cases lang <;> rfl

/-- A line that begins with no word for a scenario or a step is no step. -/
theorem rephrased?_of_not_beginsWith
    (h : beginsWith (dialectOf lang).scenarioWords l = false) : rephrased? l lang = none := by
  have hkeyword : beginsWith (dialectOf lang).stepKeywords l = false :=
    Gherkin.beginsWith_of_subset (fun w hw => List.mem_append_right _ hw) h
  rw [rephrased?, readStep?_of_not_beginsWith hkeyword]
  rfl

/-- **Lines that are read to their end** are rephrased one by one; comments and what stands before
the first step are left out. -/
theorem readLines_eq_filterMap (h : ((dialectOf lang).readBody ls).2 = []) :
    readLines ls lang = ls.filterMap (rephrased? · lang) := by
  have hloud : (Gherkin.loud ls).filterMap (rephrased? · lang) =
      ls.filterMap (rephrased? · lang) := by
    rw [Gherkin.loud, List.filterMap_filter]
    refine List.filterMap_congr fun l _ => ?_
    split
    · rfl
    · rename_i hsilent
      exact (rephrased?_of_silent (by simpa using hsilent) lang).symm
  -- the lines that are passed over are rephrased as nothing, so they need not be taken away
  have hdropped : ((Gherkin.loud ls).takeWhile
      (!beginsWith (dialectOf lang).scenarioWords ·)).filterMap (rephrased? · lang) = [] := by
    refine List.filterMap_eq_nil_iff.2 fun l hl => ?_
    exact rephrased?_of_not_beginsWith (by simpa using List.mem_takeWhile_imp hl)
  rw [readLines, Gherkin.Dialect.readBody, readSteps_eq_filterMap h, ← hloud]
  conv_rhs => rw [← List.takeWhile_append_dropWhile
    (p := (!beginsWith (dialectOf lang).scenarioWords ·)) (l := Gherkin.loud ls)]
  rw [List.filterMap_append, hdropped, List.nil_append]

/-! ## Steps with texts -/

/-- The type of the steps with a keyword.  A keyword that continues the step before has the type of
that step, and none of its own. -/
def Slot.type? : Slot → Option Gherkin.StepType
  | .setup => some .setup
  | .action => some .action
  | .outcome => some .outcome
  | .addition => none
  | .contrast => none

/-- A step with a text begins with a keyword of its dialect, and with nothing else that the grammar
knows. -/
theorem marks_word (slot : Slot) (lang : Language) (t : Text) :
    beginsWith (dialectOf lang).partMarks (slot.word lang ++ ' ' :: t) = false ∧
      isSilent (slot.word lang ++ ' ' :: t) = false ∧
      beginsWith (dialectOf lang).scenarioWords (slot.word lang ++ ' ' :: t) = true := by
  cases slot <;> cases lang <;> exact ⟨rfl, rfl, rfl⟩

/-- **A step with a text** is read with its keyword, if it has a type or continues a step. -/
theorem readStep?_word (slot : Slot) (lang : Language) (t : Text)
    (last : Option Gherkin.StepType) :
    (dialectOf lang).readStep? last (slot.word lang ++ ' ' :: t) =
      (slot.type?.or last).map fun type =>
        { keyword := slot.word lang ++ [' '], type, value := t.dropWhile Gherkin.isSpace } := by
  cases slot <;> cases lang <;> cases last <;> rfl

/-- The step that is read is the same line again. -/
theorem line_word (slot : Slot) (lang : Language) (type : Gherkin.StepType)
    (ht : IsContentLine t) :
    Gherkin.Step.line
        { keyword := slot.word lang ++ [' '], type, value := t.dropWhile Gherkin.isSpace } lang =
      slot.word lang ++ ' ' :: t := by
  have hword : Text.trim (slot.word lang ++ [' ']) = slot.word lang := by
    rw [Text.trim_concat_of_isBlank isBlank_space, slot.trim_word]
  have hvalue : Text.trim (t.dropWhile Gherkin.isSpace) = t := by
    rw [Gherkin.trim_dropWhile_isSpace, ht.isLine.trim]
  simp [Gherkin.Step.line, Gherkin.Step.word, hword, hvalue]

theorem write_of_ne_nil {s : StepLine} (h : s.text ≠ []) (lang : Language) :
    s.write lang = s.slot.word lang ++ ' ' :: s.text :=
  if_neg h

/-- **A step with a text** is read as it is. -/
theorem rephrased?_write {s : StepLine} (hs : IsContentLine s.text) (lang : Language) :
    rephrased? (s.write lang) lang = some (s.write lang) := by
  rw [rephrased?, write_of_ne_nil hs.ne_nil, readStep?_word]
  cases s.slot.type? with
  | none => rw [Option.none_or, Option.map_some, Option.map_some, line_word _ _ _ hs]
  | some type => rw [Option.some_or, Option.map_some, Option.map_some, line_word _ _ _ hs]

/-! ## Lists of steps with texts -/

section Written

variable (hss : ∀ s ∈ ss, IsContentLine s.text)

include hss

/-- Behind a step all steps are read. -/
theorem readSteps_write (lang : Language) (type : Gherkin.StepType) :
    ((dialectOf lang).readSteps (some type) (ss.map (·.write lang))).2 = [] := by
  -- every step leaves a type behind, which the next one may continue
  induction ss generalizing type with
  | nil => rfl
  | cons s ss ih =>
    have hread := readStep?_word s.slot lang s.text (some type)
    obtain ⟨last, hlast⟩ : ∃ last, s.slot.type?.or (some type) = some last := by
      cases s.slot.type? <;> exact ⟨_, rfl⟩
    rw [hlast, ← write_of_ne_nil (hss s List.mem_cons_self).ne_nil] at hread
    rw [List.map_cons, Gherkin.Dialect.readSteps, hread]
    exact ih (fun r hr => hss r (List.mem_cons_of_mem s hr)) last

/-- No line of steps with texts is passed over. -/
theorem readBody_write (lang : Language) :
    (dialectOf lang).readBody (ss.map (·.write lang)) =
      (dialectOf lang).readSteps none (ss.map (·.write lang)) := by
  have hmarks : ∀ l ∈ ss.map (·.write lang), isSilent l = false ∧
      beginsWith (dialectOf lang).scenarioWords l = true := by
    intro l hl
    obtain ⟨s, hs, rfl⟩ := List.mem_map.1 hl
    rw [write_of_ne_nil (hss s hs).ne_nil]
    exact (marks_word s.slot lang s.text).2
  have hloud : Gherkin.loud (ss.map (·.write lang)) = ss.map (·.write lang) :=
    List.filter_eq_self.2 fun l hl => by simp [(hmarks l hl).1]
  rw [Gherkin.Dialect.readBody, hloud]
  congr 1
  cases hlines : ss.map (·.write lang) with
  | nil => rfl
  | cons l ls =>
    have hbegins := (hmarks l (by simp [hlines])).2
    rw [List.dropWhile_cons_of_neg (by simp [hbegins])]

/-- **Steps with texts** are all read exactly when the first of them continues no other step. -/
theorem readBody_write_eq_nil_iff (lang : Language) :
    ((dialectOf lang).readBody (ss.map (·.write lang))).2 = [] ↔
      ∀ s ∈ ss.head?, s.slot.type? ≠ none := by
  rw [readBody_write hss]
  cases ss with
  | nil => simp [Gherkin.Dialect.readSteps]
  | cons s ss =>
    have hread := readStep?_word s.slot lang s.text none
    rw [← write_of_ne_nil (hss s List.mem_cons_self).ne_nil, Option.or_none] at hread
    rw [List.map_cons, Gherkin.Dialect.readSteps, hread]
    cases htype : s.slot.type? with
    | none => simp [htype]
    | some type =>
      simpa [htype] using readSteps_write (fun r hr => hss r (List.mem_cons_of_mem s hr)) lang type

/-- Steps with texts that are all read are read as they are. -/
theorem readLines_write (h : ((dialectOf lang).readBody (ss.map (·.write lang))).2 = []) :
    readLines (ss.map (·.write lang)) lang = ss.map (·.write lang) := by
  rw [readLines_eq_filterMap h, List.filterMap_map, ← List.filterMap_eq_map]
  exact List.filterMap_congr fun s hs => rephrased?_write (hss s hs) lang

end Written

end StorySpec
