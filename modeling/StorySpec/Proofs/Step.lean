import Mathlib.Data.List.TakeWhile
import StorySpec.Proofs.Text.LowerCase
import StorySpec.Proofs.Text.Split
import StorySpec.Proofs.Text.Trim
import StorySpec.Step

/-!
# Writing steps and reading them again

A step that is written with its keyword in some language is read again as the same step in that
language: the slot and the text stay what they were.  So it is with any spelling of a keyword, since
no keyword holds a blank in any case.

## Main results

* `not_isBlank_of_recognise?`: keywords are not empty and hold no blanks.
* `ofText?_eq_some`: a line that is made of a keyword and a text is read as these.
* `ofText?_write`: a written step is read again.
* `ofText?_translateStep`: translating a line keeps its slot and its text.
* `exists_trim_eq`: a line that is read consists of its keyword, blanks and its text.
* `translateStep_translateStep`: of two translations only the later one counts.
* `translateStep_stable`: a line and its translations.
-/

namespace StorySpec

/-- Keywords are not empty and hold no blanks, in whatever case they are written. -/
theorem Keyword.not_isBlank_of_recognise? {w : Text} {known : Language × Slot}
    (h : recognise? w = some known) : w ≠ [] ∧ ∀ c ∈ w, isBlank c = false := by
  have hlower : Text.lower (known.2.word known.1) = Text.lower w := by
    simpa using List.find?_some h
  have hall : ∀ (s : Slot) (l : Language),
      (Text.lower (s.word l) != [] && (Text.lower (s.word l)).all (!isBlank ·)) = true := by
    intro s l
    cases s <;> cases l <;> decide +kernel
  obtain ⟨hne, hblank⟩ : Text.lower w ≠ [] ∧ ∀ c ∈ Text.lower w, isBlank c = false := by
    simpa [hlower] using hall known.2 known.1
  refine ⟨?_, fun c hc => ?_⟩
  · rintro rfl
    exact hne rfl
  · by_contra hcblank
    have hcblank : isBlank c = true := by simpa using hcblank
    rw [hblank c (Text.mem_lower_of_isBlank hcblank hc)] at hcblank
    exact Bool.noConfusion hcblank

theorem Keyword.trim_of_recognise? {w : Text} {known : Language × Slot}
    (h : recognise? w = some known) : Text.trim w = w := by
  obtain ⟨-, hblank⟩ := not_isBlank_of_recognise? h
  refine Text.trim_eq_self_iff.2 ⟨fun c hc => ?_, fun c hc => ?_⟩
  · exact hblank c (List.mem_of_mem_head? hc)
  · exact hblank c (List.mem_of_getLast? hc)

namespace Slot

/-- The words of slots are not empty and hold no blanks. -/
theorem word_ne_nil_and_not_blank (s : Slot) (l : Language) :
    s.word l ≠ [] ∧ ∀ c ∈ s.word l, isBlank c = false :=
  Keyword.not_isBlank_of_recognise? (Keyword.recognise?_word s l)

theorem trim_word (s : Slot) (l : Language) : Text.trim (s.word l) = s.word l :=
  Keyword.trim_of_recognise? (Keyword.recognise?_word s l)

end Slot

namespace StepLine

/-- **A line that is made of a keyword and a text** is read as these, be the text empty or not. -/
theorem ofText?_eq_some {t w v : Text} {l : Language} {slot : Slot}
    (hw : Keyword.recognise? w = some (l, slot)) (hv : Text.trim v = v)
    (ht : Text.trim t = if v = [] then w else w ++ ' ' :: v) :
    ofText? t = some { slot, language := l, word := w, text := v } := by
  obtain ⟨-, hblank⟩ := Keyword.not_isBlank_of_recognise? hw
  have hword : ∀ c ∈ w, (!isBlank c) = true := fun c hc => by simp [hblank c hc]
  -- the first blank is the one between the word and the text, if there is a text
  have hsplit : (Text.trim t).takeWhile (!isBlank ·) = w ∧
      Text.trimStart ((Text.trim t).dropWhile (!isBlank ·)) = v := by
    rw [ht]
    split
    · rename_i hnil
      rw [List.takeWhile_eq_self_iff.2 hword, List.dropWhile_eq_nil_iff.2 hword, hnil]
      exact ⟨rfl, rfl⟩
    · have hstart : Text.trimStart v = v :=
        Text.trimStart_eq_self_iff.2 (Text.trim_eq_self_iff.1 hv).1
      rw [List.takeWhile_append_of_pos hword, List.dropWhile_append_of_pos hword]
      refine ⟨by simp, ?_⟩
      simpa [Text.trimStart] using hstart
  unfold ofText?
  simp only [hsplit, hw, Option.map_some]

/-- A keyword, a space and any text are read as what they are, blanks around the text aside. -/
theorem ofText?_append_trim {w : Text} {l : Language} {slot : Slot}
    (hw : Keyword.recognise? w = some (l, slot)) (v : Text) :
    ofText? (w ++ ' ' :: v) = some { slot, language := l, word := w, text := Text.trim v } := by
  obtain ⟨hne, hblank⟩ := Keyword.not_isBlank_of_recognise? hw
  have hword : ∀ c ∈ w, (!isBlank c) = true := fun c hc => by simp [hblank c hc]
  let behind := Text.trimEnd (' ' :: v)
  have hline : Text.trim (w ++ ' ' :: v) = w ++ behind :=
    Text.trim_around (Keyword.trim_of_recognise? hw) hne [] (' ' :: v)
  have hsplit : (w ++ behind).takeWhile (!isBlank ·) = w ∧
      (w ++ behind).dropWhile (!isBlank ·) = behind := by
    refine takeWhile_dropWhile_eq_iff.2 ⟨rfl, hword, fun c hc => ?_⟩
    have hhead := Text.head?_of_isPrefix (Text.trimEnd_isPrefix (' ' :: v)) c hc
    obtain rfl : ' ' = c := by simpa using hhead
    rfl
  have htext : Text.trimStart behind = Text.trim v := by
    rw [Text.trimStart_trimEnd, Text.trim_cons_of_isBlank isBlank_space]
  unfold ofText?
  simp only [hline, hsplit, htext, hw, Option.map_some]

/-- A keyword, a space and any trimmed text are read as what they are, even if the line ends with
that space. -/
theorem ofText?_append {w v : Text} {l : Language} {slot : Slot}
    (hw : Keyword.recognise? w = some (l, slot)) (hv : Text.trim v = v) :
    ofText? (w ++ ' ' :: v) = some { slot, language := l, word := w, text := v } := by
  rw [ofText?_append_trim hw, hv]

/-- The text of a step is trimmed. -/
theorem trim_text {t : Text} {s : StepLine} (h : ofText? t = some s) :
    Text.trim s.text = s.text := by
  obtain ⟨⟨l, slot⟩, -, rfl⟩ := Option.map_eq_some_iff.1 h
  exact Text.trim_trimStart_of_suffix (List.dropWhile_suffix _) (Text.trim_trim t)

theorem recognise?_word {t : Text} {s : StepLine} (h : ofText? t = some s) :
    Keyword.recognise? s.word = some (s.language, s.slot) := by
  obtain ⟨⟨l, slot⟩, hrecognise, rfl⟩ := Option.map_eq_some_iff.1 h
  exact hrecognise

theorem trim_write {s : StepLine} (h : Text.trim s.text = s.text) (l : Language) :
    Text.trim (s.write l) = s.write l := by
  unfold write
  split
  · exact s.slot.trim_word l
  · rename_i hne
    exact Text.trim_append [' '] (s.slot.trim_word l) (s.slot.word_ne_nil_and_not_blank l).1 h hne

/-- **A written step is read again**, with the keyword that it was written with. -/
theorem ofText?_write {s : StepLine} (h : Text.trim s.text = s.text) (l : Language) :
    ofText? (s.write l) =
      some { slot := s.slot, language := l, word := s.slot.word l, text := s.text } :=
  ofText?_eq_some (Keyword.recognise?_word s.slot l) h (trim_write h l)

end StepLine

/-- **Translating a line** keeps its slot and its text; a line without keyword has none
afterwards, either. -/
theorem ofText?_translateStep (t : Text) (l : Language) :
    StepLine.ofText? (translateStep t l) =
      (StepLine.ofText? t).map fun s =>
        { slot := s.slot, language := l, word := s.slot.word l, text := s.text } := by
  unfold translateStep
  split
  · rename_i s h
    rw [StepLine.ofText?_write (StepLine.trim_text h), h]
    rfl
  · rename_i h
    rw [h]
    rfl

/-! ## Lines and their translations -/

/-- **A line that is read** consists, blanks around it aside, of its keyword, of blanks and of its
text; there are blanks exactly when there is a text. -/
theorem StepLine.exists_trim_eq {t : Text} {s : StepLine} (h : ofText? t = some s) :
    ∃ blanks : Text, Text.trim t = s.word ++ blanks ++ s.text ∧
      (∀ c ∈ blanks, isBlank c = true) ∧ (blanks = [] ↔ s.text = []) := by
  obtain ⟨known, -, rfl⟩ := Option.map_eq_some_iff.1 h
  let rest := (Text.trim t).dropWhile (!isBlank ·)
  have hline : Text.trim t = (Text.trim t).takeWhile (!isBlank ·) ++ rest :=
    List.takeWhile_append_dropWhile.symm
  have hrest : rest = rest.takeWhile isBlank ++ Text.trimStart rest :=
    List.takeWhile_append_dropWhile.symm
  have hblank : ∀ c ∈ rest.takeWhile isBlank, isBlank c = true := fun c hc =>
    List.mem_takeWhile_imp hc
  refine ⟨rest.takeWhile isBlank, ?_, hblank, ?_⟩
  · rw [List.append_assoc]
    exact hline.trans (congrArg _ hrest)
  · change _ ↔ Text.trimStart rest = []
    constructor
    · intro hnil
      cases hcons : rest with
      | nil => rfl
      | cons c r =>
        have hc : isBlank c = true := by
          have hhead := List.head?_dropWhile_not (!isBlank ·) (Text.trim t)
          rw [show List.dropWhile _ (Text.trim t) = c :: r from hcons] at hhead
          simpa using hhead
        rw [hcons, List.takeWhile_cons_of_pos hc] at hnil
        cases hnil
    · intro hnil
      rw [hnil, List.append_nil] at hrest
      by_contra hne
      have hlast := Text.getLast?_trim t
      rw [hline, List.getLast?_append, hrest, List.getLast?_eq_some_getLast hne] at hlast
      have hend := hlast _ rfl
      rw [hblank _ (List.getLast_mem hne)] at hend
      cases hend

/-- Of two translations of a line only the later one counts. -/
theorem translateStep_translateStep (t : Text) (m l : Language) :
    translateStep (translateStep t m) l = translateStep t l := by
  cases h : StepLine.ofText? t with
  | none => rw [translateStep_of_none h]
  | some s =>
    have hread := ofText?_translateStep t m
    rw [h, Option.map_some] at hread
    rw [translateStep_of_some hread, translateStep_of_some h]
    rfl

/-- **A line and its translations.**  A line that is read as a step is made of its keyword, of
blanks and of its trimmed text.  Its translation is made of the word for the slot in the new
language and of the same text, and is read as these; translating it again into that language
changes nothing, nor does going to the other language and back.  A line that is not read as a step
is its own translation. -/
theorem translateStep_stable (line : Text) :
    match StepLine.ofText? line with
    | some s =>
      (∃ blanks : Text, Text.trim line = s.word ++ blanks ++ s.text ∧
          (∀ c ∈ blanks, isBlank c = true) ∧ (blanks = [] ↔ s.text = [])) ∧
        (∀ c ∈ s.word, isBlank c = false) ∧ Text.trim s.text = s.text ∧
        ∀ l : Language,
          let r := translateStep line l
          r = (if s.text = [] then s.slot.word l else s.slot.word l ++ ' ' :: s.text) ∧
            StepLine.ofText? r =
              some { slot := s.slot, language := l, word := s.slot.word l, text := s.text } ∧
            translateStep r l = r ∧ translateStep (translateStep r l.other) l = r
    | none => ∀ l : Language, translateStep line l = line := by
  cases h : StepLine.ofText? line with
  | none => exact fun l => translateStep_of_none h
  | some s =>
    have hword := Keyword.not_isBlank_of_recognise? (StepLine.recognise?_word h)
    refine ⟨StepLine.exists_trim_eq h, hword.2, StepLine.trim_text h, fun l => ?_⟩
    intro r
    have hr : r = s.write l := translateStep_of_some h
    refine ⟨hr, ?_, translateStep_translateStep line l l, ?_⟩
    · rw [hr]
      exact StepLine.ofText?_write (StepLine.trim_text h) l
    · rw [translateStep_translateStep, translateStep_translateStep]

end StorySpec
