import StorySpec.Feature.FileName
import StorySpec.Proofs.Text.LowerCase
import StorySpec.Proofs.Text.Split

/-!
# The words of file names

A file name is made of words of ASCII letters and digits without capitals, and single underscores
stand between them.  The words are the first runs of letters and digits in the lower-case form of a
text; where there are none, the name is a word of its own.

## Main definitions

* `IsFileName name`: a text of letters, digits and underscores.
* `IsWordName name`: a text of words with single underscores between them.

## Main results

* `suggestedFileName_eq`: the words of a name are runs of the text that it is made of.
* `isWordName_suggestedFileName`: every name that is suggested is made of words.
* `suggestedFileName_eq_take`: a name with fewer words is the beginning of one with more.
-/

namespace StorySpec

variable {t word name : Text} {m n : Nat}

/-- A text of ASCII letters, digits and underscores. -/
structure IsFileName (name : Text) : Prop where
  ne_nil : name ≠ []
  chars : ∀ c ∈ name, c.isAlphanum = true ∨ c = '_'

/-- A file name is no path of several names. -/
theorem IsFileName.noSlash (h : IsFileName name) : '/' ∉ name := by
  intro hmem
  rcases h.chars '/' hmem with hslash | hslash <;> revert hslash <;> decide

/-! ## Names made of words -/

/-- ASCII letters and digits, one or more, and no capital among them. -/
structure IsNameWord (word : Text) : Prop where
  ne_nil : word ≠ []
  chars : ∀ c ∈ word, c.isLower = true ∨ c.isDigit = true

/-- One or more words with single underscores between them. -/
def IsWordName (name : Text) : Prop :=
  ∃ words, words ≠ [] ∧ (∀ word ∈ words, IsNameWord word) ∧ name = Text.joined ['_'] words

theorem isAlphanum_iff {c : Char} :
    c.isAlphanum = true ↔ c.isUpper = true ∨ c.isLower = true ∨ c.isDigit = true := by
  change (c.isUpper || c.isLower || c.isDigit) = true ↔ _
  rw [Bool.or_eq_true, Bool.or_eq_true, or_assoc]

theorem IsNameWord.isAlphanum (h : IsNameWord word) : ∀ c ∈ word, c.isAlphanum = true := by
  intro c hc
  exact isAlphanum_iff.2 (Or.inr (h.chars c hc))

theorem IsNameWord.noUnderscore (h : IsNameWord word) : '_' ∉ word := fun hmem =>
  absurd (h.isAlphanum '_' hmem) (by decide)

/-- A name made of words is a file name. -/
theorem IsWordName.isFileName (h : IsWordName name) : IsFileName name := by
  obtain ⟨words, hne, hwords, rfl⟩ := h
  obtain ⟨first, rest, rfl⟩ := List.exists_cons_of_ne_nil hne
  constructor
  · have hfirst := (hwords first List.mem_cons_self).ne_nil
    cases rest <;> simp [hfirst]
  · intro c hc
    rcases Text.mem_joined hc with hc | ⟨word, hmem, hc⟩
    · exact Or.inr (List.mem_singleton.1 hc)
    · exact Or.inl ((hwords word hmem).isAlphanum c hc)

/-! ## The words of a text -/

/-- The words for file names are runs of letters and digits. -/
theorem areRuns_fileNameWords (t : Text) :
    AreRuns Char.isAlphanum (Text.lower t) (fileNameWords t) :=
  areRuns_iff.2 rfl

/-- The words of a text are made of letters and digits, without capitals. -/
theorem isNameWord_of_mem_fileNameWords (h : word ∈ fileNameWords t) : IsNameWord word := by
  obtain ⟨hne, hkind, hpiece⟩ := (areRuns_fileNameWords t).of_mem h
  refine ⟨hne, fun c hc => ?_⟩
  have hcapital : c.isUpper = false := Text.not_isUpper_of_mem_lower c (hpiece.subset hc)
  exact (isAlphanum_iff.1 (hkind c hc)).resolve_left (by simp [hcapital])

/-- **The words of a name** are the first words of a text. -/
theorem suggestedFileName_eq (h : 1 ≤ n) :
    suggestedFileName t n =
      if fileNameWords t = [] then fallbackFileName
      else Text.joined ['_'] ((fileNameWords t).take n) := by
  obtain ⟨n, rfl⟩ := Nat.exists_eq_add_of_le' h
  unfold suggestedFileName
  cases fileNameWords t <;> rfl

theorem isNameWord_fallbackFileName : IsNameWord fallbackFileName :=
  ⟨by decide, by simp [fallbackFileName]⟩

/-- **Every name that is suggested** is made of words. -/
theorem isWordName_suggestedFileName (t : Text) (n : Nat) : IsWordName (suggestedFileName t n) := by
  unfold suggestedFileName
  cases hwords : (fileNameWords t).take n with
  | nil =>
    refine ⟨[fallbackFileName], by simp, fun word hword => ?_, (Text.joined_singleton _ _).symm⟩
    rw [List.mem_singleton.1 hword]
    exact isNameWord_fallbackFileName
  | cons first rest =>
    refine ⟨first :: rest, by simp, fun word hword => ?_, rfl⟩
    rw [← hwords] at hword
    exact isNameWord_of_mem_fileNameWords (List.mem_of_mem_take hword)

/-- The words of a name are found between its underscores. -/
theorem splitOn_joined_words {words : List Text} (hne : words ≠ [])
    (h : ∀ word ∈ words, IsNameWord word) : (Text.joined ['_'] words).splitOn '_' = words :=
  List.splitOn_intercalate '_' (fun word hword => (h word hword).noUnderscore) hne

/-- **A name with fewer words** is the beginning of one with more. -/
theorem suggestedFileName_eq_take (hm : 1 ≤ m) (hmn : m ≤ n) :
    suggestedFileName t m =
      Text.joined ['_'] (((suggestedFileName t n).splitOn '_').take m) := by
  rw [suggestedFileName_eq hm, suggestedFileName_eq (hm.trans hmn)]
  split
  · have hone : fallbackFileName.splitOn '_' = [fallbackFileName] :=
      List.splitOn_eq_singleton isNameWord_fallbackFileName.noUnderscore
    rw [hone, List.take_of_length_le (by simpa using hm), Text.joined_singleton]
  · rename_i hne
    have htake : (fileNameWords t).take n ≠ [] := by
      rw [ne_eq, List.take_eq_nil_iff, not_or]
      exact ⟨by omega, hne⟩
    have hwords : ∀ word ∈ (fileNameWords t).take n, IsNameWord word := fun word hword =>
      isNameWord_of_mem_fileNameWords (List.mem_of_mem_take hword)
    rw [splitOn_joined_words htake hwords, List.take_take, Nat.min_eq_left hmn]

end StorySpec
