import Mathlib.Data.List.TakeWhile
import StorySpec.Text.Blank

/-!
# Trimmed texts

What trimming leaves neither begins nor ends with a blank, and is left alone by trimming again.

## Main results

* `trim_trim`: trimming twice is trimming once.
* `trim_trimStart_of_suffix`, `trim_append`: texts that are trimmed because of what they
  are made of.
* `trim_isInfix`: what trimming leaves stands in the text.
* `trim_around`: trimming around a text that is trimmed.
* `exists_append_trimStart`, `trimStart_append`: the blanks at the beginning of a text.
-/

namespace StorySpec.Text

theorem head?_trimStart (t : Text) : ∀ c ∈ (trimStart t).head?, isBlank c = false := by
  intro c hc
  have h := List.head?_dropWhile_not isBlank t
  rw [show (List.dropWhile isBlank t).head? = some c from hc] at h
  simpa using h

@[simp] theorem trimStart_trimStart (t : Text) : trimStart (trimStart t) = trimStart t :=
  trimStart_eq_self_iff.2 (head?_trimStart t)

theorem trimEnd_eq_reverse (t : Text) : trimEnd t = (trimStart t.reverse).reverse := rfl

theorem getLast?_trimEnd (t : Text) : ∀ c ∈ (trimEnd t).getLast?, isBlank c = false := by
  rw [trimEnd_eq_reverse, List.getLast?_reverse]
  exact head?_trimStart t.reverse

theorem trimStart_suffix (t : Text) : trimStart t <:+ t :=
  List.dropWhile_suffix _

theorem trimEnd_isPrefix (t : Text) : trimEnd t <+: t := by
  rw [← List.reverse_suffix, trimEnd_eq_reverse, List.reverse_reverse]
  exact trimStart_suffix t.reverse

/-- What trimming leaves stands in the text. -/
theorem trim_isInfix (t : Text) : trim t <:+: t :=
  (trimEnd_isPrefix _).isInfix.trans (trimStart_suffix t).isInfix

theorem head?_of_isPrefix {s t : Text} (h : s <+: t) : ∀ c ∈ s.head?, c ∈ t.head? := by
  obtain ⟨u, rfl⟩ := h
  cases s with
  | nil => simp
  | cons d s => simp

theorem getLast?_of_isSuffix {s t : Text} (h : s <:+ t) : ∀ c ∈ s.getLast?, c ∈ t.getLast? := by
  obtain ⟨u, rfl⟩ := h
  intro c hc
  rw [Option.mem_def] at hc ⊢
  rw [List.getLast?_append, hc]
  rfl

theorem head?_trim (t : Text) : ∀ c ∈ (trim t).head?, isBlank c = false := fun c hc =>
  head?_trimStart t c (head?_of_isPrefix (trimEnd_isPrefix _) c hc)

theorem getLast?_trim (t : Text) : ∀ c ∈ (trim t).getLast?, isBlank c = false :=
  getLast?_trimEnd (trimStart t)

/-- Trimming twice is trimming once. -/
@[simp] theorem trim_trim (t : Text) : trim (trim t) = trim t :=
  trim_eq_self_iff.2 ⟨head?_trim t, getLast?_trim t⟩

/-- A text without blanks is trimmed. -/
theorem trim_of_not_blank {t : Text} (h : ∀ c ∈ t, isBlank c = false) : trim t = t :=
  trim_eq_self_iff.2
    ⟨fun c hc => h c (List.mem_of_mem_head? hc), fun c hc => h c (List.mem_of_mem_getLast? hc)⟩

/-- The end of a trimmed text is trimmed once the blanks at its start are away. -/
theorem trim_trimStart_of_suffix {s t : Text} (h : s <:+ t) (ht : trim t = t) :
    trim (trimStart s) = trimStart s := by
  refine trim_eq_self_iff.2 ⟨head?_trimStart s, fun c hc => ?_⟩
  exact (trim_eq_self_iff.1 ht).2 c (getLast?_of_isSuffix ((trimStart_suffix s).trans h) c hc)

/-- A text is trimmed when it begins with a trimmed text and ends with one. -/
theorem trim_append {s u : Text} (m : Text) (hs : trim s = s) (hsne : s ≠ []) (hu : trim u = u)
    (hune : u ≠ []) : trim (s ++ (m ++ u)) = s ++ (m ++ u) := by
  refine trim_eq_self_iff.2 ⟨?_, ?_⟩
  · obtain ⟨c, s, rfl⟩ := List.exists_cons_of_ne_nil hsne
    exact (trim_eq_self_iff.1 hs).1
  · obtain ⟨u, c, rfl⟩ := (List.eq_nil_or_concat u).resolve_left hune
    simpa [List.getLast?_append] using (trim_eq_self_iff.1 hu).2

theorem trim_cons_of_isBlank {c : Char} (h : isBlank c = true) (t : Text) :
    trim (c :: t) = trim t := by
  rw [trim, trimStart, List.dropWhile_cons_of_pos h, trim, trimStart]

theorem trim_concat_of_isBlank {c : Char} (h : isBlank c = true) (t : Text) :
    trim (t ++ [c]) = trim t := by
  rw [trim, trim, trimStart, trimStart, List.dropWhile_append]
  split
  · rename_i hnil
    rw [List.isEmpty_iff.1 hnil]
    simp [h]
  · simp [trimEnd, h]

/-- One blank at either end is trimmed away. -/
theorem trim_spaced (t : Text) : trim (' ' :: (t ++ [' '])) = trim t := by
  rw [trim_cons_of_isBlank isBlank_space, trim_concat_of_isBlank isBlank_space]

/-- Nothing is trimmed at the end of a text that ends with no blank. -/
theorem trim_concat {c : Char} (hc : isBlank c = false) (t : Text) :
    trim (t ++ [c]) = trimStart t ++ [c] := by
  have hstart : trimStart (t ++ [c]) = trimStart t ++ [c] := by
    simp only [trimStart, List.dropWhile_append, List.isEmpty_iff]
    split
    · rename_i hnil
      simp [hnil, hc]
    · rfl
  rw [trim, hstart]
  exact trimEnd_eq_self_iff.2 (by simpa using hc)

/-- A text is blank seen from its end exactly when it is blank seen from its start. -/
theorem trimEnd_eq_nil_iff {t : Text} : trimEnd t = [] ↔ trimStart t = [] := by
  simp [trimEnd, trimStart, List.dropWhile_eq_nil_iff]

/-- Trimming leaves nothing of a text exactly when all of it is blank. -/
theorem trim_eq_nil_iff {t : Text} : trim t = [] ↔ ∀ c ∈ t, isBlank c = true := by
  rw [trim, trimEnd_eq_nil_iff, trimStart_trimStart, trimStart, List.dropWhile_eq_nil_iff]

/-- The blanks at the end of a text are those of its last part, unless that is blank. -/
theorem trimEnd_append (s t : Text) :
    trimEnd (s ++ t) = if trimEnd t = [] then trimEnd s else s ++ trimEnd t := by
  simp only [trimEnd, List.reverse_append, List.dropWhile_append, List.isEmpty_iff,
    List.reverse_eq_nil_iff]
  split <;> simp

/-- What trimming takes away at the start of a text is blank. -/
theorem exists_append_trimStart (t : Text) :
    ∃ blanks : Text, t = blanks ++ trimStart t ∧ ∀ c ∈ blanks, isBlank c = true :=
  ⟨t.takeWhile isBlank, List.takeWhile_append_dropWhile.symm,
    fun _ hc => List.mem_takeWhile_imp hc⟩

/-- Blanks before a text that begins with none are all that is trimmed at its start. -/
theorem trimStart_append {blanks t : Text} (hblanks : ∀ c ∈ blanks, isBlank c = true)
    (ht : ∀ c ∈ t.head?, isBlank c = false) : trimStart (blanks ++ t) = t := by
  rw [trimStart, List.dropWhile_append_of_pos hblanks]
  exact trimStart_eq_self_iff.2 ht

/-- What trimming takes away at the end of a text is blank. -/
theorem exists_trimEnd_append (t : Text) :
    ∃ blanks : Text, t = trimEnd t ++ blanks ∧ ∀ c ∈ blanks, isBlank c = true := by
  refine ⟨(t.reverse.takeWhile isBlank).reverse, ?_, fun c hc => ?_⟩
  · rw [trimEnd, ← List.reverse_append, List.takeWhile_append_dropWhile, List.reverse_reverse]
  · exact List.mem_takeWhile_imp (List.mem_reverse.1 hc)

/-- Around a text that is trimmed, blanks are trimmed at the start of what stands before it and at
the end of what stands behind it. -/
theorem trim_around {s : Text} (hs : trim s = s) (hne : s ≠ []) (before behind : Text) :
    trim (before ++ (s ++ behind)) = trimStart before ++ (s ++ trimEnd behind) := by
  have hstart : trimStart (before ++ (s ++ behind)) = trimStart before ++ (s ++ behind) := by
    have hbegin : trimStart (s ++ behind) = s ++ behind := by
      refine trimStart_eq_self_iff.2 fun c hc => (trim_eq_self_iff.1 hs).1 c ?_
      obtain ⟨d, s, rfl⟩ := List.exists_cons_of_ne_nil hne
      exact hc
    simp only [trimStart, List.dropWhile_append, List.isEmpty_iff] at hbegin ⊢
    split
    · rename_i hnil
      rw [hnil, hbegin, List.nil_append]
    · rfl
  have hend : trimEnd s = s := trimEnd_eq_self_iff.2 (trim_eq_self_iff.1 hs).2
  rw [trim, hstart, trimEnd_append, trimEnd_append, hend]
  by_cases hnil : trimEnd behind = [] <;> simp [hnil, hne]

/-- Trimming does what is left to do when the blanks at the end are away. -/
theorem trim_trimEnd (t : Text) : trim (trimEnd t) = trim t := by
  induction t with
  | nil => rfl
  | cons c t ih =>
    by_cases hc : isBlank c = true
    · rw [trim_cons_of_isBlank hc, ← ih, ← List.singleton_append, trimEnd_append]
      split
      · rename_i hnil
        rw [hnil]
        simp [trimEnd, hc]
      · exact trim_cons_of_isBlank hc (trimEnd t)
    · have hfirst : ∀ d ∈ (c :: t).head?, isBlank d = false := by simpa using hc
      have htrim : trim (c :: t) = trimEnd (c :: t) :=
        congrArg trimEnd (trimStart_eq_self_iff.2 hfirst)
      rw [htrim]
      refine trim_eq_self_iff.2 ⟨fun d hd => ?_, getLast?_trimEnd _⟩
      exact hfirst d (head?_of_isPrefix (trimEnd_isPrefix _) d hd)

/-- Blanks may be trimmed at the end first. -/
theorem trimStart_trimEnd (t : Text) : trimStart (trimEnd t) = trim t := by
  have hend : trimEnd (trimStart (trimEnd t)) = trimStart (trimEnd t) :=
    trimEnd_eq_self_iff.2 fun c hc =>
      getLast?_trimEnd t c (getLast?_of_isSuffix (trimStart_suffix _) c hc)
  rw [← trim_trimEnd, trim, hend]

end StorySpec.Text
