import StorySpec.Text

/-!
# Blank characters and trimming

A character is *blank* when it has the property White_Space of the character database: tab, line
feed, vertical tab, form feed, carriage return, space, U+0085, U+00A0, U+1680, U+2000 to U+200A,
U+2028, U+2029, U+202F, U+205F and U+3000.  The zero-width characters U+200B and U+FEFF are not.

## Main definitions

* `isBlank c`: whether `c` is blank.
* `Text.trimStart t`, `Text.trimEnd t`, `Text.trim t`: `t` without the blanks at its start, at its
  end, at both.

## Main results

* `trim_eq_self_iff`: a text is trimmed exactly when it neither begins nor ends with a blank.
-/

namespace StorySpec

/-- Whether a character has the property White_Space. -/
def isBlank (c : Char) : Bool :=
  let n := c.toNat
  n == 0x20 || (0x9 ≤ n && n ≤ 0xD) || n == 0x85 || n == 0xA0 || n == 0x1680 ||
    (0x2000 ≤ n && n ≤ 0x200A) || n == 0x2028 || n == 0x2029 || n == 0x202F || n == 0x205F ||
    n == 0x3000

@[simp] theorem isBlank_newline : isBlank '\n' = true := by decide

@[simp] theorem isBlank_space : isBlank ' ' = true := by decide

namespace Text

/-- The text without the blanks at its start. -/
def trimStart (t : Text) : Text :=
  t.dropWhile isBlank

/-- The text without the blanks at its end. -/
def trimEnd (t : Text) : Text :=
  (t.reverse.dropWhile isBlank).reverse

/-- The text without the blanks at its start and at its end. -/
def trim (t : Text) : Text :=
  trimEnd (trimStart t)

@[simp] theorem trim_nil : trim [] = [] := rfl

/-- A text begins with no blank exactly when there is nothing to trim at its start. -/
theorem trimStart_eq_self_iff {t : Text} :
    trimStart t = t ↔ ∀ c ∈ t.head?, isBlank c = false := by
  cases t with
  | nil => simp [trimStart]
  | cons c t =>
    simp only [trimStart, List.dropWhile_cons, List.head?_cons, Option.mem_some_iff, forall_eq']
    split
    · rename_i h
      simp only [h, Bool.true_eq_false, iff_false]
      intro hd
      have := (List.dropWhile_sublist isBlank (l := t)).length_le
      rw [hd, List.length_cons] at this
      omega
    · rename_i h
      simpa using h

/-- A text ends with no blank exactly when there is nothing to trim at its end. -/
theorem trimEnd_eq_self_iff {t : Text} :
    trimEnd t = t ↔ ∀ c ∈ t.getLast?, isBlank c = false := by
  have h := trimStart_eq_self_iff (t := t.reverse)
  rw [List.head?_reverse] at h
  rw [← h, trimEnd, trimStart, List.reverse_eq_iff]

theorem length_trimStart_le (t : Text) : (trimStart t).length ≤ t.length :=
  (List.dropWhile_sublist _).length_le

theorem length_trimEnd_le (t : Text) : (trimEnd t).length ≤ t.length := by
  simpa [trimEnd, trimStart] using length_trimStart_le t.reverse

/-- **A text is trimmed** exactly when it neither begins nor ends with a blank. -/
theorem trim_eq_self_iff {t : Text} :
    trim t = t ↔ (∀ c ∈ t.head?, isBlank c = false) ∧ ∀ c ∈ t.getLast?, isBlank c = false := by
  rw [← trimStart_eq_self_iff, ← trimEnd_eq_self_iff]
  constructor
  · intro h
    have hstart : trimStart t = t := by
      have h₁ := length_trimStart_le t
      have h₂ := length_trimEnd_le (trimStart t)
      rw [show trimEnd (trimStart t) = t from h] at h₂
      exact (List.dropWhile_sublist _).eq_of_length (Nat.le_antisymm h₁ h₂)
    exact ⟨hstart, by rwa [trim, hstart] at h⟩
  · rintro ⟨h₁, h₂⟩
    rw [trim, h₁, h₂]

end Text

end StorySpec
