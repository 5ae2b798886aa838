import StorySpec.Text.Blank
import StorySpec.Text.LowerCase

/-!
# Texts in lower case

Blanks have no case, so a text in lower case has the blanks of the text as it is written.  Without
a capital sigma, whose lower-case form depends on what stands around it, a text keeps its
lower-case form whatever follows it.  Two letters beyond ASCII have lower-case forms that begin in
ASCII, the Kelvin sign and the capital `İ`, and no letter has a capital of ASCII for its lower-case
form.

## Main definitions

* `isFormOfAscii d`: only an ASCII character has `d` for lower-case form.

## Main results

* `lowerChar_of_isBlank`: a blank is its own lower-case form.
* `mem_lower_of_isBlank`: the blanks of a text are in its lower-case form.
* `lower_isPrefix_append`: a text without capital sigmas and a longer one begin alike in lower case.
* `lowerChar_cases`: where the characters of a lower-case form are.
* `not_isUpper_of_mem_lower`: no capital of ASCII is in a text in lower case.
* `lower_eq_iff_lowerAscii_eq`: a text whose lower-case form is one of ASCII alone.
* `apply_form`: what is the same for the two forms of every ASCII letter.
* `upperAscii_eq_iff`: texts that differ in the case of ASCII letters at most.
-/

namespace StorySpec

/-- The numbers of the blanks. -/
def blankNumbers : List Nat :=
  List.range' 0x9 5 ++ [0x20, 0x85, 0xA0, 0x1680] ++ List.range' 0x2000 11 ++
    [0x2028, 0x2029, 0x202F, 0x205F, 0x3000]

theorem mem_blankNumbers {c : Char} (h : isBlank c = true) : c.toNat ∈ blankNumbers := by
  simp only [isBlank, Bool.or_eq_true, Bool.and_eq_true, beq_iff_eq, decide_eq_true_eq] at h
  simp only [blankNumbers, List.mem_append, List.mem_range'_1, List.mem_cons, List.not_mem_nil,
    or_false]
  omega

/-- A blank is its own lower-case form. -/
theorem lowerChar_of_isBlank {c : Char} (h : isBlank c = true) : lowerChar c = [c] := by
  have hall : ∀ n ∈ blankNumbers, lowerChar (Char.ofNat n) = [Char.ofNat n] := by decide +kernel
  have hc := hall c.toNat (mem_blankNumbers h)
  rwa [Char.ofNat_toNat] at hc

namespace Text

theorem mem_lowerAfter_of_isBlank {c : Char} (hc : isBlank c = true) {before t : Text}
    (h : c ∈ t) : c ∈ lowerAfter before t := by
  induction t generalizing before with
  | nil => exact absurd h List.not_mem_nil
  | cons d t ih =>
    rw [lowerAfter, List.mem_append]
    rcases List.mem_cons.1 h with rfl | htail
    · have hsigma : c ≠ 'Σ' := by
        rintro rfl
        exact absurd hc (by decide)
      left
      rw [if_neg hsigma, lowerChar_of_isBlank hc]
      exact List.mem_singleton_self c
    · exact Or.inr (ih htail)

/-- The blanks of a text are in its lower-case form. -/
theorem mem_lower_of_isBlank {c : Char} (hc : isBlank c = true) {t : Text} (h : c ∈ t) :
    c ∈ lower t :=
  mem_lowerAfter_of_isBlank hc h

/-! ## Beginnings of texts -/

/-- Neither lower-case form of the capital sigma is an ASCII character. -/
theorem not_sigma_of_lowerAfter_ascii {before t : Text}
    (h : ∀ c ∈ lowerAfter before t, c.toNat < 0x80) : 'Σ' ∉ t := by
  induction t generalizing before with
  | nil => exact List.not_mem_nil
  | cons c t ih =>
    simp only [lowerAfter, List.forall_mem_append] at h
    obtain ⟨hhere, hrest⟩ := h
    rw [List.mem_cons, not_or]
    refine ⟨?_, ih hrest⟩
    rintro rfl
    rw [if_pos rfl] at hhere
    split at hhere
    · exact absurd (hhere 'ς' (List.mem_singleton_self _)) (by decide)
    · exact absurd (hhere 'σ' (List.mem_singleton_self _)) (by decide)

theorem lowerAfter_append {s : Text} (h : 'Σ' ∉ s) (before t : Text) :
    lowerAfter before (s ++ t) = lowerAfter before s ++ lowerAfter (s.reverse ++ before) t := by
  induction s generalizing before with
  | nil => rfl
  | cons c s ih =>
    obtain ⟨hc, hs⟩ := List.ne_and_not_mem_of_not_mem_cons h
    simp [lowerAfter, hc.symm, ih hs]

/-- A text without capital sigmas and a longer one begin alike in lower case. -/
theorem lower_isPrefix_append {s : Text} (h : 'Σ' ∉ s) (t : Text) :
    lower s <+: lower (s ++ t) :=
  ⟨_, (lowerAfter_append h [] t).symm⟩

end Text

/-! ## Forms in ASCII -/

theorem isUpper_eq_true_iff {c : Char} : c.isUpper = true ↔ 0x41 ≤ c.toNat ∧ c.toNat ≤ 0x5A := by
  change decide (c.val ≥ 'A'.val ∧ c.val ≤ 'Z'.val) = true ↔ _
  rw [decide_eq_true_iff]
  exact Iff.rfl

/-- A number that is no character stands for the null character. -/
theorem toNat_ofNat_cases (n : Nat) : (Char.ofNat n).toNat = n ∨ (Char.ofNat n).toNat = 0 := by
  by_cases hvalid : n.isValidChar
  · have hchar : Char.ofNat n = Char.ofNatAux n hvalid := dif_pos hvalid
    rw [hchar]
    exact Or.inl rfl
  · have hnull : Char.ofNat n = '\x00' := dif_neg hvalid
    rw [hnull]
    exact Or.inr rfl

/-- Every run of letters beyond ASCII is shifted to beyond ASCII, but for the Kelvin sign. -/
theorem first_add_shift_cases : ∀ run ∈ caseRuns,
    0x80 ≤ (run.first : Int) + run.shift ∨
      run.first = run.last ∧ (run.first : Int) + run.shift = 'k'.toNat := by
  decide +kernel

/-- The lower-case form of a letter beyond ASCII is beyond ASCII, but for the Kelvin sign and for
the first character of the form of the capital `İ`. -/
theorem lowerChar_cases {c d : Char} (h : d ∈ lowerChar c) :
    (c.toNat < 0x80 ∧ d = c.toLower) ∨ d.toNat = 0 ∨ (c = 'İ' ∧ d = 'i') ∨ d = 'k' ∨
      0x80 ≤ d.toNat := by
  unfold lowerChar at h
  dsimp only at h
  split at h
  · rename_i hascii
    exact Or.inl ⟨hascii, List.mem_singleton.1 h⟩
  · rename_i hbeyond
    right
    split at h
    · rename_i hcapital
      rcases List.mem_cons.1 h with rfl | h
      · exact Or.inr (Or.inl ⟨Char.toNat_inj.1 hcapital, rfl⟩)
      · obtain rfl := List.mem_singleton.1 h
        exact Or.inr (Or.inr (Or.inr (by decide)))
    · split at h
      · rename_i run hrun
        have hfits := List.find?_some hrun
        simp only [Bool.and_eq_true, decide_eq_true_iff] at hfits
        obtain rfl := List.mem_singleton.1 h
        rcases first_add_shift_cases run (List.mem_of_find?_eq_some hrun) with hshift | hkelvin
        · rcases toNat_ofNat_cases (c.toNat + run.shift).toNat with hform | hform <;> omega
        · have hform : (c.toNat + run.shift).toNat = 'k'.toNat := by omega
          rw [hform, Char.ofNat_toNat]
          exact Or.inr (Or.inr (Or.inl rfl))
      · obtain rfl := List.mem_singleton.1 h
        omega

theorem not_isUpper_of_mem_lowerChar {c d : Char} (h : d ∈ lowerChar c) : d.isUpper = false := by
  rcases lowerChar_cases h with ⟨hascii, rfl⟩ | hnull | ⟨-, rfl⟩ | rfl | hform
  · have hall : ∀ n < 0x80, (Char.ofNat n).toLower.isUpper = false := by decide
    have hlower := hall c.toNat hascii
    rwa [Char.ofNat_toNat] at hlower
  · rw [← Bool.not_eq_true, isUpper_eq_true_iff]
    omega
  · rfl
  · rfl
  · rw [← Bool.not_eq_true, isUpper_eq_true_iff]
    omega

theorem lowerChar_ne_nil (c : Char) : lowerChar c ≠ [] := by
  unfold lowerChar
  dsimp only
  split
  · exact List.cons_ne_nil _ _
  · split
    · exact List.cons_ne_nil _ _
    · split <;> exact List.cons_ne_nil _ _

/-- Whether a character is in ASCII and no character beyond ASCII has it for lower-case form. -/
def isFormOfAscii (d : Char) : Bool :=
  0 < d.toNat && d.toNat < 0x80 && d != 'k'

theorem toNat_lt_of_isFormOfAscii {d : Char} (h : isFormOfAscii d = true) : d.toNat < 0x80 := by
  simp only [isFormOfAscii, Bool.and_eq_true, decide_eq_true_iff] at h
  exact h.1.2

theorem toNat_lt_of_lowerChar {c : Char} (h : ∀ d ∈ lowerChar c, isFormOfAscii d = true) :
    c.toNat < 0x80 := by
  refine Nat.lt_of_not_le fun hbeyond => ?_
  -- the form has a character that is in ASCII, so that `c` is the Kelvin sign or the capital `İ`
  obtain ⟨d, hd⟩ := List.exists_mem_of_ne_nil _ (lowerChar_ne_nil c)
  have hform := h d hd
  simp only [isFormOfAscii, Bool.and_eq_true, decide_eq_true_iff, bne_iff_ne] at hform
  rcases lowerChar_cases hd with ⟨hascii, -⟩ | hnull | ⟨rfl, -⟩ | hk | hd'
  · omega
  · omega
  · exact absurd (h (Char.ofNat 0x307) (by decide +kernel)) (by decide)
  · exact hform.2 hk
  · omega

namespace Text

theorem not_isUpper_of_mem_lowerAfter {before t : Text} :
    ∀ c ∈ lowerAfter before t, c.isUpper = false := by
  induction t generalizing before with
  | nil => exact fun c hc => absurd hc List.not_mem_nil
  | cons d t ih =>
    intro c hc
    rw [lowerAfter, List.mem_append] at hc
    rcases hc with hc | hc
    · split at hc
      · have hforms : ∀ e ∈ ['ς', 'σ'], e.isUpper = false := by simp
        apply hforms c
        split at hc <;> simp_all
      · exact not_isUpper_of_mem_lowerChar hc
    · exact ih c hc

/-- No capital of ASCII is in a text in lower case. -/
theorem not_isUpper_of_mem_lower {t : Text} : ∀ c ∈ lower t, c.isUpper = false :=
  not_isUpper_of_mem_lowerAfter

theorem toNat_lt_of_lowerAfter {before t : Text}
    (h : ∀ d ∈ lowerAfter before t, isFormOfAscii d = true) : ∀ c ∈ t, c.toNat < 0x80 := by
  induction t generalizing before with
  | nil => exact fun c hc => absurd hc List.not_mem_nil
  | cons c t ih =>
    have hsigma : c ≠ 'Σ' := by
      rintro rfl
      exact not_sigma_of_lowerAfter_ascii (fun d hd => toNat_lt_of_isFormOfAscii (h d hd))
        List.mem_cons_self
    simp only [lowerAfter, if_neg hsigma, List.forall_mem_append] at h
    exact List.forall_mem_cons.2 ⟨toNat_lt_of_lowerChar h.1, ih h.2⟩

end Text

/-! ## The case of ASCII letters -/

theorem toLower_of_beyond {c : Char} (h : ¬ c.toNat < 0x80) : c.toLower = c := by
  have hcapital : ¬ (c.val ≥ 'A'.val ∧ c.val ≤ 'Z'.val) := by
    rintro ⟨-, hlast⟩
    have hlast : c.toNat ≤ 0x5A := hlast
    omega
  exact dif_neg hcapital

theorem toUpper_of_beyond {c : Char} (h : ¬ c.toNat < 0x80) : c.toUpper = c := by
  have hsmall : ¬ (c.val ≥ 'a'.val ∧ c.val ≤ 'z'.val) := by
    rintro ⟨-, hlast⟩
    have hlast : c.toNat ≤ 0x7A := hlast
    omega
  exact dif_neg hsmall

/-- What is the same for every ASCII character and another form of it is the same for all
characters and their forms, if there are no other forms beyond ASCII. -/
theorem apply_form {α : Type} {f : Char → α} {form : Char → Char}
    (hform : ∀ c, ¬ c.toNat < 0x80 → form c = c)
    (h : ∀ n < 0x80, f (form (Char.ofNat n)) = f (Char.ofNat n)) (c : Char) :
    f (form c) = f c := by
  by_cases hascii : c.toNat < 0x80
  · have hc := h c.toNat hascii
    rwa [Char.ofNat_toNat] at hc
  · rw [hform c hascii]

theorem apply_toLower {α : Type} {f : Char → α}
    (h : ∀ n < 0x80, f (Char.ofNat n).toLower = f (Char.ofNat n)) (c : Char) :
    f c.toLower = f c :=
  apply_form (fun _ => toLower_of_beyond) h c

theorem isBlank_toLower (c : Char) : isBlank c.toLower = isBlank c :=
  apply_toLower (by decide) c

theorem toNat_lt_of_toLower {c : Char} (h : c.toLower.toNat < 0x80) : c.toNat < 0x80 := by
  refine Decidable.byContradiction fun hbeyond => ?_
  rw [toLower_of_beyond hbeyond] at h
  exact hbeyond h

namespace Text

@[simp] theorem lowerAscii_lowerAscii (t : Text) : lowerAscii (lowerAscii t) = lowerAscii t := by
  rw [lowerAscii, lowerAscii, List.map_map]
  exact List.map_congr_left fun c _ => apply_toLower (by decide) c

theorem lowerAscii_append (s t : Text) : lowerAscii (s ++ t) = lowerAscii s ++ lowerAscii t :=
  List.map_append

theorem eqIgnoringAsciiCase_iff {s t : Text} :
    eqIgnoringAsciiCase s t = true ↔ lowerAscii s = lowerAscii t :=
  beq_iff_eq

/-- Texts that differ in the case of ASCII letters at most are equal once these are capitals. -/
theorem upperAscii_eq_iff {s t : Text} :
    upperAscii s = upperAscii t ↔ eqIgnoringAsciiCase s t = true := by
  have hlower : ∀ u : Text, lowerAscii (upperAscii u) = lowerAscii u := by
    intro u
    rw [lowerAscii, upperAscii, List.map_map]
    exact List.map_congr_left fun c _ =>
      apply_form (f := Char.toLower) (fun _ => toUpper_of_beyond) (by decide) c
  have hupper : ∀ u : Text, upperAscii (lowerAscii u) = upperAscii u := by
    intro u
    rw [lowerAscii, upperAscii, List.map_map]
    exact List.map_congr_left fun c _ => apply_toLower (f := Char.toUpper) (by decide) c
  rw [eqIgnoringAsciiCase_iff]
  constructor
  · intro h
    rw [← hlower s, h, hlower]
  · intro h
    rw [← hupper s, h, hupper]

theorem trimStart_lowerAscii (t : Text) : trimStart (lowerAscii t) = lowerAscii (trimStart t) := by
  rw [trimStart, lowerAscii, List.dropWhile_map,
    show isBlank ∘ Char.toLower = isBlank from funext isBlank_toLower]
  rfl

/-- Into a text that ASCII alone has for lower-case form only the ASCII letters are changed. -/
theorem lower_eq_iff_lowerAscii_eq {t u : Text} (hu : ∀ d ∈ u, isFormOfAscii d = true) :
    lower t = u ↔ lowerAscii t = u := by
  constructor
  · rintro rfl
    exact (lower_of_ascii (toNat_lt_of_lowerAfter hu)).symm
  · rintro rfl
    refine lower_of_ascii fun c hc => toNat_lt_of_toLower ?_
    exact toNat_lt_of_isFormOfAscii (hu c.toLower (List.mem_map_of_mem hc))

end Text

end StorySpec
