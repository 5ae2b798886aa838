import Mathlib.Data.List.Infix
import StorySpec.Proofs.Language.Opener
import StorySpec.Proofs.Text.Split
import StorySpec.Proofs.Text.Trim

/-!
# The longest opening of a line

An opening is looked for in a part of the line that is as wide as the opening, and of several
openings the first one that fits is taken.  The openings of the header lines are made of characters
that only ASCII characters have for lower-case forms, so that a part which is an opening in some
case is as wide as that without being asked for.  And among them none comes before a longer one that
begins with it, so that the first one that fits is the longest.

## Main definitions

* `OpensAt opener line front tail`: the line begins with `front`, which is the opening in some case.
* `IsStripped opener line front separators rest`: what `rest` leaves of the line is the opening.
* `IsLongest openers line opener`: no other one of the openings that fit is longer.

## Main results

* `afterOpener?_eq_some_iff_isStripped`: what follows an opening, whatever its width.
* `stripOpener_eq_some_iff`: what follows the longest opening of a line.
* `stripOpener_lowerAscii`: the case of ASCII letters does not matter.
* `stripOpener_longest_opening`: the openings of the header lines.
-/

namespace StorySpec

variable {opener line front tail separators rest : Text} {openers : List Text}

/-- A line, the blanks at its start aside, begins with a part that is the opening in some case, and
it ends there or goes on with a separator. -/
structure OpensAt (opener line front tail : Text) : Prop where
  parts : Text.trimStart line = front ++ tail
  lower : Text.lower front = opener
  boundary : ∀ c ∈ tail.head?, isSeparator c = true

/-- A line is made of an opening in some case, of separators, and of a rest that begins with
none. -/
structure IsStripped (opener line front separators rest : Text) : Prop where
  opens : OpensAt opener line front (separators ++ rest)
  separators : ∀ c ∈ separators, isSeparator c = true
  rest : ∀ c ∈ rest.head?, isSeparator c = false

/-- None of the openings that a line begins with is longer than the given one. -/
def IsLongest (openers : List Text) (line opener : Text) : Prop :=
  ∀ opener' ∈ openers, ∀ front tail, OpensAt opener' line front tail →
    opener'.length ≤ opener.length

/-! ## Openings in ASCII -/

/-- Only ASCII characters have the characters of the opening for lower-case forms. -/
def IsAsciiOpener (opener : Text) : Prop :=
  ∀ c ∈ opener, isFormOfAscii c = true

theorem IsAsciiOpener.toNat_lt (h : IsAsciiOpener opener) : ∀ c ∈ opener, c.toNat < 0x80 :=
  fun c hc => toNat_lt_of_isFormOfAscii (h c hc)

theorem width_of_ascii {t : Text} (h : ∀ c ∈ t, c.toNat < 0x80) : t.width = t.length := by
  induction t with
  | nil => rfl
  | cons c t ih =>
    obtain ⟨hc, ht⟩ := List.forall_mem_cons.1 h
    have hsize : c.utf8Size = 1 := Char.utf8Size_eq_one_iff.2 (Nat.le_of_lt_succ hc)
    rw [Text.width_cons, hsize, ih ht, List.length_cons, Nat.add_comm]

/-- A part of a line that is an opening in some case is as wide as the opening. -/
theorem IsAsciiOpener.width_eq (h : IsAsciiOpener opener) (hlower : Text.lower front = opener) :
    front.width = opener.width := by
  have hfront : ∀ c ∈ front, c.toNat < 0x80 := Text.toNat_lt_of_lowerAfter (hlower ▸ h)
  have hlength : opener.length = front.length := by
    rw [← (Text.lower_eq_iff_lowerAscii_eq h).1 hlower, Text.lowerAscii, List.length_map]
  rw [width_of_ascii hfront, width_of_ascii h.toNat_lt, hlength]

theorem OpensAt.opensWith (h : OpensAt opener line front tail) (hascii : IsAsciiOpener opener) :
    OpensWith opener line :=
  ⟨front, tail, h.parts, hascii.width_eq h.lower, h.lower, h.boundary⟩

/-- **What follows an opening** begins behind a part of the line that is the opening in some case,
and behind separators. -/
theorem afterOpener?_eq_some_iff_isStripped (hascii : IsAsciiOpener opener) :
    afterOpener? opener (Text.trimStart line) = some rest ↔
      ∃ front separators, IsStripped opener line front separators rest := by
  rw [afterOpener?_eq_some_iff]
  constructor
  · rintro ⟨front, tail, hline, -, hlower, hhead, hrest⟩
    obtain ⟨htail, hseparators, hnone⟩ :=
      takeWhile_dropWhile_eq_iff.1 ⟨rfl, hrest⟩
    rw [htail] at hline hhead
    exact ⟨front, _, ⟨hline, hlower, hhead⟩, hseparators, hnone⟩
  · rintro ⟨front, separators, ⟨hline, hlower, hhead⟩, hseparators, hnone⟩
    obtain ⟨-, hrest⟩ := takeWhile_dropWhile_eq_iff.2 ⟨rfl, hseparators, hnone⟩
    exact ⟨front, _, hline, hascii.width_eq hlower, hlower, hhead, hrest⟩

/-! ## The longest opening -/

section Longest

variable (hascii : ∀ opener ∈ openers, IsAsciiOpener opener)
  (horder : openers.Pairwise fun opener later => ¬ opener <+: later)

include hascii

/-- An opening is found exactly when the line begins with one. -/
theorem isSome_stripOpener_iff_opensAt :
    (stripOpener line openers).isSome = true ↔
      ∃ opener ∈ openers, ∃ front tail, OpensAt opener line front tail := by
  rw [isSome_stripOpener_iff]
  constructor
  · rintro ⟨opener, hmem, front, tail, hline, -, hlower, hhead⟩
    exact ⟨opener, hmem, front, tail, hline, hlower, hhead⟩
  · rintro ⟨opener, hmem, front, tail, hopens⟩
    exact ⟨opener, hmem, hopens.opensWith (hascii opener hmem)⟩

include horder

/-- The first opening that fits is the longest, and what follows it is the answer. -/
theorem exists_isLongest_of_stripOpener (h : stripOpener line openers = some rest) :
    ∃ opener ∈ openers, IsLongest openers line opener ∧
      afterOpener? opener (Text.trimStart line) = some rest := by
  obtain ⟨before, opener, behind, rfl, hafter, hbefore⟩ := List.findSome?_eq_some_iff.1 h
  have hmem : opener ∈ before ++ opener :: behind :=
    List.mem_append_right before List.mem_cons_self
  refine ⟨opener, hmem, fun other hother front tail hopens => ?_, hafter⟩
  have hopensWith := hopens.opensWith (hascii other hother)
  rcases List.mem_append.1 hother with hother | hother
  · have hfits := isSome_afterOpener?_iff.2 hopensWith
    rw [hbefore other hother] at hfits
    cases hfits
  · rcases List.mem_cons.1 hother with rfl | hbehind
    · exact Nat.le_refl _
    · have hfirst : OpensWith opener line :=
        isSome_afterOpener?_iff.1 (by rw [hafter]; rfl)
      have hlater : ¬ opener <+: other :=
        List.rel_of_pairwise_cons (List.pairwise_append.1 horder).2.1 hbehind
      rcases isPrefix_or_isPrefix_of_opensWith hfirst hopensWith (hascii opener hmem).toNat_lt
          (hascii other (List.mem_append_right before hother)).toNat_lt with hstarts | hstarts
      · exact absurd hstarts hlater
      · exact hstarts.length_le

omit horder in
/-- Of the openings that a line begins with, only one is the longest. -/
theorem IsLongest.eq {first second front' tail' : Text} (h : IsLongest openers line first)
    (hmem : first ∈ openers) (hopens : OpensAt first line front tail)
    (h' : IsLongest openers line second) (hmem' : second ∈ openers)
    (hopens' : OpensAt second line front' tail') : first = second := by
  have hlength : first.length = second.length :=
    Nat.le_antisymm (h' first hmem front tail hopens) (h second hmem' front' tail' hopens')
  -- of two openings of one line, one begins with the other
  rcases isPrefix_or_isPrefix_of_opensWith (hopens.opensWith (hascii first hmem))
      (hopens'.opensWith (hascii second hmem')) (hascii first hmem).toNat_lt
      (hascii second hmem').toNat_lt with hstarts | hstarts
  · exact hstarts.eq_of_length hlength
  · exact (hstarts.eq_of_length hlength.symm).symm

/-- **What follows the longest opening** of a line is the answer, and there is no other. -/
theorem stripOpener_eq_some_iff :
    stripOpener line openers = some rest ↔
      ∃ opener ∈ openers, IsLongest openers line opener ∧
        ∃ front separators, IsStripped opener line front separators rest := by
  constructor
  · intro h
    obtain ⟨opener, hmem, hlongest, hafter⟩ := exists_isLongest_of_stripOpener hascii horder h
    exact ⟨opener, hmem, hlongest,
      (afterOpener?_eq_some_iff_isStripped (hascii opener hmem)).1 hafter⟩
  · rintro ⟨opener, hmem, hlongest, front, separators, hstripped⟩
    have hopens := hstripped.opens
    obtain ⟨found, hfound⟩ := Option.isSome_iff_exists.1
      ((isSome_stripOpener_iff_opensAt hascii).2 ⟨opener, hmem, front, _, hopens⟩)
    obtain ⟨first, hfirst, hlongest', hafter⟩ :=
      exists_isLongest_of_stripOpener hascii horder hfound
    obtain ⟨front', separators', hstripped'⟩ :=
      (afterOpener?_eq_some_iff_isStripped (hascii first hfirst)).1 hafter
    have hsame : first = opener :=
      hlongest'.eq hascii hfirst hstripped'.opens hlongest hmem hopens
    rw [hfound, ← hafter, hsame]
    exact (afterOpener?_eq_some_iff_isStripped (hascii opener hmem)).2
      ⟨front, separators, hstripped⟩

end Longest

/-! ## The case of a line -/

theorem isSeparator_toLower (c : Char) : isSeparator c.toLower = isSeparator c :=
  apply_toLower (by decide) c

theorem boundary_lowerAscii_iff {t : Text} :
    (∀ c ∈ (Text.lowerAscii t).head?, isSeparator c = true) ↔
      ∀ c ∈ t.head?, isSeparator c = true := by
  cases t with
  | nil => exact Iff.rfl
  | cons c t => simp [Text.lowerAscii, isSeparator_toLower]

theorem IsAsciiOpener.lower_lowerAscii_iff (h : IsAsciiOpener opener) :
    Text.lower (Text.lowerAscii front) = opener ↔ Text.lower front = opener := by
  rw [Text.lower_eq_iff_lowerAscii_eq h, Text.lower_eq_iff_lowerAscii_eq h,
    Text.lowerAscii_lowerAscii]

theorem OpensAt.lowerAscii (h : OpensAt opener line front tail) (hascii : IsAsciiOpener opener) :
    OpensAt opener (Text.lowerAscii line) (Text.lowerAscii front) (Text.lowerAscii tail) where
  parts := by
    rw [Text.trimStart_lowerAscii, h.parts, Text.lowerAscii_append]
  lower := hascii.lower_lowerAscii_iff.2 h.lower
  boundary := boundary_lowerAscii_iff.2 h.boundary

theorem IsStripped.lowerAscii (h : IsStripped opener line front separators rest)
    (hascii : IsAsciiOpener opener) :
    IsStripped opener (Text.lowerAscii line) (Text.lowerAscii front) (Text.lowerAscii separators)
      (Text.lowerAscii rest) where
  opens := by
    have hopens := h.opens.lowerAscii hascii
    rwa [Text.lowerAscii_append] at hopens
  separators := by
    intro c hc
    obtain ⟨d, hd, rfl⟩ := List.mem_map.1 hc
    rw [isSeparator_toLower]
    exact h.separators d hd
  rest := by
    intro c hc
    rw [Text.lowerAscii, List.head?_map, Option.mem_def, Option.map_eq_some_iff] at hc
    obtain ⟨d, hd, rfl⟩ := hc
    rw [isSeparator_toLower]
    exact h.rest d hd

/-- What opens a line in lower case opens it as it is written. -/
theorem OpensAt.of_lowerAscii (h : OpensAt opener (Text.lowerAscii line) front tail)
    (hascii : IsAsciiOpener opener) : ∃ front' tail', OpensAt opener line front' tail' := by
  obtain ⟨hparts, hlower, hboundary⟩ := h
  rw [Text.trimStart_lowerAscii] at hparts
  obtain ⟨front', tail', hline, rfl, rfl⟩ := List.map_eq_append_iff.1 hparts
  exact ⟨front', tail', hline, hascii.lower_lowerAscii_iff.1 hlower,
    boundary_lowerAscii_iff.1 hboundary⟩

section Case

variable (hascii : ∀ opener ∈ openers, IsAsciiOpener opener)
  (horder : openers.Pairwise fun opener later => ¬ opener <+: later)

include hascii horder

/-- **The case of ASCII letters** does not matter to what an opening is, nor to where it ends. -/
theorem stripOpener_lowerAscii (line : Text) :
    stripOpener (Text.lowerAscii line) openers =
      (stripOpener line openers).map Text.lowerAscii := by
  cases hline : stripOpener line openers with
  | some rest =>
    obtain ⟨opener, hmem, hlongest, front, separators, hstripped⟩ :=
      (stripOpener_eq_some_iff hascii horder).1 hline
    refine (stripOpener_eq_some_iff hascii horder).2
      ⟨opener, hmem, fun other hother front tail hopens => ?_, _, _,
        hstripped.lowerAscii (hascii opener hmem)⟩
    obtain ⟨front', tail', hopens'⟩ := hopens.of_lowerAscii (hascii other hother)
    exact hlongest other hother front' tail' hopens'
  | none =>
    rw [Option.map_none, ← Option.not_isSome_iff_eq_none, isSome_stripOpener_iff_opensAt hascii]
    rintro ⟨opener, hmem, front, tail, hopens⟩
    have hfound := (isSome_stripOpener_iff_opensAt hascii).2
      ⟨opener, hmem, hopens.of_lowerAscii (hascii opener hmem)⟩
    rw [hline] at hfound
    cases hfound

/-- What follows the opening of a line stays when letters before it change their case. -/
theorem stripOpener_of_eqIgnoringAsciiCase {front' : Text}
    (h : Text.eqIgnoringAsciiCase front' front = true) :
    (stripOpener (front' ++ tail) openers).isSome = (stripOpener (front ++ tail) openers).isSome ∧
      ∀ rest, stripOpener (front ++ tail) openers = some rest → rest.length ≤ tail.length →
        stripOpener (front' ++ tail) openers = some rest := by
  have hlines : Text.lowerAscii (front' ++ tail) = Text.lowerAscii (front ++ tail) := by
    rw [Text.lowerAscii_append, Text.lowerAscii_append, Text.eqIgnoringAsciiCase_iff.1 h]
  have hsame : (stripOpener (front' ++ tail) openers).map Text.lowerAscii =
      (stripOpener (front ++ tail) openers).map Text.lowerAscii := by
    rw [← stripOpener_lowerAscii hascii horder, ← stripOpener_lowerAscii hascii horder, hlines]
  refine ⟨by simpa using congrArg Option.isSome hsame, fun rest hrest hshort => ?_⟩
  rw [hrest, Option.map_some, Option.map_eq_some_iff] at hsame
  obtain ⟨rest', hrest', hlower⟩ := hsame
  have hlength : rest'.length = rest.length := by
    simpa [Text.lowerAscii] using congrArg List.length hlower
  -- both rests are ends of what has not changed, and of one length
  have hend : rest <:+ tail :=
    List.suffix_of_suffix_length_le (isSuffix_of_stripOpener hrest) (List.suffix_append _ _) hshort
  have hend' : rest' <:+ tail :=
    List.suffix_of_suffix_length_le (isSuffix_of_stripOpener hrest') (List.suffix_append _ _)
      (hlength ▸ hshort)
  have heq : rest' = rest :=
    (List.suffix_of_suffix_length_le hend' hend hlength.le).eq_of_length hlength
  rw [hrest', heq]

end Case

/-! ## The header lines -/

namespace Language

theorem isAsciiOpener_of_mem (l : Language) (field : HeaderField) :
    ∀ opener ∈ l.openers.of field, IsAsciiOpener opener := by
  have hall : (l.openers.of field).all (·.all isFormOfAscii) = true := by
    cases l <;> cases field <;> decide
  simpa only [IsAsciiOpener, List.all_eq_true] using hall

/-- No opening comes before one that begins with it. -/
theorem pairwise_openers (l : Language) (field : HeaderField) :
    (l.openers.of field).Pairwise fun opener later => ¬ opener <+: later := by
  cases l <;> cases field <;> decide

end Language

/-- **The longest opening is removed, and nothing more.**  With the openings of any header line, in
either language, a line has an answer exactly when it begins with one of them in some case and ends
there or goes on with a separator.  The answer is then what follows the longest of these openings
and the separators behind it.  Letters that change their case before the answer leave it as it is,
and no line has answers for two header lines of one language. -/
theorem stripOpener_longest_opening (l : Language) (field : HeaderField) (line : Text) :
    ((stripOpener line (l.openers.of field)).isSome = true ↔
        ∃ opener ∈ l.openers.of field, ∃ front tail, OpensAt opener line front tail) ∧
      (∀ rest, stripOpener line (l.openers.of field) = some rest ↔
        ∃ opener ∈ l.openers.of field, IsLongest (l.openers.of field) line opener ∧
          ∃ front separators, IsStripped opener line front separators rest) ∧
      (∀ front front' tail, line = front ++ tail → Text.eqIgnoringAsciiCase front' front = true →
        (stripOpener (front' ++ tail) (l.openers.of field)).isSome =
            (stripOpener line (l.openers.of field)).isSome ∧
          ∀ rest, stripOpener line (l.openers.of field) = some rest →
            rest.length ≤ tail.length →
              stripOpener (front' ++ tail) (l.openers.of field) = some rest) ∧
      ∀ field', (stripOpener line (l.openers.of field)).isSome = true →
        (stripOpener line (l.openers.of field')).isSome = true → field = field' := by
  have hascii := l.isAsciiOpener_of_mem field
  have horder := l.pairwise_openers field
  refine ⟨isSome_stripOpener_iff_opensAt hascii, fun rest => stripOpener_eq_some_iff hascii horder,
    ?_, fun field' h h' => ?_⟩
  · rintro front front' tail rfl hcase
    exact stripOpener_of_eqIgnoringAsciiCase hascii horder hcase
  · exact l.eq_of_hasOpening (isSome_stripOpener_iff.1 h) (isSome_stripOpener_iff.1 h')

example :
    stripOpener "  I WANT tools".toList (Language.english.openers.of .want) =
      some "tools".toList := by decide +kernel

end StorySpec
