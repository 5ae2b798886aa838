import StorySpec.Language

/-!
# Openings of lines

A header line is known by how it begins: by one of a list of openings, in any case, followed by
the end of the line or by a separator.

## Main definitions

* `isSeparator c`: whether `c` may follow an opening.
* `afterOpener? opener line`: what follows `opener` in `line`.
* `stripOpener line openers`: what follows the first of the `openers` that the line begins with.

## Main results

* `afterOpener?_eq_some_iff`: when a line begins with an opening, and with what the rest begins.
-/

namespace StorySpec

/-- Whether a character separates an opening from the rest of its line. -/
def isSeparator (c : Char) : Bool :=
  isBlank c || c == ',' || c == ':'

/-- What follows `opener` in a line without leading blanks.  The beginning of the line that is as
wide as the opening has to equal it once it is in lower case, and a separator or the end of the
line has to follow; the separators are left out of the answer. -/
def afterOpener? (opener line : Text) : Option Text :=
  match Text.splitAtWidth? opener.width line with
  | none => none
  | some (front, rest) =>
    if Text.lower front = opener ∧ rest.head?.all isSeparator then
      some (rest.dropWhile isSeparator)
    else none

/-- What follows the first of the openings that the line, its leading blanks aside, begins
with. -/
def stripOpener (line : Text) (openers : List Text) : Option Text :=
  openers.findSome? fun opener => afterOpener? opener (Text.trimStart line)

/-- A line begins with an opening when it is a text of the same width that has the opening as its
lower-case form, followed by separators and by a rest that begins with none, and the separators
are missing only when the rest is, too. -/
theorem afterOpener?_eq_some_iff {opener line rest : Text} :
    afterOpener? opener line = some rest ↔
      ∃ front tail, line = front ++ tail ∧ front.width = opener.width ∧
        Text.lower front = opener ∧ (∀ c ∈ tail.head?, isSeparator c) ∧
        tail.dropWhile isSeparator = rest := by
  unfold afterOpener?
  constructor
  · intro h
    split at h
    · cases h
    · rename_i front tail hcut
      obtain ⟨hline, hwidth⟩ := Text.splitAtWidth?_eq_some_iff.1 hcut
      split at h
      · rename_i hc
        refine ⟨front, tail, hline, hwidth, hc.1, ?_, by simpa using h⟩
        simpa [Option.all_eq_true] using hc.2
      · cases h
  · rintro ⟨front, tail, hline, hwidth, hlower, hhead, hrest⟩
    rw [Text.splitAtWidth?_eq_some_iff.2 ⟨hline, hwidth⟩]
    simp only
    rw [if_pos ⟨hlower, by simpa [Option.all_eq_true] using hhead⟩, hrest]

end StorySpec
