import Mathlib.Data.Set.Subsingleton
import StorySpec.Language.Opener
import StorySpec.Proofs.Text.LowerCase
import StorySpec.Story.Report

/-!
# Lines with an opening

A line begins with an opening when, blanks at its start aside, a part of it is the opening in some
case and the line ends there or goes on with a separator.  Of two openings that one line begins
with, one begins with the other.  In each language none of the openings of a header line begins with
one of another header line, so that no line can be taken for two of them.

## Main definitions

* `OpensWith opener line`: the line begins with the opening.
* `HasOpening openers line`: the line begins with one of the openings.
* `HeaderOpeners.of openers field`: the openings of a header line.

## Main results

* `isSome_stripOpener_iff`: an opening is found exactly when the line has one.
* `isSuffix_of_stripOpener`: what follows an opening.
* `isPrefix_or_isPrefix_of_opensWith`: two openings of one line.
* `Language.eq_of_hasOpening`: a line has the openings of one header line at most.
-/

namespace StorySpec

variable {opener opener' line : Text} {openers : List Text}

/-- A line begins with an opening: the part of it that is as wide as the opening is the opening in
some case, and the line ends there or goes on with a separator. -/
def OpensWith (opener line : Text) : Prop :=
  ∃ front tail, Text.trimStart line = front ++ tail ∧ front.width = opener.width ∧
    Text.lower front = opener ∧ ∀ c ∈ tail.head?, isSeparator c = true

/-- A line begins with one of some openings. -/
def HasOpening (openers : List Text) (line : Text) : Prop :=
  ∃ opener ∈ openers, OpensWith opener line

theorem isSome_afterOpener?_iff :
    (afterOpener? opener (Text.trimStart line)).isSome = true ↔ OpensWith opener line := by
  rw [Option.isSome_iff_exists]
  constructor
  · rintro ⟨rest, h⟩
    obtain ⟨front, tail, hline, hwidth, hlower, hhead, -⟩ := afterOpener?_eq_some_iff.1 h
    exact ⟨front, tail, hline, hwidth, hlower, hhead⟩
  · rintro ⟨front, tail, hline, hwidth, hlower, hhead⟩
    exact ⟨_, afterOpener?_eq_some_iff.2 ⟨front, tail, hline, hwidth, hlower, hhead, rfl⟩⟩

/-- **An opening is found** exactly when the line has one. -/
theorem isSome_stripOpener_iff :
    (stripOpener line openers).isSome = true ↔ HasOpening openers line := by
  rw [stripOpener, List.findSome?_isSome_iff]
  exact exists_congr fun opener => and_congr_right fun _ => isSome_afterOpener?_iff

/-- What follows an opening is the end of the line. -/
theorem isSuffix_of_stripOpener {rest : Text} (h : stripOpener line openers = some rest) :
    rest <:+ line := by
  obtain ⟨opener, -, hafter⟩ := List.exists_of_findSome?_eq_some h
  obtain ⟨front, tail, hline, -, -, -, rfl⟩ := afterOpener?_eq_some_iff.1 hafter
  have htail : tail <:+ Text.trimStart line := ⟨front, hline.symm⟩
  exact (List.dropWhile_suffix _).trans (htail.trans (List.dropWhile_suffix _))

instance : Decidable (HasOpening openers line) :=
  decidable_of_iff _ isSome_stripOpener_iff

/-! ## Openings of one line -/

/-- **Of two openings of one line**, one begins with the other. -/
theorem isPrefix_or_isPrefix_of_opensWith (h : OpensWith opener line)
    (h' : OpensWith opener' line) (hascii : ∀ c ∈ opener, c.toNat < 0x80)
    (hascii' : ∀ c ∈ opener', c.toNat < 0x80) : opener <+: opener' ∨ opener' <+: opener := by
  obtain ⟨front, tail, hline, -, rfl, -⟩ := h
  obtain ⟨front', tail', hline', -, rfl, -⟩ := h'
  have hfront : front <+: Text.trimStart line := ⟨tail, hline.symm⟩
  have hfront' : front' <+: Text.trimStart line := ⟨tail', hline'.symm⟩
  -- the shorter of the two parts is the beginning of the longer one, in lower case as well
  rcases List.prefix_or_prefix_of_prefix hfront hfront' with ⟨rest, rfl⟩ | ⟨rest, rfl⟩
  · exact Or.inl (Text.lower_isPrefix_append (Text.not_sigma_of_lowerAfter_ascii hascii) rest)
  · exact Or.inr (Text.lower_isPrefix_append (Text.not_sigma_of_lowerAfter_ascii hascii') rest)

/-! ## The header lines -/

/-- The openings of a header line. -/
def HeaderOpeners.of (openers : HeaderOpeners) : HeaderField → List Text
  | .role => openers.role
  | .want => openers.want
  | .goal => openers.goal

/-- The header lines, in the order in which they are looked for. -/
def HeaderField.all : List HeaderField :=
  [.role, .want, .goal]

theorem HeaderField.mem_all (field : HeaderField) : field ∈ all := by
  cases field <;> decide

namespace Language

theorem toNat_lt_of_mem_openers (l : Language) (field : HeaderField) :
    ∀ opener ∈ l.openers.of field, ∀ c ∈ opener, c.toNat < 0x80 := by
  have hall : (l.openers.of field).all (·.all (·.toNat < 0x80)) = true := by
    cases l <;> cases field <;> decide
  simpa only [List.all_eq_true, decide_eq_true_eq] using hall

/-- No opening of a header line begins with an opening of another one. -/
theorem eq_of_isPrefix (l : Language) {field field' : HeaderField}
    (h : opener ∈ l.openers.of field) (h' : opener' ∈ l.openers.of field')
    (hstarts : opener <+: opener') : field = field' := by
  have hall : ∀ field ∈ HeaderField.all, ∀ field' ∈ HeaderField.all,
      ∀ opener ∈ l.openers.of field, ∀ opener' ∈ l.openers.of field',
        opener <+: opener' → field = field' := by
    cases l <;> decide +kernel
  exact hall field field.mem_all field' field'.mem_all opener h opener' h' hstarts

/-- **A line has the openings of one header line** at most. -/
theorem eq_of_hasOpening (l : Language) {field field' : HeaderField}
    (h : HasOpening (l.openers.of field) line) (h' : HasOpening (l.openers.of field') line) :
    field = field' := by
  obtain ⟨opener, hmem, hopens⟩ := h
  obtain ⟨opener', hmem', hopens'⟩ := h'
  have hascii := l.toNat_lt_of_mem_openers field opener hmem
  have hascii' := l.toNat_lt_of_mem_openers field' opener' hmem'
  rcases isPrefix_or_isPrefix_of_opensWith hopens hopens' hascii hascii' with hstarts | hstarts
  · exact l.eq_of_isPrefix hmem hmem' hstarts
  · exact (l.eq_of_isPrefix hmem' hmem hstarts).symm

end Language

end StorySpec
