import StorySpec.Proofs.Text.Trim

/-!
# Lines of texts

A line holds no line break, and where blanks at its start and at its end do not count it is kept
without them.

## Main definitions

* `IsLine l`: the text `l` is a line without blanks at its start and at its end.
* `IsTail t`: the text `t` is the end of such a line.

## Main results

* `isLine_trim_of_mem_lines`: trimming makes a line out of every line of a text.
* `isLine_of_isInfix`: what stands trimmed within a line is a line.
-/

namespace StorySpec

variable {l t : Text}

/-- A line without blanks at its start and at its end. -/
structure IsLine (l : Text) : Prop where
  /-- It neither begins nor ends with a blank. -/
  trim : Text.trim l = l
  noBreak : '\n' ∉ l

/-- The end of a line, which may begin with blanks. -/
structure IsTail (t : Text) : Prop where
  /-- It does not end with a blank. -/
  last : ∀ c ∈ t.getLast?, isBlank c = false
  noBreak : '\n' ∉ t

theorem IsLine.isTail (h : IsLine l) : IsTail l :=
  ⟨(Text.trim_eq_self_iff.1 h.trim).2, h.noBreak⟩

theorem IsTail.of_suffix {s : Text} (h : IsTail t) (hs : s <:+ t) : IsTail s :=
  ⟨fun c hc => h.last c (Text.getLast?_of_isSuffix hs c hc), fun hmem => h.noBreak (hs.mem hmem)⟩

theorem not_mem_of_mem_lines (h : l ∈ Text.lines t) : '\n' ∉ l := by
  induction t generalizing l with
  | nil => simp [Text.lines] at h
  | cons c t ih =>
    rw [Text.lines] at h
    split at h
    · rcases List.mem_cons.1 h with rfl | h
      · exact List.not_mem_nil
      · exact ih h
    · rename_i hc
      split at h
      · rw [List.mem_singleton.1 h]
        simpa using Ne.symm hc
      · rename_i line rest hlines
        rw [hlines] at ih
        rcases List.mem_cons.1 h with rfl | h
        · have hline : '\n' ∉ line := ih List.mem_cons_self
          simpa [hline] using Ne.symm hc
        · exact ih (List.mem_cons_of_mem _ h)

/-- What stands trimmed within a line is a line. -/
theorem isLine_of_isInfix {s : Text} (hl : '\n' ∉ l) (hs : s <:+: l) (htrim : Text.trim s = s) :
    IsLine s :=
  ⟨htrim, fun hmem => hl (hs.subset hmem)⟩

/-- Trimming makes a line out of every line of a text. -/
theorem isLine_trim_of_mem_lines (h : l ∈ Text.lines t) : IsLine (Text.trim l) :=
  isLine_of_isInfix (not_mem_of_mem_lines h) (Text.trim_isInfix l) (Text.trim_trim l)

/-- A line that begins with one line and ends with another one. -/
theorem IsLine.append {s u : Text} (m : Text) (hs : IsLine s) (hsne : s ≠ []) (hu : IsLine u)
    (hune : u ≠ []) (hm : '\n' ∉ m) : IsLine (s ++ (m ++ u)) :=
  ⟨Text.trim_append m hs.trim hsne hu.trim hune, by simp [hs.noBreak, hu.noBreak, hm]⟩

end StorySpec
