import StorySpec.Table

/-!
# Rows that make up no table

There is no table without rows, nor with rows of several lengths.  In the second case the error
names the first row that is not as long as the header, so that it depends on nothing but the lengths
of the rows up to that one.

## Main results

* `ofRows_eq_missingHeader_iff`, `ofRows_eq_raggedRow_iff`: when rows make up no table, and why.
-/

namespace StorySpec.Table

variable {rows : List (List Text)} {expected found row : Nat}

/-- There is no header exactly when there is no row. -/
theorem ofRows_eq_missingHeader_iff : ofRows rows = .error .missingHeader ↔ rows = [] := by
  cases rows with
  | nil => simp [ofRows]
  | cons header rows =>
    simp only [ofRows, reduceCtorEq, iff_false]
    split <;> simp

/-- A row is the first ragged one exactly when the rows before it have the length that it has
not. -/
theorem firstRagged?_eq_some_iff {start : Nat} :
    firstRagged? expected start rows = some (row, found) ↔
      ∃ before, row = start + before ∧ found ≠ expected ∧
        (rows.take (before + 1)).map List.length = List.replicate before expected ++ [found] := by
  induction rows generalizing start with
  | nil => simp [firstRagged?]
  | cons first rows ih =>
    rw [firstRagged?]
    split
    · rename_i hfirst
      rw [ih]
      constructor
      · rintro ⟨before, rfl, hne, hlengths⟩
        exact ⟨before + 1, by omega, hne, by simp [hfirst, hlengths, List.replicate_succ]⟩
      · rintro ⟨before, rfl, hne, hlengths⟩
        cases before with
        | zero => simp_all
        | succ before =>
          refine ⟨before, by omega, hne, ?_⟩
          simpa [hfirst, List.replicate_succ] using hlengths
    · rename_i hfirst
      constructor
      · intro h
        cases h
        exact ⟨0, rfl, hfirst, by simp⟩
      · rintro ⟨before, rfl, hne, hlengths⟩
        cases before with
        | zero => simp_all
        | succ before =>
          rw [List.replicate_succ, List.take_succ_cons, List.map_cons, List.cons_append,
            List.cons.injEq] at hlengths
          exact absurd hlengths.1 hfirst

/-- **A row is ragged** exactly when it is the first that is not as long as the header. -/
theorem ofRows_eq_raggedRow_iff :
    ofRows rows = .error (.raggedRow row expected found) ↔
      2 ≤ row ∧ found ≠ expected ∧
        (rows.take row).map List.length = List.replicate (row - 1) expected ++ [found] := by
  cases rows with
  | nil => simp [ofRows]
  | cons header rows =>
    have hragged : ofRows (header :: rows) = .error (.raggedRow row expected found) ↔
        header.length = expected ∧ firstRagged? expected 2 rows = some (row, found) := by
      rw [ofRows]
      split
      · rename_i hfirst
        constructor
        · intro h
          cases h
          exact ⟨rfl, hfirst⟩
        · rintro ⟨rfl, h⟩
          cases hfirst.symm.trans h
          rfl
      · rename_i hfirst
        constructor
        · intro h
          cases h
        · rintro ⟨rfl, h⟩
          cases hfirst.symm.trans h
    rw [hragged, firstRagged?_eq_some_iff]
    constructor
    · rintro ⟨rfl, before, rfl, hne, hlengths⟩
      refine ⟨by omega, hne, ?_⟩
      rw [show 2 + before = before + 1 + 1 by omega, List.take_succ_cons, List.map_cons, hlengths]
      rfl
    · rintro ⟨hrow, hne, hlengths⟩
      obtain ⟨before, rfl⟩ := Nat.exists_eq_add_of_le hrow
      rw [show 2 + before = before + 1 + 1 by omega, List.take_succ_cons, List.map_cons,
        Nat.add_sub_cancel, List.replicate_succ, List.cons_append, List.cons.injEq] at hlengths
      exact ⟨hlengths.1, before, rfl, hne, hlengths.2⟩

end StorySpec.Table
