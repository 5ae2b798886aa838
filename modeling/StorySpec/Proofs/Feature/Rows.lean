import StorySpec.Proofs.Gherkin.Section
import StorySpec.Stub

/-!
# The rows of a document read again

An outline has a table, so its rows are of one length.  The grammar reads them when bars close all
of them and none of them is a bar alone, in which it finds no cell.  Then the table is read again as
it is.  Under a header that is a bar alone every row is cut to nothing; it is read as well, and the
table that comes of it has no column with a name, as there was none before.

## Main definitions

* `rowsAreRead rows`: whether the rows of an outline are read.
* `readCells rows`: the cells that they are read as.

## Main results

* `readExamples?_of_table`: which rows are read, and as what.
* `ofLines_readCells`: the table that is read, when the header is no bar alone.
* `ofLine?_readCells`: the table that is read types every step as the one that was written.
-/

namespace StorySpec

open Gherkin (rowLine rowCells isClosedRow alignedTable? readExamples?)

variable {rows : List Text} {table : Table} {r : Section}

/-- Whether the rows of an outline are read: bars have to close them, and only below a header that
is a bar alone there may be other ones like it. -/
def rowsAreRead (rows : List Text) : Bool :=
  rows.all isClosedRow && (rows.head? == some ['|'] || !rows.contains ['|'])

/-- The cells that rows are read as. -/
def readCells (rows : List Text) : List (List Text) :=
  if rows.head? = some ['|'] then rows.map fun _ => [] else rows.map cells

theorem rowCells_of_ne {row : Text} (h : row ≠ ['|']) : rowCells row = cells row :=
  if_neg h

/-- Aligned rows are read unless a bar alone is among them, and not at their head. -/
theorem alignedTable?_rowCells (h : Table.ofRows (rows.map cells) = .ok table) :
    alignedTable? (rows.map rowCells) =
      if rows.head? == some ['|'] || !rows.contains ['|'] then some (readCells rows) else none := by
  have hrows := Table.ofRows_eq_ok_iff.1 h
  cases rows with
  | nil => cases hrows
  | cons first others =>
    obtain ⟨hfirst, hothers⟩ := List.cons.inj hrows
    have hlength : ∀ row ∈ others, (cells row).length = (cells first).length := by
      intro row hrow
      rw [hfirst]
      exact table.aligned _ (hothers ▸ List.mem_map_of_mem hrow)
    rw [List.map_cons, alignedTable?]
    by_cases hbar : first = ['|']
    · subst hbar
      simp [rowCells, readCells, Function.comp_def]
    · have hpos := cells_length_pos first
      rw [rowCells_of_ne hbar]
      by_cases hmem : ['|'] ∈ others
      · have hshort : ((others.map rowCells).all fun c => (cells first).length ≤ c.length) =
            false := by
          refine List.all_eq_false.2 ⟨[], List.mem_map.2 ⟨_, hmem, rfl⟩, ?_⟩
          simpa using cells_ne_nil first
        simp [hshort, hbar, hmem]
      · -- the rows are of one length, so none is too short and nothing is cut
        have hcells : others.map rowCells = others.map cells :=
          List.map_congr_left fun row hrow => rowCells_of_ne fun heq => hmem (heq ▸ hrow)
        have hall : ((others.map cells).all fun c => (cells first).length ≤ c.length) = true := by
          refine List.all_eq_true.2 fun c hc => ?_
          obtain ⟨row, hrow, rfl⟩ := List.mem_map.1 hc
          simp [hlength row hrow]
        have htake : (others.map cells).map (·.take (cells first).length) = others.map cells := by
          refine (List.map_congr_left fun c hc => ?_).trans (List.map_id _)
          obtain ⟨row, hrow, rfl⟩ := List.mem_map.1 hc
          exact List.take_of_length_le (hlength row hrow).le
        rw [hcells, if_pos hall, htake]
        simp [readCells, hbar, hmem, Ne.symm hbar]

/-- **The rows of an outline** are read when bars close all of them, and no bar alone is below a
header of another kind. -/
theorem readExamples?_of_table (houtline : r.outline = true)
    (h : Table.ofRows (r.exampleRows.map cells) = .ok table) :
    readExamples? r =
      if rowsAreRead r.exampleRows then
        some [{ table := some (readCells r.exampleRows) }]
      else none := by
  rw [readExamples?, if_pos houtline, alignedTable?_rowCells h, rowsAreRead]
  cases r.exampleRows.all isClosedRow
  · rfl
  · rw [Bool.true_and, if_pos rfl]
    split <;> rfl

/-! ## The table that is read -/

theorem readCells_ne_nil (h : rows ≠ []) : readCells rows ≠ [] := by
  unfold readCells
  split <;> simpa using h

/-- Rows are read as the table that they make up, unless their header is a bar alone. -/
theorem ofLines_readCells (hbar : rows.head? ≠ some ['|']) :
    Table.ofLines ((readCells rows).map rowLine) = Table.ofRows (rows.map cells) := by
  rw [readCells, if_neg hbar]
  refine ofLines_map_rowLine fun cs hcs => ?_
  obtain ⟨row, -, rfl⟩ := List.mem_map.1 hcs
  exact ⟨cells_ne_nil row, fun c hc => trim_of_mem_cells hc⟩

/-- A table whose only column has no name types nothing. -/
theorem typed_of_header (h : table.header = [[]]) {p : Param} (hp : p.raw ≠ []) :
    p.typed (some table) = p := by
  simp [Param.typed, Table.hasColumn, h, hp]

/-- Rows under a header that is a bar alone have one column, without a name, before they are read
and afterwards. -/
theorem header_of_bar (hbar : rows.head? = some ['|']) :
    (Table.ofRows (rows.map cells) = .ok table → table.header = [[]]) ∧
      (Table.ofLines ((readCells rows).map rowLine) = .ok table → table.header = [[]]) := by
  obtain ⟨others, rfl⟩ := List.head?_eq_some_iff.1 hbar
  constructor
  · intro h
    have hrows := Table.ofRows_eq_ok_iff.1 h
    exact (List.cons.inj hrows).1.symm
  · intro h
    rw [Table.ofLines, exampleRows_map_rowLine, readCells, if_pos hbar] at h
    have hrows := Table.ofRows_eq_ok_iff.1 h
    exact (List.cons.inj hrows).1.symm

/-- Parameters that a text holds are not empty. -/
theorem raw_ne_nil_of_mem_tokenize {t : Text} {p : Param} (h : .param p ∈ tokenize t) :
    p.raw ≠ [] := by
  obtain ⟨u, rest, hfirst⟩ := exists_firstParam?_of_mem_tokenize h
  exact (firstParam?_eq_some hfirst).2

/-- Tables that type the parameters of texts alike lead to the same stubs. -/
theorem ofLine?_congr {table table' : Option Table}
    (h : ∀ p : Param, p.raw ≠ [] → p.typed table = p.typed table') (l : Text) :
    Stub.ofLine? l table = Stub.ofLine? l table' := by
  have htokens : ∀ t : Text, StepPattern.tokens t table = StepPattern.tokens t table' := by
    intro t
    refine List.map_congr_left fun token htoken => ?_
    cases token with
    | literal text => rfl
    | param p => exact congrArg Token.param (h p (raw_ne_nil_of_mem_tokenize htoken))
  simp only [Stub.ofLine?, StepPattern.ofText, htokens]

/-- **The table that is read** types every step as the one that was written. -/
theorem ofLine?_readCells (h : Table.ofRows (rows.map cells) = .ok table) (l : Text) :
    Stub.ofLine? l (Table.ofLines ((readCells rows).map rowLine)).toOption =
      Stub.ofLine? l (some table) := by
  by_cases hbar : rows.head? = some ['|']
  · -- the tables differ, but neither of them types any parameter
    refine ofLine?_congr (fun p hp => ?_) l
    rw [typed_of_header ((header_of_bar hbar).1 h) hp]
    cases hread : Table.ofLines ((readCells rows).map rowLine) with
    | error e => rfl
    | ok read => exact typed_of_header ((header_of_bar hbar).2 hread) hp
  · rw [ofLines_readCells hbar, h]
    rfl

end StorySpec
