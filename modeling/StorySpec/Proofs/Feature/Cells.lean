import StorySpec.Proofs.Feature.Columns

/-!
# Cells that are written as rows and read again

The cells of a scenario's tables are written as rows with bars around them, and the section of the
scenario has the table that these rows are read as.  Where all rows have the same number of cells,
at least one, and the cells are trimmed and hold no bar, it is the table that was written: a written
row begins and ends with a bar, so that no quote of a cell is taken for one around the row, and an
empty cell stands between two bars like any other.

## Main results

* `cells_exampleRows`: every row is read as the cells that it was written from.
* `ofLines_exampleRows_eq`: the rows make up the table of these cells.
* `table_eq_of_cells`: the section of a scenario has this table.
-/

namespace StorySpec

open Gherkin

namespace Gherkin.Scenario

variable {s : Scenario} {n : Nat}

section Rows

variable (hne : s.tables ≠ []) (htables : ∀ table ∈ s.tables, table ≠ []) (hn : 1 ≤ n)
  (hrows : ∀ row ∈ s.columns :: s.dataRows,
    row.length = n ∧ ∀ c ∈ row, Text.trim c = c ∧ '|' ∉ c)
include hne htables hn hrows

/-- **Every row** is read as the cells that it was written from. -/
theorem cells_exampleRows : s.exampleRows.map cells = s.columns :: s.dataRows := by
  have hcells : ∀ row ∈ s.columns :: s.dataRows, (cells ∘ rowLine) row = id row := by
    intro row hrow
    obtain ⟨hlength, hcells⟩ := hrows row hrow
    have hcell : row ≠ [] := List.length_pos_iff.1 (by omega)
    exact cells_rowLine hcell hcells
  rw [exampleRows_eq_map hne htables, List.map_map, List.map_congr_left hcells, List.map_id]

/-- **The rows make up the table** of the cells that they were written from. -/
theorem ofLines_exampleRows_eq :
    ∃ table, Table.ofLines s.exampleRows = .ok table ∧ table.header = s.columns ∧
      table.rows = s.dataRows := by
  have haligned : ∀ row ∈ s.dataRows, row.length = s.columns.length := by
    intro row hrow
    have hheader := (hrows s.columns List.mem_cons_self).1
    rw [hheader, (hrows row (List.mem_cons_of_mem _ hrow)).1]
  have hread : StorySpec.exampleRows s.exampleRows = s.exampleRows := by
    rw [exampleRows_eq_map hne htables, exampleRows_map_rowLine]
  refine ⟨⟨s.columns, s.dataRows, haligned⟩, ?_, rfl, rfl⟩
  rw [Table.ofLines, hread, cells_exampleRows hne htables hn hrows, Table.ofRows_eq_ok_iff]

end Rows

end Gherkin.Scenario

/-- **Cells that are written as rows and read again** are the same.  When a scenario has a table,
and the header of the first table and the data rows of all have the same number of cells, at least
one, which are trimmed and hold no bar, then the section at its place in the document has the table
of that header and these data rows, and one row for each of them. -/
theorem table_eq_of_cells (name t : Text) {d : Document} {s : Scenario} {i n : Nat}
    (hs : d.parts[i]? = some (.scenario s)) (hne : s.tables ≠ [])
    (htables : ∀ table ∈ s.tables, table ≠ []) (hn : 1 ≤ n)
    (hrows : ∀ row ∈ s.columns :: s.dataRows,
      row.length = n ∧ ∀ c ∈ row, Text.trim c = c ∧ '|' ∉ c) :
    ∃ r table, (Feature.ofDocument name t d).sections[i]? = some r ∧
      r.table = some table ∧ table.header = s.columns ∧ table.rows = s.dataRows ∧
      r.exampleRows = (s.columns :: s.dataRows).map rowLine ∧
      r.exampleRows.map cells = s.columns :: s.dataRows := by
  obtain ⟨table, htable, hheader, hdata⟩ := s.ofLines_exampleRows_eq hne htables hn hrows
  refine ⟨s.toSection d.language, table, ?_, ?_, hheader, hdata, ?_, ?_⟩
  · rw [sections_ofDocument, List.getElem?_map, hs]
    rfl
  · rw [s.table_toSection, htable]
    rfl
  · exact s.exampleRows_eq_map hne htables
  · exact s.cells_exampleRows hne htables hn hrows

/-! ## Quotes -/

/-- An outline whose cells are empty or hold quotes.  Between its two tables stand examples that
have none. -/
def quoteOutline : Scenario where
  name := "o".toList
  tags := []
  steps := []
  examples :=
    [⟨some [["\"a\"".toList, [], "\"".toList], ["\"".toList, "x".toList, []]]⟩, ⟨none⟩,
      ⟨some [["b".toList], [[], "\"\"".toList, "y\"".toList]]⟩]

/-- A document with this outline in a rule, below a background. -/
def quotes : Document where
  keyword := "Feature".toList
  background := some ⟨"b".toList, []⟩
  scenarios := []
  rules := [⟨none, [quoteOutline]⟩]

/-- The quotes and the empty cells are read as they are written. -/
theorem table_eq_quotes :
    let s := quoteOutline
    (quotes.parts[1]? = some (.scenario s) ∧ s.tables ≠ [] ∧
        (∀ table ∈ s.tables, table ≠ []) ∧ 1 ≤ 3 ∧
        ∀ row ∈ s.columns :: s.dataRows,
          row.length = 3 ∧ ∀ c ∈ row, Text.trim c = c ∧ '|' ∉ c) ∧
      ∃ r table, (Feature.ofDocument "f".toList [] quotes).sections[1]? = some r ∧
        r.table = some table ∧ table.header = s.columns ∧ table.rows = s.dataRows ∧
        r.exampleRows = (s.columns :: s.dataRows).map rowLine ∧
        r.exampleRows.map cells = s.columns :: s.dataRows := by
  intro s
  have hs : quotes.parts[1]? = some (.scenario s) := rfl
  have hne : s.tables ≠ [] := by decide
  have htables : ∀ table ∈ s.tables, table ≠ [] := by decide
  have hrows : ∀ row ∈ s.columns :: s.dataRows,
      row.length = 3 ∧ ∀ c ∈ row, Text.trim c = c ∧ '|' ∉ c := by decide
  exact ⟨⟨hs, hne, htables, by decide, hrows⟩,
    table_eq_of_cells "f".toList [] hs hne htables (by decide) hrows⟩

end StorySpec
