import StorySpec.Proofs.Table.Ragged
import StorySpec.Proofs.Table.Row

/-!
# Rows taken for lines again

The row that a line holds may be taken for a line itself.  It begins with a bar, so that no quote is
left out at its start; but a quote at its end is left out, as it would be from any other line.  Then
the last cell is another one, or there is one cell less when that quote was all of it.

## Main definitions

* `rereadRow row`: the row that the row `row` holds when it is taken for a line.
* `GivesUpCell row`: whether a cell is lost in that.

## Main results

* `exampleRows_exampleRows`: every row is a row again.
* `cells_rereadRow_eq_iff`: the cells stay the same exactly when no quote is at the end.
* `ofLines_exampleRows_eq_iff`: when the rows of some lines make up what the lines do.
-/

namespace StorySpec

variable {row : Text} {ps lines : List Text}

/-- The row that a row holds when it is taken for a line. -/
def rereadRow (row : Text) : Text :=
  Text.trim (Text.dropTrailing '"' row)

/-- Whether a row has one cell less when it is taken for a line: nothing but a quote stands behind
the last of its bars, and that is not its only cell. -/
def GivesUpCell (row : Text) : Prop :=
  row.getLast? = some '"' ∧ (cells row).getLast? = some ['"'] ∧ 1 < (cells row).length

/-- A text that is a row. -/
structure IsRow (row : Text) : Prop where
  bar : row.head? = some '|'
  trim : Text.trim row = row

theorem isRow_of_mem_exampleRows (h : row ∈ exampleRows lines) : IsRow row := by
  obtain ⟨line, -, hnormal⟩ := List.mem_filterMap.1 h
  exact ⟨head?_of_normaliseRow? hnormal, (isInfix_of_normaliseRow? hnormal).2⟩

/-! ## Pieces and a last piece -/

theorem getLast?_barred (ps : List Text) : (barred ps).getLast? = some '|' := by
  rcases List.eq_nil_or_concat' ps with rfl | ⟨front, p, rfl⟩
  · rfl
  · rw [barred_concat, List.getLast?_concat]

/-- Trimming a row takes the blanks away from its last piece only. -/
theorem trim_barred_append (ps : List Text) (q : Text) :
    Text.trim (barred ps ++ q) = barred ps ++ Text.trimEnd q := by
  have hstart : Text.trimStart (barred ps ++ q) = barred ps ++ q :=
    Text.trimStart_eq_self_iff.2 (by simp [barred, isBlank])
  have hend : Text.trimEnd (barred ps) = barred ps :=
    Text.trimEnd_eq_self_iff.2 (by simp [getLast?_barred, isBlank])
  rw [Text.trim, hstart, Text.trimEnd_append, hend]
  split
  · rename_i hnil
    rw [hnil, List.append_nil]
  · rfl

/-- The cells of a row that no bar closes: its last piece is one of them. -/
theorem cells_barred_append {q : Text} (hps : ∀ p ∈ ps, '|' ∉ p) (hq : '|' ∉ q) (hne : q ≠ []) :
    cells (barred ps ++ q) = (ps ++ [q]).map Text.trim := by
  have hsplit : (Text.joined ['|'] (ps ++ [q])).splitOn '|' = ps ++ [q] := by
    apply List.splitOn_intercalate
    · simpa [or_imp, forall_and, hq] using hps
    · simp
  have hlast : (Text.joined ['|'] (ps ++ [q])).getLast? ≠ some '|' := by
    rw [Text.joined_concat, List.getLast?_append_of_ne_nil _ hne]
    exact fun h => hq (List.mem_of_getLast? h)
  have hrow : barred ps ++ q = '|' :: Text.joined ['|'] (ps ++ [q]) := by
    rw [Text.joined_concat]
    rfl
  rw [hrow, cells, Text.dropLeading, List.head?_cons, if_pos rfl, List.tail_cons,
    Text.dropTrailing, if_neg hlast, hsplit]

/-- A row with a quote at its end, cut behind the last of its bars. -/
theorem exists_barred_quote (hrow : IsRow row) (h : row.getLast? = some '"') :
    ∃ ps u, row = barred ps ++ (u ++ ['"']) ∧ (∀ p ∈ ps, '|' ∉ p) ∧ '|' ∉ u := by
  obtain ⟨ps, q, rfl, hps, hq⟩ := exists_barred hrow.bar
  rcases List.eq_nil_or_concat' q with rfl | ⟨u, c, rfl⟩
  · rw [List.append_nil, getLast?_barred] at h
    cases h
  · obtain rfl : c = '"' := by simpa [← List.append_assoc] using h
    exact ⟨ps, u, rfl, hps, fun hu => hq (List.mem_append_left _ hu)⟩

/-! ## The cells of a row that is taken for a line -/

/-- Without a quote at its end a row stays as it is. -/
theorem rereadRow_of_ne (hrow : IsRow row) (h : row.getLast? ≠ some '"') : rereadRow row = row := by
  rw [rereadRow, Text.dropTrailing, if_neg h, hrow.trim]

theorem rereadRow_barred_append (ps : List Text) (u : Text) :
    rereadRow (barred ps ++ (u ++ ['"'])) = barred ps ++ Text.trimEnd u := by
  rw [rereadRow, ← List.append_assoc, Text.dropTrailing, if_pos (by simp), List.dropLast_concat,
    trim_barred_append]

/-- **The cells of a row with a quote at its end**, before the row is taken for a line and
afterwards: the quote is left out of the last cell, or it takes the cell with it. -/
theorem exists_cells_of_quote (hrow : IsRow row) (h : row.getLast? = some '"') :
    ∃ cs v, cells row = cs ++ [v ++ ['"']] ∧
      cells (rereadRow row) = if v = [] ∧ cs ≠ [] then cs else cs ++ [Text.trimEnd v] := by
  obtain ⟨ps, u, rfl, hps, hu⟩ := exists_barred_quote hrow h
  refine ⟨ps.map Text.trim, Text.trimStart u, ?_, ?_⟩
  · have hq : '|' ∉ u ++ ['"'] := by simpa using hu
    rw [cells_barred_append hps hq (by simp), List.map_append, List.map_singleton,
      Text.trim_concat (by decide)]
  · rw [rereadRow_barred_append]
    by_cases hblank : Text.trimEnd u = []
    · have hstart : Text.trimStart u = [] := Text.trimEnd_eq_nil_iff.1 hblank
      rw [hblank, hstart, List.append_nil]
      rcases eq_or_ne ps [] with rfl | hne
      · rfl
      · rw [cells_barred hne hps, if_pos ⟨rfl, by simpa using hne⟩]
    · have hstart : Text.trimStart u ≠ [] := fun hnil => hblank (Text.trimEnd_eq_nil_iff.2 hnil)
      have hend : '|' ∉ Text.trimEnd u := fun hmem => hu ((Text.trimEnd_isPrefix u).subset hmem)
      rw [cells_barred_append hps hend hblank, if_neg (fun hcs => hstart hcs.1), List.map_append,
        List.map_singleton, Text.trim_trimEnd]
      rfl

/-- **The cells of a row** stay the same exactly when no quote is at its end. -/
theorem cells_rereadRow_eq_iff (hrow : IsRow row) :
    cells (rereadRow row) = cells row ↔ row.getLast? ≠ some '"' := by
  constructor
  · intro h hquote
    obtain ⟨cs, v, hcells, hreread⟩ := exists_cells_of_quote hrow hquote
    rw [hcells, hreread] at h
    split at h
    · simp at h
    · have hlast : Text.trimEnd v = v ++ ['"'] := by simpa using h
      have hlength := Text.length_trimEnd_le v
      rw [hlast, List.length_append, List.length_singleton] at hlength
      omega
  · intro h
    rw [rereadRow_of_ne hrow h]

/-- The number of the cells of a row stays the same unless the row gives up a cell. -/
theorem length_cells_rereadRow_eq_iff (hrow : IsRow row) :
    (cells (rereadRow row)).length = (cells row).length ↔ ¬ GivesUpCell row := by
  by_cases h : row.getLast? = some '"'
  · obtain ⟨cs, v, hcells, hreread⟩ := exists_cells_of_quote hrow h
    have hgives : GivesUpCell row ↔ v = [] ∧ cs ≠ [] := by
      rw [GivesUpCell, hcells]
      simp [h, List.length_pos_iff]
    rw [hgives, hcells, hreread]
    split <;> simp [*]
  · rw [rereadRow_of_ne hrow h]
    simp [GivesUpCell, h]

/-! ## Lines and their rows -/

/-- A row is a row when it is taken for a line. -/
theorem normaliseRow?_row (hrow : IsRow row) : normaliseRow? row = some (rereadRow row) := by
  have hstart : Text.dropLeading '"' row = row := by
    rw [Text.dropLeading, hrow.bar, if_neg (by decide)]
  have hbar : (rereadRow row).head? = some '|' := by
    by_cases h : row.getLast? = some '"'
    · obtain ⟨ps, u, rfl, -, -⟩ := exists_barred_quote hrow h
      rw [rereadRow_barred_append]
      rfl
    · rw [rereadRow_of_ne hrow h, hrow.bar]
  simp only [normaliseRow?, hrow.trim, hstart]
  exact if_pos hbar

/-- **Every row of some lines** is a row again. -/
theorem exampleRows_exampleRows (lines : List Text) :
    exampleRows (exampleRows lines) = (exampleRows lines).map rereadRow := by
  have hrow : ∀ row ∈ exampleRows lines, normaliseRow? row = some (rereadRow row) :=
    fun row hmem => normaliseRow?_row (isRow_of_mem_exampleRows hmem)
  rw [exampleRows, List.filterMap_congr hrow, List.filterMap_eq_map']

namespace Table

theorem ofLines_exampleRows (lines : List Text) :
    ofLines (exampleRows lines) =
      ofRows ((exampleRows lines).map fun row => cells (rereadRow row)) := by
  rw [ofLines, exampleRows_exampleRows, List.map_map]
  rfl

/-- **The rows of some lines** make up what the lines do, a table or an error, unless the quotes at
the ends of rows matter: in a table there may be none, and in rows of several lengths none that
takes a cell with it before the first row of another length or in that row. -/
theorem ofLines_exampleRows_eq_iff (lines : List Text) :
    ofLines (exampleRows lines) = ofLines lines ↔
      match ofLines lines with
      | .ok _ => ∀ row ∈ exampleRows lines, row.getLast? ≠ some '"'
      | .error .missingHeader => True
      | .error (.raggedRow last _ _) =>
        ∀ row ∈ (exampleRows lines).take last, ¬ GivesUpCell row := by
  have hrow : ∀ row ∈ exampleRows lines, IsRow row := fun row => isRow_of_mem_exampleRows
  rw [ofLines_exampleRows]
  cases hlines : ofLines lines with
  | ok table =>
    have hcells := ofRows_eq_ok_iff.1 hlines
    rw [ofRows_eq_ok_iff, ← hcells, List.map_inj_left]
    exact forall₂_congr fun row hmem => cells_rereadRow_eq_iff (hrow row hmem)
  | error e =>
    cases e with
    | missingHeader =>
      have hnil := ofRows_eq_missingHeader_iff.1 hlines
      simpa [ofRows_eq_missingHeader_iff] using hnil
    | raggedRow last expected found =>
      obtain ⟨hlast, hne, hlengths⟩ := ofRows_eq_raggedRow_iff.1 hlines
      rw [ofRows_eq_raggedRow_iff, ← hlengths]
      simp only [hlast, hne, ne_eq, not_false_eq_true, true_and, ← List.map_take, List.map_map,
        List.map_inj_left, Function.comp_apply]
      refine forall₂_congr fun row hmem => ?_
      exact length_cells_rereadRow_eq_iff (hrow row (List.mem_of_mem_take hmem))

end Table

end StorySpec
