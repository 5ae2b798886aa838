import StorySpec.Feature.OfDocument
import StorySpec.Proofs.Text.Split
import StorySpec.Proofs.Text.Trim

/-!
# Rows and their cells

A row that is closed by a bar is a bar with pieces behind it, each of which is closed by a bar of
its own.  The cells of the row are these pieces without the blanks around them, so a row that is
written from cells has these cells.

## Main definitions

* `barred ps`: the pieces `ps`, a bar before the first one and one behind each of them.

## Main results

* `exists_barred`: every text with a bar at its start is made of pieces.
* `cells_barred`: the cells of a row that is closed by a bar.
* `cells_rowLine`, `normaliseRow?_rowLine`: a row that is written from cells is a row with them.
* `ofLines_map_rowLine`: lines that are written from rows make up the table of these rows.
-/

namespace StorySpec

open Gherkin (rowLine)

variable {ps cs : List Text}

/-! ## The rows that lines hold -/

theorem Text.dropLeading_isSuffix (c : Char) (t : Text) : Text.dropLeading c t <:+ t := by
  unfold Text.dropLeading
  split
  · exact List.tail_suffix t
  · exact List.suffix_refl t

theorem Text.dropTrailing_isPrefix (c : Char) (t : Text) : Text.dropTrailing c t <+: t := by
  unfold Text.dropTrailing
  split
  · exact List.dropLast_prefix t
  · exact List.prefix_refl t

/-- The row that a line holds stands in the line, and it is trimmed. -/
theorem isInfix_of_normaliseRow? {line row : Text} (h : normaliseRow? line = some row) :
    row <:+: line ∧ Text.trim row = row := by
  simp only [normaliseRow?] at h
  split at h
  · cases h
    have hinner : Text.dropTrailing '"' (Text.dropLeading '"' (Text.trim line)) <:+:
        Text.trim line :=
      (Text.dropTrailing_isPrefix '"' _).isInfix.trans (Text.dropLeading_isSuffix '"' _).isInfix
    exact ⟨(Text.trim_isInfix _).trans (hinner.trans (Text.trim_isInfix line)), Text.trim_trim _⟩
  · cases h

/-! ## Pieces -/

/-- The pieces `ps`, a bar before the first one and one behind each of them. -/
def barred (ps : List Text) : Text :=
  '|' :: ps.flatMap (· ++ ['|'])

theorem barred_concat (ps : List Text) (p : Text) :
    barred (ps ++ [p]) = '|' :: Text.joined ['|'] (ps ++ [p]) ++ ['|'] := by
  rw [Text.joined_concat]
  simp [barred]

/-- A text with a bar at its start is made of pieces that bars close, and of a last piece. -/
theorem exists_barred {l : Text} (h : l.head? = some '|') :
    ∃ ps q, l = barred ps ++ q ∧ (∀ p ∈ ps, '|' ∉ p) ∧ '|' ∉ q := by
  obtain ⟨t, rfl⟩ : ∃ t, l = '|' :: t := by
    cases l with
    | nil => cases h
    | cons c l => cases h; exact ⟨l, rfl⟩
  -- the last of the parts between the bars is the one that no bar closes
  have hpieces : ∀ p ∈ t.splitOn '|', '|' ∉ p := fun p => not_mem_of_mem_splitOn
  have hjoined : Text.joined ['|'] (t.splitOn '|') = t := List.intercalate_splitOn '|'
  obtain ⟨ps, q, hsplit⟩ := (List.eq_nil_or_concat' (t.splitOn '|')).resolve_left
    (List.splitOn_ne_nil _ _)
  rw [hsplit] at hpieces hjoined
  refine ⟨ps, q, ?_, fun p hp => hpieces p (List.mem_append_left _ hp),
    hpieces q (List.mem_append_right _ List.mem_cons_self)⟩
  rw [Text.joined_concat] at hjoined
  rw [barred, List.cons_append, hjoined]

/-- **The cells of a closed row** are its pieces, trimmed. -/
theorem cells_barred (hne : ps ≠ []) (h : ∀ p ∈ ps, '|' ∉ p) :
    cells (barred ps) = ps.map Text.trim := by
  obtain ⟨front, p, rfl⟩ := (List.eq_nil_or_concat' ps).resolve_left hne
  have hsplit : (Text.joined ['|'] (front ++ [p])).splitOn '|' = front ++ [p] :=
    List.splitOn_intercalate '|' h hne
  rw [barred_concat, cells, Text.dropLeading, List.cons_append, List.head?_cons, if_pos rfl,
    List.tail_cons, Text.dropTrailing, if_pos (by simp), List.dropLast_concat, hsplit]

/-- Cells are trimmed and hold no bar. -/
theorem trim_of_mem_cells {row c : Text} (h : c ∈ cells row) : Text.trim c = c ∧ '|' ∉ c := by
  obtain ⟨p, hp, rfl⟩ := List.mem_map.1 h
  exact ⟨Text.trim_trim p,
    fun hmem => not_mem_of_mem_splitOn hp ((Text.trim_isInfix p).subset hmem)⟩

theorem cells_ne_nil (row : Text) : cells row ≠ [] :=
  List.length_pos_iff.1 (cells_length_pos row)

/-! ## Written rows -/

/-- A written row is a closed one. -/
theorem rowLine_eq_barred (hne : cs ≠ []) :
    rowLine cs = barred (cs.map fun c => ' ' :: (c ++ [' '])) := by
  have hjoined : ∀ {cs : List Text}, cs ≠ [] →
      ' ' :: Text.joined " | ".toList cs ++ " |".toList =
        (cs.map fun c => ' ' :: (c ++ [' '])).flatMap (· ++ ['|']) := by
    intro cs hcs
    induction cs with
    | nil => exact absurd rfl hcs
    | cons c cs ih =>
      cases cs with
      | nil => simp
      | cons d cs =>
        have hrest := ih (by simp)
        rw [List.map_cons, List.flatMap_cons, ← hrest, Text.joined_cons_cons]
        simp
  rw [barred, ← hjoined hne]
  rfl

/-- **The cells of a written row** are the ones that it was written from. -/
theorem cells_rowLine (hne : cs ≠ []) (h : ∀ c ∈ cs, Text.trim c = c ∧ '|' ∉ c) :
    cells (rowLine cs) = cs := by
  have hpieces : ∀ p ∈ cs.map (fun c => ' ' :: (c ++ [' '])), '|' ∉ p := by
    intro p hp
    obtain ⟨c, hc, rfl⟩ := List.mem_map.1 hp
    simpa using (h c hc).2
  have htrim : ∀ c ∈ cs, (Text.trim ∘ fun c => ' ' :: (c ++ [' '])) c = id c := by
    intro c hc
    exact (Text.trim_spaced c).trans (h c hc).1
  rw [rowLine_eq_barred hne, cells_barred (by simpa using hne) hpieces, List.map_map,
    List.map_congr_left htrim, List.map_id]

/-- A written row is a row as it stands. -/
theorem normaliseRow?_rowLine (cs : List Text) :
    normaliseRow? (rowLine cs) = some (rowLine cs) := by
  have hhead : (rowLine cs).head? = some '|' := rfl
  have hlast : (rowLine cs).getLast? = some '|' := by
    rw [rowLine, List.getLast?_append]
    rfl
  have htrim : Text.trim (rowLine cs) = rowLine cs := by
    rw [Text.trim_eq_self_iff, hhead, hlast]
    constructor <;> (rintro c ⟨⟩; decide)
  have hstart : Text.dropLeading '"' (rowLine cs) = rowLine cs := by
    rw [Text.dropLeading, hhead, if_neg (by decide)]
  have hend : Text.dropTrailing '"' (rowLine cs) = rowLine cs := by
    rw [Text.dropTrailing, hlast, if_neg (by decide)]
  rw [normaliseRow?, htrim, hstart, hend, htrim, hhead, if_pos rfl]

theorem exampleRows_map_rowLine (rows : List (List Text)) :
    exampleRows (rows.map rowLine) = rows.map rowLine := by
  induction rows with
  | nil => rfl
  | cons cs rows ih =>
    rw [List.map_cons, exampleRows, List.filterMap_cons_some (normaliseRow?_rowLine cs)]
    exact congrArg _ ih

/-- **Lines that are written from rows** make up the table that the rows make up. -/
theorem ofLines_map_rowLine {rows : List (List Text)}
    (h : ∀ cs ∈ rows, cs ≠ [] ∧ ∀ c ∈ cs, Text.trim c = c ∧ '|' ∉ c) :
    Table.ofLines (rows.map rowLine) = Table.ofRows rows := by
  have hcells : ∀ cs ∈ rows, (cells ∘ rowLine) cs = id cs := fun cs hcs =>
    cells_rowLine (h cs hcs).1 (h cs hcs).2
  rw [Table.ofLines, exampleRows_map_rowLine, List.map_map, List.map_congr_left hcells,
    List.map_id]

end StorySpec
