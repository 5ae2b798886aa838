import Mathlib.Data.List.TakeWhile
import StorySpec.Proofs.Gherkin.Layout
import StorySpec.Proofs.Table.Row

/-!
# Tables in Gherkin documents

A row of a table begins with a bar and is closed by one.  Between them it has the cells that every
reader of rows finds there, except that a bar alone has none.  A table takes all closed rows that
follow one another; it fails when a later row is shorter than the first one.

## Main definitions

* `isClosedRow l`: whether a bar closes the line `l`.
* `rowCells l`: the cells that the grammar finds in a closed row.
* `alignedTable? rows`: the table that rows of cells make up.

## Main results

* `row_of_closed`, `row_of_not_closed`: what a line with a bar at its start is read as.
* `table_block`: what a block of lines with bars at their starts is read as.
-/

namespace StorySpec.Gherkin

open StorySpec.Gherkin.Parser

variable {n : Nat} {l t u : Text} {ls ps : List Text}

/-- Whether a bar closes a line. -/
def isClosedRow (l : Text) : Bool :=
  l.getLast? == some '|'

/-- The cells that the grammar finds in a closed row.  A bar alone opens no cell. -/
def rowCells (l : Text) : List Text :=
  if l = ['|'] then [] else cells l

/-- The table that rows of cells make up.  No row may be shorter than the first one, and longer
ones are cut. -/
def alignedTable? : List (List Text) → Option (List (List Text))
  | [] => none
  | first :: others =>
    if others.all fun r => first.length ≤ r.length then
      some (first :: others.map (·.take first.length))
    else none

/-! ## Cells -/

/-- A line is not over where there is some of it left. -/
theorem lineIsOver_of_isTail (h : IsTail t) (hne : t ≠ []) (u : Text) :
    lineIsOver (t ++ '\n' :: u) = none := by
  obtain ⟨c, s, rfl⟩ := List.exists_cons_of_ne_nil hne
  have hc : c ≠ '\n' := fun heq => h.noBreak (heq ▸ List.mem_cons_self)
  have hnewline : newline (c :: s ++ '\n' :: u) = none := by
    by_cases hreturn : c = '\r'
    · subst hreturn
      obtain ⟨d, s, rfl⟩ : ∃ d r, s = d :: r := by
        cases s with
        | nil => exact absurd (h.last '\r' rfl) (by decide)
        | cons d s => exact ⟨d, s, rfl⟩
      have hd : d ≠ '\n' := fun heq => h.noBreak (by simp [heq])
      rw [newline, orElse_of_none, word_singleton_eq_none (by simp)]
      rw [bind_apply, List.cons_append, word_singleton_cons, Option.bind_some,
        word_singleton_eq_none (by simpa using hd)]
    · exact newline_of_head (by simpa using ⟨hc, hreturn⟩)
  rw [lineIsOver, orElse_of_none hnewline]
  rfl

theorem dropWhile_isSpace_ne_nil (h : IsTail t) (hne : t ≠ []) : t.dropWhile isSpace ≠ [] := by
  intro hnil
  obtain ⟨s, c, rfl⟩ := (List.eq_nil_or_concat' t).resolve_left hne
  have hspace : isSpace c = true :=
    List.dropWhile_eq_nil_iff.1 hnil c (List.mem_append_right _ List.mem_cons_self)
  have hblank := h.last c (by simp)
  rw [isBlank_of_isSpace hspace] at hblank
  cases hblank

theorem trim_dropWhile_isSpace (t : Text) : Text.trim (t.dropWhile isSpace) = Text.trim t := by
  induction t with
  | nil => rfl
  | cons c t ih =>
    by_cases hc : isSpace c = true
    · rw [List.dropWhile_cons_of_pos hc, ih, Text.trim_cons_of_isBlank (isBlank_of_isSpace hc)]
    · rw [List.dropWhile_cons_of_neg hc]

/-- **A cell** takes what stands up to the next bar, or up to the end of the line. -/
theorem cell_append {p r : Text} (hp : '|' ∉ p) (hr : r = [] ∨ r.head? = some '|')
    (h : IsTail (p ++ r)) (hne : p ++ r ≠ []) (u : Text) :
    cell ('|' :: (p ++ r ++ '\n' :: u)) = some (Text.trim p, r ++ '\n' :: u) := by
  have hdropr : r.dropWhile isSpace = r := by
    rcases hr with rfl | hr
    · rfl
    · obtain ⟨s, rfl⟩ := List.head?_eq_some_iff.1 hr
      rfl
  have hdrop : (p ++ r).dropWhile isSpace = p.dropWhile isSpace ++ r := by
    rw [List.dropWhile_append]
    split
    · rename_i hnil
      rw [hdropr, List.isEmpty_iff.1 hnil, List.nil_append]
    · rfl
  have hsuffix : p.dropWhile isSpace ++ r <:+ p ++ r := by
    rw [← hdrop]
    exact List.dropWhile_suffix _
  have hleft : p.dropWhile isSpace ++ r ≠ [] := by
    rw [← hdrop]
    exact dropWhile_isSpace_ne_nil h hne
  have hspaces : spaces (p ++ r ++ '\n' :: u) =
      some ((), p.dropWhile isSpace ++ r ++ '\n' :: u) := by
    rw [spaces, map_apply, run, List.dropWhile_append, hdrop, if_neg (by simpa using hleft)]
    rfl
  -- up to the next bar there is the piece, and behind it a bar or the end of the line
  have hpiece : ∀ c ∈ p.dropWhile isSpace, (c != '|') = true := by
    intro c hc
    have hmem : c ∈ p := (List.dropWhile_suffix _).mem hc
    simpa using fun heq : c = '|' => hp (heq ▸ hmem)
  have htext : cellText (p.dropWhile isSpace ++ r ++ '\n' :: u) =
      some (p.dropWhile isSpace, r ++ '\n' :: u) := by
    have hstop : r.takeWhile (· != '|') = [] ∧ r.dropWhile (· != '|') = r := by
      rcases hr with rfl | hr
      · exact ⟨rfl, rfl⟩
      · obtain ⟨s, rfl⟩ := List.head?_eq_some_iff.1 hr
        exact ⟨rfl, rfl⟩
    rw [cellText, splitLine_append (h.of_suffix hsuffix)]
    simp only [List.takeWhile_append_of_pos hpiece, List.dropWhile_append_of_pos hpiece, hstop,
      List.append_nil]
  rw [cell, bind_apply, word_singleton_cons, Option.bind_some, bind_apply, hspaces,
    Option.bind_some, bind_apply,
    notAhead_of_none (lineIsOver_of_isTail (h.of_suffix hsuffix) hleft u), Option.bind_some,
    bind_apply, htext, Option.bind_some, pure_apply, trim_dropWhile_isSpace]

/-- A bar at the end of a line opens no cell. -/
theorem cell_newline (u : Text) : cell ('|' :: '\n' :: u) = none := by
  have hover : lineIsOver ('\n' :: u) = some ((), u) := orElse_of_some (newline_cons u)
  rw [cell, bind_apply, word_singleton_cons, Option.bind_some, bind_apply,
    spaces_of_head (by simp [isSpace]), Option.bind_some, bind_apply, notAhead_of_some hover]
  rfl

theorem cell_of_head (h : t.head? ≠ some '|') : cell t = none := by
  rw [cell, bind_apply, word_singleton_eq_none h]
  rfl

/-! ## Rows -/

/-- A cell, and the spaces before it. -/
def nextCell : Parser Text := do
  spaces
  cell

theorem nextCell_eq_cell (h : ∀ c ∈ t.head?, isSpace c = false) : nextCell t = cell t := by
  rw [nextCell, bind_apply, spaces_of_head h]
  rfl

theorem cell_piece {p : Text} (hp : '|' ∉ p) (h : IsTail (barred (p :: ps) ++ t)) (u : Text) :
    cell (barred (p :: ps) ++ t ++ '\n' :: u) =
      some (Text.trim p, barred ps ++ t ++ '\n' :: u) := by
  have hshape : barred (p :: ps) ++ t = '|' :: (p ++ (barred ps ++ t)) := by simp [barred]
  rw [hshape] at h ⊢
  exact cell_append hp (Or.inr rfl) (h.of_suffix (List.suffix_cons _ _)) (by simp [barred]) u

/-- The last piece of a row is a cell unless it is empty. -/
theorem cell_last {q : Text} (hq : '|' ∉ q) (h : IsTail q) (hne : q ≠ []) (u : Text) :
    cell ('|' :: (q ++ '\n' :: u)) = some (Text.trim q, '\n' :: u) := by
  have hcell := cell_append (r := []) hq (Or.inl rfl) (by simpa using h) (by simpa using hne) u
  simpa using hcell

theorem length_newline_lt (q u : Text) :
    ('\n' :: u).length < ('|' :: (q ++ '\n' :: u)).length := by
  simp only [List.length_cons, List.length_append]
  omega

/-- The pieces of a row are read as its cells, one after the other. -/
theorem many_nextCell_barred (hps : ∀ p ∈ ps, '|' ∉ p) (h : IsTail (barred ps ++ t)) (u : Text) :
    many nextCell (barred ps ++ t ++ '\n' :: u) =
      (many nextCell ('|' :: (t ++ '\n' :: u))).map fun x => (ps.map Text.trim ++ x.1, x.2) := by
  induction ps with
  | nil => simp [barred]
  | cons p ps ih =>
    have hcell : nextCell (barred (p :: ps) ++ t ++ '\n' :: u) =
        some (Text.trim p, barred ps ++ t ++ '\n' :: u) := by
      rw [nextCell_eq_cell (by simp [barred, isSpace])]
      exact cell_piece (hps p List.mem_cons_self) h u
    have htail : IsTail (barred ps ++ t) := by
      refine h.of_suffix ⟨'|' :: p, ?_⟩
      simp [barred]
    have hlt : (barred ps ++ t ++ '\n' :: u).length <
        (barred (p :: ps) ++ t ++ '\n' :: u).length := by
      simp only [barred, List.flatMap_cons, List.length_append, List.length_cons]
      omega
    rw [many_cons hcell hlt,
      ih (fun q hq => hps q (List.mem_cons_of_mem p hq)) htail, Option.map_map]
    rfl

/-- The cells of a row begin with its pieces. -/
theorem sepBy_cell_barred (hps : ∀ p ∈ ps, '|' ∉ p) (ht : '|' ∉ t) (h : IsTail (barred ps ++ t))
    (u : Text) :
    sepBy cell spaces (barred ps ++ t ++ '\n' :: u) =
      (many nextCell ('|' :: (t ++ '\n' :: u))).map fun x => (ps.map Text.trim ++ x.1, x.2) := by
  have hsame : (do let _ ← spaces; cell) = nextCell := rfl
  cases ps with
  | nil =>
    have htail : IsTail t := h.of_suffix (List.suffix_append _ _)
    have hshape : barred [] ++ t ++ '\n' :: u = '|' :: (t ++ '\n' :: u) := by simp [barred]
    rw [hshape]
    by_cases hne : t = []
    · subst hne
      have hcell := cell_newline u
      have hnext : nextCell ('|' :: '\n' :: u) = none :=
        (nextCell_eq_cell (by simp [isSpace])).trans hcell
      rw [List.nil_append, sepBy_of_none hcell, many_of_none hnext]
      rfl
    · have hcell := cell_last ht htail hne u
      have hnext : nextCell ('|' :: (t ++ '\n' :: u)) = some (Text.trim t, '\n' :: u) :=
        (nextCell_eq_cell (by simp [isSpace])).trans hcell
      rw [sepBy_cons hcell, many_cons hnext (length_newline_lt t u), hsame, Option.map_map]
      rfl
  | cons p ps =>
    have htail : IsTail (barred ps ++ t) := by
      refine h.of_suffix ⟨'|' :: p, ?_⟩
      simp [barred]
    rw [sepBy_cons (cell_piece (hps p List.mem_cons_self) h u), hsame,
      many_nextCell_barred (fun q hq => hps q (List.mem_cons_of_mem p hq)) htail, Option.map_map]
    rfl

/-- **A row that a bar closes** has its cells. -/
theorem row_of_closed (hl : IsLine l) (hbar : l.head? = some '|') (hclosed : isClosedRow l = true)
    (u : Text) : row (l ++ '\n' :: u) = some (rowCells l, settle u) := by
  obtain ⟨ps, q, rfl, hps, hq⟩ := exists_barred hbar
  -- a last piece would stand behind the closing bar
  obtain rfl : q = [] := by
    by_contra hne
    obtain ⟨q, c, rfl⟩ := (List.eq_nil_or_concat' q).resolve_left hne
    have hc : c = '|' := by simpa [isClosedRow] using hclosed
    exact hq (by simp [hc])
  have hcells : rowCells (barred ps) = ps.map Text.trim := by
    cases ps with
    | nil => rfl
    | cons p ps =>
      have hne : barred (p :: ps) ≠ ['|'] := by simp [barred]
      rw [rowCells, if_neg hne, cells_barred (by simp) hps]
  have hnext : nextCell ('|' :: '\n' :: u) = none :=
    (nextCell_eq_cell (by simp [isSpace])).trans (cell_newline u)
  have hfound := sepBy_cell_barred hps hq hl.isTail u
  rw [List.nil_append, many_of_none hnext] at hfound
  rw [row, bind_apply, hfound, Option.map_some, Option.bind_some, bind_apply,
    spaces_of_head (by simp [isSpace]), Option.bind_some, bind_apply, word_singleton_cons,
    Option.bind_some, bind_apply, spaces_of_head (by simp [isSpace]), Option.bind_some, bind_apply,
    blockEnd_newline, Option.bind_some, pure_apply, List.append_nil, List.append_nil, hcells]

/-- **A row without a bar at its end** is none. -/
theorem row_of_not_closed (hl : IsLine l) (hbar : l.head? = some '|')
    (hclosed : isClosedRow l = false) (u : Text) : row (l ++ '\n' :: u) = none := by
  obtain ⟨ps, q, rfl, hps, hq⟩ := exists_barred hbar
  have hne : q ≠ [] := by
    rintro rfl
    obtain ⟨s, hs⟩ : ∃ s, barred ps = s ++ ['|'] := by
      rcases List.eq_nil_or_concat' ps with rfl | ⟨front, p, rfl⟩
      · exact ⟨[], rfl⟩
      · exact ⟨_, barred_concat front p⟩
    simp [isClosedRow, hs] at hclosed
  have htail : IsTail q := hl.isTail.of_suffix (List.suffix_append _ _)
  have hnext : nextCell ('|' :: (q ++ '\n' :: u)) = some (Text.trim q, '\n' :: u) :=
    (nextCell_eq_cell (by simp [isSpace])).trans (cell_last hq htail hne u)
  have hstop : nextCell ('\n' :: u) = none :=
    (nextCell_eq_cell (by simp [isSpace])).trans (cell_of_head (by simp))
  have hfound := sepBy_cell_barred hps hq hl.isTail u
  rw [many_cons hnext (length_newline_lt q u), many_of_none hstop] at hfound
  rw [row, bind_apply, hfound]
  simp only [Option.map_some, Option.bind_some]
  rw [bind_apply, spaces_of_head (by simp [isSpace]), Option.bind_some, bind_apply,
    word_singleton_eq_none (by simp)]
  rfl

theorem row_of_head (hsettled : Settled t) (h : t.head? ≠ some '|') : row t = none := by
  rw [row, bind_apply, sepBy_of_none (cell_of_head h), Option.bind_some, bind_apply,
    hsettled.spaces, Option.bind_some, bind_apply, word_singleton_eq_none h]
  rfl

/-! ## Tables -/

/-- A row, and the spaces before it. -/
def nextRow : Parser (List Text) := do
  spaces
  row

/-- Lines of a block that all begin with a bar. -/
structure AreRows (ls : List Text) : Prop where
  isLine : ∀ l ∈ ls, IsLine l
  bar : ∀ l ∈ ls, l.head? = some '|'

theorem AreRows.of_suffix {rest : List Text} (h : AreRows ls) (hrest : rest <:+ ls) :
    AreRows rest :=
  ⟨fun m hm => h.isLine m (hrest.mem hm), fun m hm => h.bar m (hrest.mem hm)⟩

theorem AreRows.of_cons (h : AreRows (l :: ls)) : AreRows ls :=
  h.of_suffix (List.suffix_cons l ls)

theorem isSilent_of_bar (h : l.head? = some '|') : isSilent l = false := by
  rw [isSilent, h]
  rfl

theorem AreRows.settle_cons (h : AreRows (l :: ls)) (n : Nat) (u : Text) :
    settle (block n (l :: ls) u) = l ++ '\n' :: block n ls u :=
  settle_block_cons_of_loud n (h.isLine l List.mem_cons_self)
    (isSilent_of_bar (h.bar l List.mem_cons_self)) ls u

/-- Rows are taken as long as bars close them. -/
theorem many_nextRow_block (h : AreRows ls) (hu : Settled (settle u))
    (hbar : (settle u).head? ≠ some '|') :
    many nextRow (settle (block n ls u)) =
      some ((ls.takeWhile isClosedRow).map rowCells,
        settle (block n (ls.dropWhile isClosedRow) u)) := by
  induction ls with
  | nil =>
    refine many_of_none ?_
    rw [nextRow, bind_apply, block_nil, hu.spaces]
    exact row_of_head hu hbar
  | cons l ls ih =>
    have hl := h.isLine l List.mem_cons_self
    have hlbar := h.bar l List.mem_cons_self
    have hsettled := settled_of_loud hl (isSilent_of_bar hlbar) ('\n' :: block n ls u)
    have hnext : nextRow (l ++ '\n' :: block n ls u) = row (l ++ '\n' :: block n ls u) := by
      rw [nextRow, bind_apply, hsettled.spaces]
      rfl
    rw [h.settle_cons]
    cases hclosed : isClosedRow l with
    | true =>
      have hrow := hnext.trans (row_of_closed hl hlbar hclosed (block n ls u))
      rw [many_cons hrow (length_settle_lt_line l _), ih h.of_cons]
      simp [hclosed]
    | false =>
      have hrow := hnext.trans (row_of_not_closed hl hlbar hclosed (block n ls u))
      rw [many_of_none hrow]
      simp [hclosed, h.settle_cons]

/-- **A table** takes the closed rows at the start of a block of rows. -/
theorem table_block (h : AreRows ls) (hu : Settled (settle u))
    (hbar : (settle u).head? ≠ some '|') :
    table (settle (block n ls u)) =
      (alignedTable? ((ls.takeWhile isClosedRow).map rowCells)).map fun rows =>
        (rows, settle (block n (ls.dropWhile isClosedRow) u)) := by
  cases ls with
  | nil =>
    rw [table, bind_apply, block_nil, hu.spaces, Option.bind_some, bind_apply,
      row_of_head hu hbar]
    rfl
  | cons l ls =>
    have hl := h.isLine l List.mem_cons_self
    have hlbar := h.bar l List.mem_cons_self
    have hsettled := settled_of_loud hl (isSilent_of_bar hlbar) ('\n' :: block n ls u)
    rw [h.settle_cons, table, bind_apply, hsettled.spaces, Option.bind_some, bind_apply]
    cases hclosed : isClosedRow l with
    | true =>
      -- the first row decides how long the others have to be
      have hmany := many_nextRow_block (n := n) h.of_cons hu hbar
      have hsame : (do spaces; row) = nextRow := rfl
      rw [row_of_closed hl hlbar hclosed, Option.bind_some, bind_apply, hsame, hmany,
        Option.bind_some]
      simp only [List.takeWhile_cons, List.dropWhile_cons, hclosed, if_true, List.map_cons,
        alignedTable?]
      split <;> rfl
    | false =>
      rw [row_of_not_closed hl hlbar hclosed]
      simp [hclosed, alignedTable?]

end StorySpec.Gherkin
