import StorySpec.Text.Blank

/-!
# Table rows

A table row is a line that begins with a bar; it may stand in double quotes.  Its cells are what
stands between its bars.

## Main definitions

* `normaliseRow? line`: the row that a line holds, without the quotes around it.
* `exampleRows lines`: the rows among the lines.
* `cells row`: the cells of a row.

## Main results

* `cells_length_pos`: a row has at least one cell.
-/

namespace StorySpec

/-- The text without the character `c` at its beginning, if it is there. -/
def Text.dropLeading (c : Char) (t : Text) : Text :=
  if t.head? = some c then t.tail else t

/-- The text without the character `c` at its end, if it is there. -/
def Text.dropTrailing (c : Char) (t : Text) : Text :=
  if t.getLast? = some c then t.dropLast else t

/-- The row that a line holds.  Blanks around the line, one double quote at either end and blanks
inside the quotes are left out; what remains is a row when it begins with a bar. -/
def normaliseRow? (line : Text) : Option Text :=
  let row := Text.trim (Text.dropTrailing '"' (Text.dropLeading '"' (Text.trim line)))
  if row.head? = some '|' then some row else none

/-- The rows among the lines, in order. -/
def exampleRows (lines : List Text) : List Text :=
  lines.filterMap normaliseRow?

/-- The cells of a row: what stands between its bars, trimmed.  The bars at both ends enclose the
row, and the last of them may be missing. -/
def cells (row : Text) : List Text :=
  ((Text.dropTrailing '|' (Text.dropLeading '|' row)).splitOn '|').map Text.trim

/-- A row has at least one cell. -/
theorem cells_length_pos (row : Text) : 0 < (cells row).length := by
  simp only [cells, List.length_map, List.length_pos_iff]
  exact List.splitOn_ne_nil _ _

theorem head?_of_normaliseRow? {line row : Text} (h : normaliseRow? line = some row) :
    row.head? = some '|' := by
  simp only [normaliseRow?] at h
  split at h
  · cases h
    assumption
  · cases h

end StorySpec
