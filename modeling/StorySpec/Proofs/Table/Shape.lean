import Mathlib.Data.List.Basic
import StorySpec.Proofs.Table.Ragged

/-!
# The shape of tables

The rows among some lines make up a table exactly when there is one and all of them are as long as
the first.  Otherwise the error says which row is the first of another length, where rows are
counted from the header on and lines that are no rows are not counted.

A table has a cell in every row for every place of its header.  So a column has as many values as
the table has rows, whatever the cells of the header are: of two columns with one name the first
counts, and a column without a name is one like the others.

## Main definitions

* `Table.IsFirstRagged rows row expected found`: which row is the first of another length.
* `Table.IsColumnAt t name place values`: the values of a column, and the place of its name.

## Main results

* `ofRows_eq_raggedRow_iff_isFirstRagged`: the error names the first row of another length.
* `filterMap_getElem?_rows`: no row is left out of a column.
* `column?_eq_some_iff`: the values of a column, row by row.
* `ofLines_eq_iff_shape`: what lines make up, and what the columns of a table hold.
-/

namespace StorySpec.Table

variable {rows : List (List Text)} {row expected found place : Nat} {names values : List Text}
  {name : Text} {t : Table}

/-! ## Rows of several lengths -/

/-- The first row that is not as long as the header has the number `row` and the length `found`,
where the header is row 1 and has the length `expected`. -/
structure IsFirstRagged (rows : List (List Text)) (row expected found : Nat) : Prop where
  header : (rows.headD []).length = expected
  ne : found ≠ expected
  split : ∃ before ragged after, rows = before ++ ragged :: after ∧ row = before.length + 1 ∧
    ragged.length = found ∧ ∀ r ∈ before, r.length = expected

/-- **The error names the first row** of another length. -/
theorem ofRows_eq_raggedRow_iff_isFirstRagged :
    ofRows rows = .error (.raggedRow row expected found) ↔
      IsFirstRagged rows row expected found := by
  rw [ofRows_eq_raggedRow_iff]
  constructor
  · rintro ⟨hrow, hne, hlengths⟩
    obtain ⟨before, last, htake, hbefore, hlast⟩ := List.map_eq_append_iff.1 hlengths
    obtain ⟨ragged, rfl, hragged⟩ := List.map_eq_singleton_iff.1 hlast
    obtain ⟨hcount, hall⟩ := List.eq_replicate_iff.1 hbefore
    rw [List.length_map] at hcount
    have hrows : rows = before ++ ragged :: rows.drop row := by
      rw [← List.singleton_append, ← List.append_assoc, ← htake, List.take_append_drop]
    obtain ⟨header, front, rfl⟩ : ∃ header front, before = header :: front :=
      List.exists_cons_of_length_pos (by omega)
    have hheader : header.length = expected := hall _ (by simp)
    refine ⟨?_, hne, header :: front, ragged, rows.drop row, hrows, by omega, hragged, ?_⟩
    · rw [hrows]
      exact hheader
    · intro r hr
      exact hall _ (List.mem_map_of_mem hr)
  · rintro ⟨hheader, hne, before, ragged, after, rfl, rfl, hragged, hbefore⟩
    have htake : (before ++ ragged :: after).take (before.length + 1) = before ++ [ragged] := by
      simp [List.take_append, List.take_of_length_le]
    have hlengths : before.map List.length = List.replicate before.length expected := by
      apply List.eq_replicate_iff.2
      refine ⟨List.length_map _, fun n hn => ?_⟩
      obtain ⟨r, hr, rfl⟩ := List.mem_map.1 hn
      exact hbefore r hr
    refine ⟨?_, hne, ?_⟩
    · cases before with
      | nil => exact absurd (hragged.symm.trans hheader) hne
      | cons header front => simp
    · rw [htake, List.map_append, hlengths, List.map_singleton, hragged, Nat.add_sub_cancel]

/-- There is a first row of another length exactly when there is one at all. -/
theorem exists_isFirstRagged_iff :
    (∃ row expected found, IsFirstRagged rows row expected found) ↔
      ∃ r ∈ rows, r.length ≠ (rows.headD []).length := by
  constructor
  · rintro ⟨row, expected, found, hheader, hne, before, ragged, after, hrows, -, hragged, -⟩
    refine ⟨ragged, by simp [hrows], ?_⟩
    rwa [hragged, hheader]
  · rintro ⟨r, hr, hlength⟩
    cases hresult : ofRows rows with
    | ok t =>
      -- all rows of a table are as long as its header
      rw [ofRows_eq_ok_iff] at hresult
      subst hresult
      rcases List.mem_cons.1 hr with rfl | hr
      · exact absurd rfl hlength
      · exact absurd (t.aligned r hr) hlength
    | error e =>
      cases e with
      | missingHeader =>
        rw [ofRows_eq_missingHeader_iff.1 hresult] at hr
        exact absurd hr List.not_mem_nil
      | raggedRow row expected found =>
        exact ⟨row, expected, found, ofRows_eq_raggedRow_iff_isFirstRagged.1 hresult⟩

/-- Rows of one length make up the table of these rows. -/
theorem exists_ofRows_eq_ok_iff {header : List Text} {data : List (List Text)} :
    (∃ t, ofRows rows = .ok t ∧ t.header = header ∧ t.rows = data) ↔
      rows = header :: data ∧ ∀ r ∈ data, r.length = header.length := by
  constructor
  · rintro ⟨t, ht, rfl, rfl⟩
    exact ⟨ofRows_eq_ok_iff.1 ht, t.aligned⟩
  · rintro ⟨rfl, haligned⟩
    exact ⟨⟨header, data, haligned⟩, ofRows_eq_ok_iff.2 rfl, rfl, rfl⟩

/-! ## Columns -/

/-- The values of a column: the first cell of the header that is `name` has the place `place`, and
there is one value for every row, which is its cell at that place. -/
structure IsColumnAt (t : Table) (name : Text) (place : Nat) (values : List Text) : Prop where
  title : t.header[place]? = some name
  first : ∀ before < place, t.header[before]? ≠ some name
  length : values.length = t.rows.length
  cell : ∀ i : Nat, values[i]? = t.rows[i]?.bind (·[place]?)

theorem findIdx?_beq_eq_some_iff :
    names.findIdx? (· == name) = some place ↔
      names[place]? = some name ∧ ∀ before < place, names[before]? ≠ some name := by
  rw [List.findIdx?_eq_some_iff_getElem]
  constructor
  · rintro ⟨hplace, hname, hbefore⟩
    refine ⟨by simpa [List.getElem?_eq_getElem hplace] using hname, fun before hlt => ?_⟩
    have hother := hbefore before hlt
    simpa [List.getElem?_eq_getElem (Nat.lt_trans hlt hplace)] using hother
  · rintro ⟨htitle, hfirst⟩
    obtain ⟨hplace, rfl⟩ := List.getElem?_eq_some_iff.1 htitle
    refine ⟨hplace, by simp, fun before hlt => ?_⟩
    have hother := hfirst before hlt
    simpa [List.getElem?_eq_getElem (Nat.lt_trans hlt hplace)] using hother

/-- **No row is left out of a column**: every row has a cell at a place of the header. -/
theorem filterMap_getElem?_rows (t : Table) (h : place < t.header.length) :
    t.rows.filterMap (·[place]?) = t.rows.map (·.getD place []) := by
  rw [← List.filterMap_eq_map]
  refine List.filterMap_congr fun r hr => ?_
  have hr := t.aligned r hr
  simp [List.getD_eq_getElem?_getD, List.getElem?_eq_getElem (hr ▸ h)]

/-- What stands at a place of the header in every row. -/
theorem getElem?_filterMap_rows (t : Table) (h : place < t.header.length) (i : Nat) :
    (t.rows.filterMap (·[place]?))[i]? = t.rows[i]?.bind (·[place]?) := by
  rw [filterMap_getElem?_rows t h, List.getElem?_map]
  cases hrow : t.rows[i]? with
  | none => rfl
  | some r =>
    have hlength := t.aligned r (List.mem_of_getElem? hrow)
    simp [List.getD_eq_getElem?_getD, List.getElem?_eq_getElem (hlength ▸ h)]

/-- **The values of a column**, row by row. -/
theorem column?_eq_some_iff :
    t.column? name = some values ↔ ∃ place, t.IsColumnAt name place values := by
  rw [column?, Option.map_eq_some_iff]
  refine exists_congr fun place => ?_
  rw [findIdx?_beq_eq_some_iff]
  constructor
  · rintro ⟨⟨htitle, hfirst⟩, rfl⟩
    have hplace : place < t.header.length := (List.getElem?_eq_some_iff.1 htitle).1
    refine ⟨htitle, hfirst, ?_, t.getElem?_filterMap_rows hplace⟩
    rw [t.filterMap_getElem?_rows hplace, List.length_map]
  · rintro ⟨htitle, hfirst, -, hcell⟩
    have hplace : place < t.header.length := (List.getElem?_eq_some_iff.1 htitle).1
    refine ⟨⟨htitle, hfirst⟩, List.ext_getElem? fun i => ?_⟩
    rw [t.getElem?_filterMap_rows hplace, hcell]

theorem column?_eq_none_iff : t.column? name = none ↔ t.hasColumn name = false := by
  rw [hasColumn_iff_isSome, Option.isSome_eq_false_iff, Option.isNone_iff_eq_none]

/-! ## Lines -/

/-- **What lines make up.**  There is no table without rows; rows of several lengths are refused
with the first one that is not as long as the header; and all others are the header and the rows of
a table.  In a table a name has a column exactly when it is in the header, and the column holds the
cell of every row at the first place of the name. -/
theorem ofLines_eq_iff_shape (lines : List Text) :
    let rows := (exampleRows lines).map cells
    (ofLines lines = .error .missingHeader ↔ rows = []) ∧
    (∀ row expected found, ofLines lines = .error (.raggedRow row expected found) ↔
      IsFirstRagged rows row expected found) ∧
    ((∃ row expected found, ofLines lines = .error (.raggedRow row expected found)) ↔
      ∃ r ∈ rows, r.length ≠ (rows.headD []).length) ∧
    (∀ header data, (∃ t, ofLines lines = .ok t ∧ t.header = header ∧ t.rows = data) ↔
      rows = header :: data ∧ ∀ r ∈ data, r.length = header.length) ∧
    ∀ (t : Table) (name : Text),
      (t.hasColumn name = true ↔ name ∈ t.header) ∧
      (t.column? name = none ↔ t.hasColumn name = false) ∧
      ∀ values, t.column? name = some values ↔ ∃ place, t.IsColumnAt name place values := by
  intro rows
  refine ⟨ofRows_eq_missingHeader_iff, fun row expected found => ?_, ?_, fun header data => ?_,
    fun t name => ⟨List.contains_iff_mem, column?_eq_none_iff, fun values => ?_⟩⟩
  · exact ofRows_eq_raggedRow_iff_isFirstRagged
  · rw [← exists_isFirstRagged_iff]
    simp only [ofLines, ofRows_eq_raggedRow_iff_isFirstRagged, rows]
  · exact exists_ofRows_eq_ok_iff
  · exact column?_eq_some_iff

example : ofLines ["notes".toList, "| a | a |".toList, "| 1 | 2".toList, "|".toList] =
    .error (.raggedRow 3 2 1) := rfl

end StorySpec.Table
