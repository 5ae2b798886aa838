import StorySpec.ParamType
import StorySpec.Table.Row
import StorySpec.Text.Digit
import StorySpec.Text.LowerCase

/-!
# Examples tables

An examples table is a header and rows of as many cells.  A column has the type that all of its
values have.

## Main definitions

* `Table`: a table whose rows are as long as its header.
* `TableError`: why lines hold no table.
* `Table.ofLines lines`: the table that the rows among the lines make up.
* `Table.column? t name`: the values of a column.
* `Table.columnType t name`: the type of a column.

## Main results

* `ofRows_eq_ok_iff`: rows make up a table exactly when there is one and all are of one length.
* `hasColumn_iff_isSome`: the columns with values are those that the header names.
-/

namespace StorySpec

/-- An examples table. -/
structure Table where
  header : List Text
  /-- The cells of the data rows. -/
  rows : List (List Text)
  /-- Every row has a cell for every column. -/
  aligned : ∀ row ∈ rows, row.length = header.length
  deriving DecidableEq, Repr

/-- Why lines hold no table. -/
inductive TableError where
  /-- There is no row at all. -/
  | missingHeader
  /-- The given row, the header being row 1, is not as long as the header. -/
  | raggedRow (row expected found : Nat)
  deriving DecidableEq, Repr

/-- The wording of the error. -/
def TableError.message : TableError → Text
  | .missingHeader => "examples block has no table rows".toList
  | .raggedRow row expected found =>
    "row ".toList ++ Text.ofNat row ++ " has ".toList ++ Text.ofNat found ++
      " columns, expected ".toList ++ Text.ofNat expected

namespace Table

/-- The first row that is not of length `n`, and its number, when the rows are numbered from
`start`. -/
def firstRagged? (n : Nat) (start : Nat) : List (List Text) → Option (Nat × Nat)
  | [] => none
  | row :: rows =>
    if row.length = n then firstRagged? n (start + 1) rows else some (start, row.length)

/-- Rows are all of length `n` exactly when none of them is ragged. -/
theorem firstRagged?_eq_none_iff {n start : Nat} {rows : List (List Text)} :
    firstRagged? n start rows = none ↔ ∀ row ∈ rows, row.length = n := by
  induction rows generalizing start with
  | nil => simp [firstRagged?]
  | cons row rows ih =>
    by_cases h : row.length = n <;> simp [firstRagged?, h, ih]

/-- The table that rows of cells make up; the first row is the header. -/
def ofRows : List (List Text) → Except TableError Table
  | [] => .error .missingHeader
  | header :: rows =>
    match h : firstRagged? header.length 2 rows with
    | some (row, found) => .error (.raggedRow row header.length found)
    | none => .ok ⟨header, rows, firstRagged?_eq_none_iff.1 h⟩

/-- The table that the rows among the lines make up; other lines are passed over. -/
def ofLines (lines : List Text) : Except TableError Table :=
  ofRows ((exampleRows lines).map cells)

/-- **Rows make up a table** exactly when there is one and all of them are of one length. -/
theorem ofRows_eq_ok_iff {rows : List (List Text)} {t : Table} :
    ofRows rows = .ok t ↔ rows = t.header :: t.rows := by
  obtain ⟨header, data, aligned⟩ := t
  cases rows with
  | nil => simp [ofRows]
  | cons first rest =>
    constructor
    · intro h
      simp only [ofRows] at h
      split at h
      · cases h
      · simp only [Except.ok.injEq, Table.mk.injEq] at h
        rw [h.1, h.2]
    · intro h
      simp only [List.cons.injEq] at h
      obtain ⟨rfl, rfl⟩ := h
      simp only [ofRows]
      split
      · rename_i hr
        rw [firstRagged?_eq_none_iff.2 aligned] at hr
        cases hr
      · rfl

/-! ## Columns -/

/-- Whether the header names a column. -/
def hasColumn (t : Table) (name : Text) : Bool :=
  t.header.contains name

/-- The values of a column, from top to bottom.  Of columns with one name, the first counts. -/
def column? (t : Table) (name : Text) : Option (List Text) :=
  (t.header.findIdx? (· == name)).map fun i => t.rows.filterMap (·[i]?)

/-- The columns with values are those that the header names. -/
theorem hasColumn_iff_isSome (t : Table) (name : Text) :
    t.hasColumn name = (t.column? name).isSome := by
  rw [hasColumn, column?, Option.isSome_map, List.findIdx?_isSome, List.contains_eq_any_beq]
  simp only [Bool.beq_comm]

/-! ## Types of columns -/

/-- Whether a value is a truth value, in any case. -/
def isBooleanValue (v : Text) : Bool :=
  Text.eqIgnoringAsciiCase v "true".toList || Text.eqIgnoringAsciiCase v "false".toList

/-- Whether a text consists of one or more decimal digits. -/
def isDigits (v : Text) : Bool :=
  v != [] && v.all isDecimalDigit

/-- Whether a value is a whole number: digits, and a minus sign before them or not. -/
def isIntegerValue (v : Text) : Bool :=
  isDigits (Text.dropLeading '-' v)

/-- Whether a value is a number with a fraction: digits on both sides of a point, and a minus sign
before them or not. -/
def isDecimalValue (v : Text) : Bool :=
  let number := Text.dropLeading '-' v
  isDigits (number.takeWhile (· != '.')) && isDigits ((number.dropWhile (· != '.')).drop 1)

/-- The type that all the values have; text when there are none or when they differ. -/
def valuesType (vs : List Text) : ParamType :=
  if vs = [] then .string
  else if vs.all isBooleanValue then .boolean
  else if vs.all isIntegerValue then .int
  else if vs.all isDecimalValue then .float
  else .string

/-- The type of a column; a column that is not there holds text. -/
def columnType (t : Table) (name : Text) : ParamType :=
  match t.column? name with
  | some vs => valuesType vs
  | none => .string

end Table

end StorySpec
