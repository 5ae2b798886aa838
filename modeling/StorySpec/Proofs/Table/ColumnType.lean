import Mathlib.Data.List.Basic
import StorySpec.Proofs.Table.Shape

/-!
# Types of columns

A value is a truth value, a whole number, a number with a fraction or none of them, but never two of
them: truth values hold no digit, and of the numbers those with a fraction hold a point.  So the
type of a column can be said without an order of tests.  It is the type of which there are values
and of which all values are; where there is no such type, the column holds text.

This depends on nothing but the set of the values.  A column with more values may hold text where it
had another type before, but no other change is possible.

## Main definitions

* `Table.isOfType v ty`: whether the value `v` is of the form that is asked for by the type `ty`.
* `Table.typeInOrder order vs`: the first type of some order that all values are of.

## Main results

* `eq_of_isOfType`: a value is of one type at most.
* `valuesType_eq_iff`: the type of values, without an order of tests.
* `typeInOrder_eq_valuesType`: any order of the tests gives this type.
* `columnType_eq_of_values`: what the type of a column depends on, and how it changes.
-/

namespace StorySpec.Table

variable {v : Text} {vs us : List Text} {ty a b : ParamType} {t : Table} {name : Text}

/-! ## The forms of values -/

/-- Whether a value is of the form that makes a column more than text. -/
def isOfType (v : Text) : ParamType → Bool
  | .boolean => isBooleanValue v
  | .int => isIntegerValue v
  | .float => isDecimalValue v
  | .string => false

/-- No digit of any script is an ASCII letter. -/
theorem toLower_of_isDecimalDigit {c : Char} (h : isDecimalDigit c = true) : c.toLower = c := by
  have happart : ∀ start ∈ digitZeros, start + 10 ≤ 0x41 ∨ 0x5A < start := by decide
  obtain ⟨start, hstart, hle, hlt⟩ :
      ∃ start ∈ digitZeros, start ≤ c.toNat ∧ c.toNat < start + 10 := by
    simpa [isDecimalDigit] using h
  have hcapital : ¬ (c.val ≥ 'A'.val ∧ c.val ≤ 'Z'.val) := by
    rintro ⟨hfirst, hlast⟩
    have hfirst : 0x41 ≤ c.toNat := hfirst
    have hlast : c.toNat ≤ 0x5A := hlast
    rcases happart start hstart with h | h <;> omega
  exact dif_neg hcapital

/-- A truth value holds no digit. -/
theorem not_digit_of_isBooleanValue (h : isBooleanValue v = true) :
    ∀ c ∈ v, isDecimalDigit c = false := by
  intro c hc
  by_contra hdigit
  rw [Bool.not_eq_false] at hdigit
  have hmem : c ∈ Text.lowerAscii v := by
    rw [← toLower_of_isDecimalDigit hdigit]
    exact List.mem_map_of_mem hc
  simp only [isBooleanValue, Text.eqIgnoringAsciiCase, Bool.or_eq_true, beq_iff_eq] at h
  have htrue : (Text.lowerAscii "true".toList).any isDecimalDigit = false := by decide
  have hfalse : (Text.lowerAscii "false".toList).any isDecimalDigit = false := by decide
  rcases h with h | h
  · rw [h] at hmem
    exact List.any_eq_false.1 htrue c hmem hdigit
  · rw [h] at hmem
    exact List.any_eq_false.1 hfalse c hmem hdigit

theorem isDigits_iff : isDigits v = true ↔ v ≠ [] ∧ ∀ c ∈ v, isDecimalDigit c = true := by
  simp [isDigits]

theorem exists_digit_of_isDigits (h : isDigits v = true) : ∃ c ∈ v, isDecimalDigit c = true := by
  obtain ⟨hne, hdigits⟩ := isDigits_iff.1 h
  obtain ⟨c, hc⟩ := List.exists_mem_of_ne_nil v hne
  exact ⟨c, hc, hdigits c hc⟩

/-- What stands behind a minus sign is part of the value. -/
theorem mem_of_mem_dropLeading {c d : Char} (h : c ∈ Text.dropLeading d v) : c ∈ v := by
  unfold Text.dropLeading at h
  split at h
  · exact List.mem_of_mem_tail h
  · exact h

theorem exists_digit_of_isIntegerValue (h : isIntegerValue v = true) :
    ∃ c ∈ v, isDecimalDigit c = true := by
  obtain ⟨c, hc, hdigit⟩ := exists_digit_of_isDigits h
  exact ⟨c, mem_of_mem_dropLeading hc, hdigit⟩

theorem exists_digit_of_isDecimalValue (h : isDecimalValue v = true) :
    ∃ c ∈ v, isDecimalDigit c = true := by
  obtain ⟨hwhole, -⟩ := Bool.and_eq_true_iff.1 h
  obtain ⟨c, hc, hdigit⟩ := exists_digit_of_isDigits hwhole
  exact ⟨c, mem_of_mem_dropLeading ((List.takeWhile_prefix _).subset hc), hdigit⟩

/-- A whole number holds no point. -/
theorem not_point_of_isIntegerValue (h : isIntegerValue v = true) : '.' ∉ v := by
  intro hpoint
  obtain ⟨-, hdigits⟩ := isDigits_iff.1 h
  have hmem : '.' ∈ Text.dropLeading '-' v := by
    unfold Text.dropLeading
    split
    · rename_i hsign
      obtain ⟨tail, rfl⟩ := List.head?_eq_some_iff.1 hsign
      exact (List.mem_cons.1 hpoint).resolve_left (by decide)
    · exact hpoint
  exact absurd (hdigits '.' hmem) (by decide)

/-- A number with a fraction holds a point. -/
theorem point_of_isDecimalValue (h : isDecimalValue v = true) : '.' ∈ v := by
  obtain ⟨-, hfraction⟩ := Bool.and_eq_true_iff.1 h
  have hne := (isDigits_iff.1 hfraction).1
  cases hrest : (Text.dropLeading '-' v).dropWhile (· != '.') with
  | nil =>
    rw [hrest] at hne
    exact absurd rfl hne
  | cons c rest =>
    have hhead := List.head?_dropWhile_not (· != '.') (Text.dropLeading '-' v)
    rw [hrest] at hhead
    obtain rfl : c = '.' := by simpa using hhead
    have hmem : '.' ∈ (Text.dropLeading '-' v).dropWhile (· != '.') := by simp [hrest]
    exact mem_of_mem_dropLeading ((List.dropWhile_suffix _).subset hmem)

/-- **A value is of one type at most.** -/
theorem eq_of_isOfType (ha : isOfType v a = true) (hb : isOfType v b = true) : a = b := by
  have htruth : isBooleanValue v = true → ¬ ∃ c ∈ v, isDecimalDigit c = true := by
    rintro h ⟨c, hc, hdigit⟩
    rw [not_digit_of_isBooleanValue h c hc] at hdigit
    cases hdigit
  have hpoint : isIntegerValue v = true → ¬ isDecimalValue v = true :=
    fun h h' => not_point_of_isIntegerValue h (point_of_isDecimalValue h')
  cases a <;> cases b <;> first
    | rfl
    | exact absurd (exists_digit_of_isIntegerValue ‹_›) (htruth ‹_›)
    | exact absurd (exists_digit_of_isDecimalValue ‹_›) (htruth ‹_›)
    | exact absurd ‹isDecimalValue v = true› (hpoint ‹_›)
    | cases ha
    | cases hb

/-! ## The type of values -/

/-- The first type of some order that all values are of; text when they are of none. -/
def typeInOrder (order : List ParamType) (vs : List Text) : ParamType :=
  (order.find? fun ty => vs.all (isOfType · ty)).getD .string

/-- The types that have a form of their own, in the order in which they are tried. -/
def typesTried : List ParamType :=
  [.boolean, .int, .float]

theorem mem_typesTried_iff : ty ∈ typesTried ↔ ty ≠ .string := by
  cases ty <;> simp [typesTried]

theorem valuesType_eq_typeInOrder (hne : vs ≠ []) :
    valuesType vs = typeInOrder typesTried vs := by
  rw [valuesType, if_neg hne]
  simp only [typeInOrder, typesTried, List.find?_cons, List.find?_nil, isOfType]
  cases vs.all isBooleanValue <;> cases vs.all isIntegerValue <;>
    cases vs.all isDecimalValue <;> rfl

/-- Values are of one type at most. -/
theorem eq_of_all_isOfType (hne : vs ≠ []) (ha : vs.all (isOfType · a) = true)
    (hb : vs.all (isOfType · b) = true) : a = b := by
  obtain ⟨v, hv⟩ := List.exists_mem_of_ne_nil vs hne
  exact eq_of_isOfType (List.all_eq_true.1 ha v hv) (List.all_eq_true.1 hb v hv)

/-- Whatever the order is, the first type that all values are of is the only one. -/
theorem typeInOrder_eq_iff {order : List ParamType} (horder : order.Perm typesTried)
    (hne : vs ≠ []) (hty : ty ≠ .string) :
    typeInOrder order vs = ty ↔ vs.all (isOfType · ty) = true := by
  rw [typeInOrder]
  constructor
  · intro h
    cases hfind : order.find? fun ty => vs.all (isOfType · ty) with
    | none =>
      rw [hfind] at h
      exact absurd h.symm hty
    | some found =>
      rw [hfind] at h
      obtain rfl : found = ty := h
      have hall := List.find?_some hfind
      exact hall
  · intro h
    have hmem : ty ∈ order := horder.mem_iff.2 (mem_typesTried_iff.2 hty)
    cases hfind : order.find? fun ty => vs.all (isOfType · ty) with
    | none => exact absurd h (by simpa using List.find?_eq_none.1 hfind ty hmem)
    | some found =>
      have hall := List.find?_some hfind
      exact eq_of_all_isOfType hne hall h

/-- **The type of values**, without an order of tests: there is one, and all are of this type. -/
theorem valuesType_eq_iff (hty : ty ≠ .string) :
    valuesType vs = ty ↔ vs ≠ [] ∧ vs.all (isOfType · ty) = true := by
  by_cases hne : vs = []
  · subst hne
    simp [valuesType, hty.symm]
  · rw [valuesType_eq_typeInOrder hne, typeInOrder_eq_iff (.refl _) hne hty]
    simp [hne]

/-- A type is known from when it is another one than that of text. -/
theorem eq_of_eq_iff (h : ∀ ty, ty ≠ .string → (a = ty ↔ b = ty)) : a = b := by
  by_cases ha : a = .string
  · by_contra hne
    have hb : b ≠ .string := fun hb => hne (ha.trans hb.symm)
    exact hne ((h b hb).2 rfl)
  · exact ((h a ha).1 rfl).symm

/-- **Any order of the tests** gives the type of the values. -/
theorem typeInOrder_eq_valuesType {order : List ParamType} (horder : order.Perm typesTried)
    (hne : vs ≠ []) : typeInOrder order vs = valuesType vs := by
  refine eq_of_eq_iff fun ty hty => ?_
  rw [typeInOrder_eq_iff horder hne hty, valuesType_eq_iff hty]
  simp [hne]

/-- The type of values depends on the set of them only. -/
theorem valuesType_congr (h : ∀ v, v ∈ vs ↔ v ∈ us) : valuesType vs = valuesType us := by
  refine eq_of_eq_iff fun ty hty => ?_
  have hne : vs ≠ [] ↔ us ≠ [] := by
    simp only [ne_eq, List.eq_nil_iff_forall_not_mem, h]
  simp only [valuesType_eq_iff hty, hne, List.all_eq_true, h]

/-- With more values, the type stays what it is or becomes that of text. -/
theorem valuesType_of_subset (hne : vs ≠ []) (h : vs ⊆ us) :
    valuesType us = valuesType vs ∨ valuesType us = .string := by
  by_cases hstring : valuesType us = .string
  · exact Or.inr hstring
  · left
    obtain ⟨-, hall⟩ := (valuesType_eq_iff hstring).1 rfl
    have hvs : vs.all (isOfType · (valuesType us)) = true :=
      List.all_eq_true.2 fun v hv => List.all_eq_true.1 hall v (h hv)
    exact ((valuesType_eq_iff hstring).2 ⟨hne, hvs⟩).symm

/-! ## The type of a column -/

/-- The values under a name, of which there are none without such a column. -/
def valuesOf (t : Table) (name : Text) : List Text :=
  (t.column? name).getD []

theorem columnType_eq_valuesType (t : Table) (name : Text) :
    t.columnType name = valuesType (t.valuesOf name) := by
  rw [columnType, valuesOf]
  cases t.column? name <;> rfl

theorem mem_valuesOf_iff :
    v ∈ t.valuesOf name ↔
      ∃ place ∈ t.header.findIdx? (· == name), ∃ row ∈ t.rows, row[place]? = some v := by
  rw [valuesOf, column?]
  cases t.header.findIdx? (· == name) <;> simp

theorem valuesOf_ne_nil (hcolumn : t.hasColumn name = true) (hrows : t.rows ≠ []) :
    t.valuesOf name ≠ [] := by
  obtain ⟨values, hvalues⟩ := Option.isSome_iff_exists.1 (hasColumn_iff_isSome t name ▸ hcolumn)
  obtain ⟨place, hplace⟩ := column?_eq_some_iff.1 hvalues
  rw [valuesOf, hvalues, Option.getD_some, ← List.length_pos_iff, hplace.length]
  exact List.length_pos_iff.2 hrows

theorem columnType_of_not_hasColumn (h : t.hasColumn name = false) :
    t.columnType name = .string := by
  rw [columnType_eq_valuesType, valuesOf, column?_eq_none_iff.2 h]
  rfl

theorem columnType_of_rows_eq_nil (h : t.rows = []) : t.columnType name = .string := by
  have hnil : t.valuesOf name = [] := by
    refine List.eq_nil_iff_forall_not_mem.2 fun v hv => ?_
    obtain ⟨-, -, row, hrow, -⟩ := mem_valuesOf_iff.1 hv
    rw [h] at hrow
    exact absurd hrow List.not_mem_nil
  rw [columnType_eq_valuesType, hnil]
  rfl

/-- **What the type of a column depends on.**  Values are of one type at most, so that the order of
the tests does not matter; columns with the same values have the same type, whatever their order is
and however often each of them is there; with more rows, the type stays what it is or becomes that
of text; and a column that is not there or has no values holds text. -/
theorem columnType_eq_of_values (t : Table) (name : Text) :
    (∀ values, t.column? name = some values → t.rows ≠ [] →
      (∀ a b, values.all (isOfType · a) = true → values.all (isOfType · b) = true → a = b) ∧
        ∀ order : List ParamType, order.Perm typesTried →
          typeInOrder order values = t.columnType name) ∧
    (∀ (u : Table) (other : Text) (values values' : List Text),
      t.column? name = some values → u.column? other = some values' →
        (∀ v, v ∈ values' ↔ v ∈ values) → u.columnType other = t.columnType name) ∧
    (∀ u : Table, u.header = t.header → (∀ row, row ∈ u.rows ↔ row ∈ t.rows) →
      u.columnType name = t.columnType name) ∧
    (∀ (u : Table) (more : List (List Text)), t.rows ≠ [] → u.header = t.header →
      u.rows = t.rows ++ more →
        u.columnType name = t.columnType name ∨ u.columnType name = .string) ∧
    (t.hasColumn name = false ∨ t.rows = [] → t.columnType name = .string) := by
  refine ⟨fun values hvalues hrows => ?_, fun u other values values' hvalues hvalues' h => ?_,
    fun u hheader h => ?_, fun u more hrows hheader h => ?_, fun h => ?_⟩
  · have hcolumn : t.hasColumn name = true := by
      rw [hasColumn_iff_isSome, hvalues]
      rfl
    have hne : values ≠ [] := by
      simpa [valuesOf, hvalues] using valuesOf_ne_nil hcolumn hrows
    refine ⟨fun a b => eq_of_all_isOfType hne, fun order horder => ?_⟩
    rw [columnType_eq_valuesType, valuesOf, hvalues]
    exact typeInOrder_eq_valuesType horder hne
  · rw [columnType_eq_valuesType, columnType_eq_valuesType, valuesOf, valuesOf, hvalues, hvalues']
    exact valuesType_congr h
  · rw [columnType_eq_valuesType, columnType_eq_valuesType]
    exact valuesType_congr fun v => by simp only [mem_valuesOf_iff, hheader, h]
  · by_cases hcolumn : t.hasColumn name = true
    · rw [columnType_eq_valuesType, columnType_eq_valuesType]
      refine valuesType_of_subset (valuesOf_ne_nil hcolumn hrows) fun v hv => ?_
      obtain ⟨place, hplace, row, hrow, hcell⟩ := mem_valuesOf_iff.1 hv
      refine mem_valuesOf_iff.2 ⟨place, hheader ▸ hplace, row, ?_, hcell⟩
      rw [h]
      exact List.mem_append_left more hrow
    · right
      apply columnType_of_not_hasColumn
      rw [hasColumn, hheader]
      exact eq_false_of_ne_true hcolumn
  · rcases h with h | h
    · exact columnType_of_not_hasColumn h
    · exact columnType_of_rows_eq_nil h

/-- A table of two quantities. -/
def quantities : Table :=
  ⟨["n".toList], [["1".toList], ["-4".toList]], by decide⟩

/-- The same quantities the other way round, one of them twice. -/
def quantitiesAgain : Table :=
  ⟨["n".toList], [["-4".toList], ["1".toList], ["-4".toList]], by decide⟩

/-- The quantities with a row that holds no number. -/
def quantitiesAndMore : Table :=
  ⟨["n".toList], [["1".toList], ["-4".toList], ["many".toList]], by decide⟩

/-- Quantities are whole numbers in any order; a word among them makes them text. -/
theorem columnType_quantities :
    let n := "n".toList
    let values := ["1".toList, "-4".toList]
    (quantities.column? n = some values ∧ quantities.rows ≠ [] ∧
        [.float, .boolean, .int].Perm typesTried ∧
        quantitiesAgain.header = quantities.header ∧
        (∀ row, row ∈ quantitiesAgain.rows ↔ row ∈ quantities.rows) ∧
        quantitiesAndMore.rows = quantities.rows ++ [["many".toList]] ∧
        quantities.columnType n = .int ∧ quantitiesAndMore.columnType n = .string ∧
        quantities.hasColumn "m".toList = false) ∧
      typeInOrder [.float, .boolean, .int] values = quantities.columnType n ∧
      quantitiesAgain.columnType n = quantities.columnType n ∧
      (quantitiesAndMore.columnType n = quantities.columnType n ∨
        quantitiesAndMore.columnType n = .string) ∧
      quantities.columnType "m".toList = .string := by
  intro n values
  have hvalues : quantities.column? n = some values := rfl
  have hrows : quantities.rows ≠ [] := by decide
  have horder : [.float, .boolean, .int].Perm typesTried := by decide
  have hsame : ∀ row, row ∈ quantitiesAgain.rows ↔ row ∈ quantities.rows := by
    intro row
    simp only [quantitiesAgain, quantities, List.mem_cons]
    grind
  obtain ⟨horders, -, hagain, hmore, -⟩ := columnType_eq_of_values quantities n
  obtain ⟨-, -, -, -, hother⟩ := columnType_eq_of_values quantities "m".toList
  refine ⟨⟨hvalues, hrows, horder, rfl, hsame, rfl, by decide, by decide, by decide⟩, ?_⟩
  exact ⟨(horders values hvalues hrows).2 _ horder, hagain _ rfl hsame,
    hmore _ [["many".toList]] hrows rfl rfl, hother (Or.inl (by decide))⟩

end StorySpec.Table
