import StorySpec.Proofs.Feature.Rows
import StorySpec.Proofs.Feature.Sections
import StorySpec.Proofs.Stub.OfStory
import StorySpec.Proofs.Table.Shape

/-!
# The columns of a scenario

The tables of a scenario are read as one table, which has the header of the first of them and the
data rows of all.  So a column is a place in that header, and what stands at this place in a later
table belongs to the column whatever the header of the later table says.  Where a data row is not
as long as the first header, there is no table to read, and no placeholder has a column.

## Main definitions

* `Gherkin.IsExamplesTable table`: what is asked of a table of examples.
* `Gherkin.Scenario.paramType s p`: the type of the parameter `p` in a step of the scenario `s`.
* `Gherkin.Scenario.valuesUnder s name`: what stands under a header cell `name` in any table.

## Main results

* `exampleRows_eq_map`: the rows of all tables, as one table.
* `type_typed_toSection`: the section of a scenario types its parameters as the scenario does.
* `valuesAt_eq_valuesUnder`: tables that agree on the place of a name agree on its values.
* `exists_stub_of_paramType`: the types of the parameters in the stub of a step.
-/

namespace StorySpec

open Gherkin

variable {name : Text} {table : List (List Text)}

/-! ## Rows that are written and read again -/

namespace Gherkin

/-- The cells of a row once it is written: where there is none, an empty one is written. -/
def writtenCells (cells : List Text) : List Text :=
  if cells = [] then [[]] else cells

theorem length_writtenCells (cells : List Text) :
    (writtenCells cells).length = max 1 cells.length := by
  unfold writtenCells
  split
  · simp [*]
  · rename_i hne
    have := List.length_pos_iff.2 hne
    omega

/-- An empty cell that is written for none is what is found there without it. -/
theorem getD_writtenCells (cells : List Text) (i : Nat) :
    (writtenCells cells).getD i [] = cells.getD i [] := by
  unfold writtenCells
  split
  · rename_i hnil
    subst hnil
    cases i <;> rfl
  · rfl

/-- An empty cell that is written for none has no name. -/
theorem mem_writtenCells_iff {cells : List Text} (hname : name ≠ []) :
    name ∈ writtenCells cells ↔ name ∈ cells := by
  unfold writtenCells
  split <;> simp [*]

end Gherkin

/-- Rows that are written, those without cells included, are read as what is written. -/
theorem ofLines_map_rowLine_eq {rows : List (List Text)}
    (h : ∀ cs ∈ rows, ∀ c ∈ cs, Text.trim c = c ∧ '|' ∉ c) :
    Table.ofLines (rows.map rowLine) = Table.ofRows (rows.map writtenCells) := by
  have hcells : ∀ cs ∈ rows, (cells ∘ rowLine) cs = writtenCells cs := fun cs hcs => by
    rw [writtenCells]
    split
    · rename_i hnil
      subst hnil
      decide
    · exact cells_rowLine ‹_› (h cs hcs)
  rw [Table.ofLines, exampleRows_map_rowLine, List.map_map, List.map_congr_left hcells]

/-- The type of a column is that of the values at the place of its name. -/
theorem Table.columnType_of_mem {t : Table} (h : name ∈ t.header) :
    t.columnType name = valuesType (t.rows.map (·.getD (t.header.idxOf name) [])) := by
  have hplace : t.header.idxOf name < t.header.length := List.idxOf_lt_length_iff.2 h
  have hfind : t.header.findIdx? (· == name) = some (t.header.idxOf name) :=
    List.findIdx?_eq_some_iff_findIdx_eq.2 ⟨hplace, rfl⟩
  simp only [columnType, column?, hfind, Option.map_some, t.filterMap_getElem?_rows hplace]

/-! ## The tables of a scenario -/

namespace Gherkin

/-- What is asked of a table of examples.  There is a header, which names nothing twice; the rows
are as long as the header; and the cells are trimmed and hold no bar. -/
structure IsExamplesTable (table : List (List Text)) : Prop where
  ne_nil : table ≠ []
  aligned : ∀ row ∈ table, row.length = (table.headD []).length
  nodup : (table.headD []).Nodup
  cells : ∀ row ∈ table, ∀ c ∈ row, Text.trim c = c ∧ '|' ∉ c

/-- The cells of a table that stand under a header cell `name`. -/
def cellsUnder (name : Text) (table : List (List Text)) : List Text :=
  table.tail.flatMap fun row =>
    (((table.headD []).zip row).filter (·.1 == name)).map Prod.snd

/-- In a row below a header that names nothing twice, one cell stands under a name. -/
theorem filter_zip_eq_singleton {header row : List Text} (hnodup : header.Nodup)
    (hlength : row.length = header.length) (h : name ∈ header) :
    ((header.zip row).filter (·.1 == name)).map Prod.snd =
      [row.getD (header.idxOf name) []] := by
  induction header generalizing row with
  | nil => cases h
  | cons title header ih =>
    obtain ⟨cell, row, rfl⟩ := List.exists_cons_of_length_eq_add_one hlength
    obtain ⟨hnew, hnodup⟩ := List.nodup_cons.1 hnodup
    by_cases htitle : title = name
    · subst htitle
      have hrest : (header.zip row).filter (·.1 == title) = [] := by
        refine List.filter_eq_nil_iff.2 fun pair hpair heq => hnew ?_
        rw [← beq_iff_eq.1 heq]
        exact (List.of_mem_zip hpair).1
      simp [hrest]
    · have hmem : name ∈ header := (List.mem_cons.1 h).resolve_left (Ne.symm htitle)
      have hrow : row.length = header.length := Nat.succ.inj hlength
      simpa [htitle, List.idxOf_cons_ne header htitle] using ih hnodup hrow hmem

/-- What stands under a name in a table is found at the place that the header has for it. -/
theorem IsExamplesTable.cellsUnder_eq (h : IsExamplesTable table)
    (hname : name ∈ table.headD []) :
    cellsUnder name table = table.tail.map (·.getD ((table.headD []).idxOf name) []) := by
  rw [cellsUnder, List.map_eq_flatMap]
  refine List.flatMap_congr fun row hrow => ?_
  exact filter_zip_eq_singleton h.nodup (h.aligned row (List.mem_of_mem_tail hrow)) hname

namespace Scenario

/-- The tables of a scenario, in order. -/
def tables (s : Scenario) : List (List (List Text)) :=
  s.examples.filterMap Examples.table

/-- The names of the columns: the header of the first table. -/
def columns (s : Scenario) : List Text :=
  (s.tables.headD []).headD []

/-- The data rows of all tables, in order. -/
def dataRows (s : Scenario) : List (List Text) :=
  s.tables.flatMap List.tail

/-- Whether all data rows have a cell for every column, and no other ones.  A row without cells
counts as one with an empty cell, as it is written. -/
def IsEven (s : Scenario) : Prop :=
  ∀ row ∈ s.dataRows, max 1 row.length = max 1 s.columns.length

instance (s : Scenario) : Decidable s.IsEven :=
  inferInstanceAs (Decidable (∀ row ∈ s.dataRows, max 1 row.length = max 1 s.columns.length))

/-- What stands at a place in the data rows of all tables. -/
def valuesAt (s : Scenario) (i : Nat) : List Text :=
  s.dataRows.map (·.getD i [])

/-- What stands under a header cell `name` in any of the tables. -/
def valuesUnder (s : Scenario) (name : Text) : List Text :=
  s.tables.flatMap (cellsUnder name)

/-- The type of a parameter in a step of a scenario.  A placeholder that the first header names has
that of the values at this place in all tables, unless the rows are uneven; otherwise the written
form of a parameter says its type. -/
def paramType (s : Scenario) (p : Param) : ParamType :=
  if p.matcher.isPlaceholder && s.columns.contains p.raw && decide s.IsEven then
    Table.valuesType (s.valuesAt (s.columns.idxOf p.raw))
  else p.matcher.candidateType

theorem paramType_of_column {s : Scenario} {p : Param} (hp : p.matcher.isPlaceholder = true)
    (hname : p.raw ∈ s.columns) (heven : s.IsEven) :
    s.paramType p = Table.valuesType (s.valuesAt (s.columns.idxOf p.raw)) :=
  if_pos (by simp [hp, hname, heven])

theorem paramType_of_no_column {s : Scenario} {p : Param}
    (h : ¬ (p.matcher.isPlaceholder = true ∧ p.raw ∈ s.columns ∧ s.IsEven)) :
    s.paramType p = p.matcher.candidateType :=
  if_neg (by simpa [and_assoc] using h)

end Scenario

/-! ## One table of all -/

/-- Once there is a row, tables add their data rows. -/
theorem foldl_mergedRows {rows : List (List Text)} (hne : rows ≠ [])
    (tables : List (List (List Text))) :
    tables.foldl (fun rows table => rows ++ if rows = [] then table else table.drop 1) rows =
      rows ++ tables.flatMap List.tail := by
  induction tables generalizing rows with
  | nil => simp
  | cons table tables ih =>
    rw [List.foldl_cons, if_neg hne, ih (List.append_ne_nil_of_left_ne_nil hne _), List.drop_one,
      List.flatMap_cons, List.append_assoc]

namespace Scenario

variable {s : Scenario}

/-- **The rows of all tables** are written below the header of the first one. -/
theorem exampleRows_eq_map (hne : s.tables ≠ []) (h : ∀ table ∈ s.tables, table ≠ []) :
    s.exampleRows = (s.columns :: s.dataRows).map rowLine := by
  obtain ⟨first, others, htables⟩ := List.exists_cons_of_ne_nil hne
  obtain ⟨header, rows, rfl⟩ := List.exists_cons_of_ne_nil (h first (by simp [htables]))
  have hmerged : mergedRows s.tables = s.columns :: s.dataRows := by
    rw [mergedRows, htables, List.foldl_cons, List.nil_append, if_pos rfl,
      foldl_mergedRows (List.cons_ne_nil header rows), columns, dataRows, htables]
    rfl
  exact congrArg (List.map rowLine) hmerged

theorem exampleRows_of_tables_eq_nil (h : s.tables = []) : s.exampleRows = [] := by
  have hmerged : mergedRows s.tables = [] := by rw [h]; rfl
  exact congrArg (List.map rowLine) hmerged

theorem table_toSection (s : Scenario) (l : Language) :
    (s.toSection l).table = (Table.ofLines s.exampleRows).toOption := by
  unfold toSection
  split
  · rename_i hnil
    rw [hnil]
    rfl
  · rfl

/-- The table that the rows of all tables make up, when they are even. -/
def evenTable (s : Scenario) (h : s.IsEven) : Table where
  header := writtenCells s.columns
  rows := s.dataRows.map writtenCells
  aligned := by
    intro row hrow
    obtain ⟨cells, hcells, rfl⟩ := List.mem_map.1 hrow
    rw [length_writtenCells, length_writtenCells, h cells hcells]

/-- The even table types what the first header names. -/
theorem columnType_evenTable (heven : s.IsEven) (hname : name ∈ s.columns) :
    (s.evenTable heven).columnType name = Table.valuesType (s.valuesAt (s.columns.idxOf name)) := by
  have hwritten : writtenCells s.columns = s.columns := if_neg (List.ne_nil_of_mem hname)
  have hheader : (s.evenTable heven).header = s.columns := hwritten
  have hmem : name ∈ (s.evenTable heven).header := hheader ▸ hname
  have hrows : (s.evenTable heven).rows = s.dataRows.map writtenCells := rfl
  rw [Table.columnType_of_mem hmem, hheader, hrows]
  simp only [List.map_map, Function.comp_def, getD_writtenCells, valuesAt]

section Typing

variable (h : ∀ table ∈ s.tables, IsExamplesTable table)
include h

/-- The cells of the rows that are written are those of the tables. -/
theorem cells_of_mem_rows (hne : s.tables ≠ []) :
    ∀ row ∈ s.columns :: s.dataRows, ∀ c ∈ row, Text.trim c = c ∧ '|' ∉ c := by
  have hrows : ∀ row ∈ s.columns :: s.dataRows, ∃ table ∈ s.tables, row ∈ table := by
    intro row hrow
    rcases List.mem_cons.1 hrow with rfl | hrow
    · obtain ⟨first, others, htables⟩ := List.exists_cons_of_ne_nil hne
      have hfirst : first ∈ s.tables := htables ▸ List.mem_cons_self
      obtain ⟨header, rows, rfl⟩ := List.exists_cons_of_ne_nil (h first hfirst).ne_nil
      exact ⟨header :: rows, hfirst, by simp [columns, htables]⟩
    · obtain ⟨table, htable, hrow⟩ := List.mem_flatMap.1 hrow
      exact ⟨table, htable, List.mem_of_mem_tail hrow⟩
  intro row hrow
  obtain ⟨table, htable, hrow⟩ := hrows row hrow
  exact (h table htable).cells row hrow

/-- **The table of a section** is made of the rows of all tables, when these are even. -/
theorem table_toSection_eq (hne : s.tables ≠ []) (l : Language) :
    (s.toSection l).table = if heven : s.IsEven then some (s.evenTable heven) else none := by
  rw [table_toSection, exampleRows_eq_map hne fun table htable => (h table htable).ne_nil,
    ofLines_map_rowLine_eq (cells_of_mem_rows h hne)]
  split
  · rename_i heven
    have hrows : Table.ofRows ((s.columns :: s.dataRows).map writtenCells) =
        .ok (s.evenTable heven) := Table.ofRows_eq_ok_iff.2 rfl
    rw [hrows]
    rfl
  · rename_i huneven
    cases hrows : Table.ofRows ((s.columns :: s.dataRows).map writtenCells) with
    | error e => rfl
    | ok table =>
      refine absurd (fun row hrow => ?_) huneven
      obtain ⟨hheader, hdata⟩ := List.cons.inj (Table.ofRows_eq_ok_iff.1 hrows)
      have haligned := table.aligned (writtenCells row) (hdata ▸ List.mem_map_of_mem hrow)
      rwa [← hheader, length_writtenCells, length_writtenCells] at haligned

/-- **The section of a scenario** types a parameter as the scenario does. -/
theorem type_typed_toSection {p : Param} (hraw : p.raw ≠ [])
    (htype : p.type = p.matcher.candidateType) (l : Language) :
    (p.typed (s.toSection l).table).type = s.paramType p := by
  by_cases hne : s.tables = []
  · have hcolumns : s.columns = [] := by rw [columns, hne]; rfl
    have htable : (s.toSection l).table = none := by
      rw [table_toSection, exampleRows_of_tables_eq_nil hne]
      rfl
    rw [htable, paramType_of_no_column (by simp [hcolumns])]
    exact htype
  · rw [table_toSection_eq h hne]
    by_cases heven : s.IsEven
    · have hcolumn : (s.evenTable heven).hasColumn p.raw = true ↔ p.raw ∈ s.columns := by
        rw [Table.hasColumn, List.contains_iff_mem]
        exact mem_writtenCells_iff hraw
      by_cases hnamed : p.matcher.isPlaceholder = true ∧ p.raw ∈ s.columns
      · rw [paramType_of_column hnamed.1 hnamed.2 heven, ← columnType_evenTable heven hnamed.2]
        simp [Param.typed, heven, hcolumn, hnamed]
      · rw [paramType_of_no_column fun hcolumn => hnamed ⟨hcolumn.1, hcolumn.2.1⟩]
        simp only [Param.typed, heven, dif_pos, Bool.and_eq_true, hcolumn, hnamed, if_false, htype]
    · rw [paramType_of_no_column fun hcolumn => heven hcolumn.2.2]
      simpa [Param.typed, heven] using htype

/-- The parameters of a step of the scenario have the types that the scenario says. -/
theorem types_ofText_toSection (l : Language) (t : Text) :
    (StepPattern.ofText t (s.toSection l).table).params.map Param.type =
      ((tokenize t).filterMap Token.param?).map s.paramType := by
  simp only [StepPattern.ofText, StepPattern.tokens, List.filterMap_map, List.map_filterMap]
  refine List.filterMap_congr fun token htoken => ?_
  cases token with
  | literal text => rfl
  | param p =>
    have htype := type_typed_toSection h (raw_ne_nil_of_mem_tokenize htoken)
      (type_of_mem_tokenize htoken) l
    exact congrArg some htype

/-! ## Tables that agree -/

/-- What stands at the place of a name in all tables is what stands under the name, when all
headers with rows below them have the name at this place and are as long as the first one. -/
theorem valuesAt_eq_valuesUnder (hname : name ∈ s.columns)
    (hagree : ∀ table ∈ s.tables, table.tail ≠ [] →
      (table.headD []).length = s.columns.length ∧
        (table.headD []).idxOf name = s.columns.idxOf name) :
    s.valuesAt (s.columns.idxOf name) = s.valuesUnder name := by
  rw [valuesAt, valuesUnder, dataRows, List.map_flatMap]
  refine List.flatMap_congr fun table htable => ?_
  by_cases hrows : table.tail = []
  · rw [hrows, cellsUnder, hrows]
    rfl
  · obtain ⟨hlength, hplace⟩ := hagree table htable hrows
    have hmem : name ∈ table.headD [] := by
      rw [← List.idxOf_lt_length_iff, hplace, hlength, List.idxOf_lt_length_iff]
      exact hname
    rw [(h table htable).cellsUnder_eq hmem, hplace]

/-- Rows are even when all headers with rows below them are as long as the first one. -/
theorem isEven_of_lengths
    (hagree : ∀ table ∈ s.tables, table.tail ≠ [] →
      (table.headD []).length = s.columns.length) : s.IsEven := by
  intro row hrow
  obtain ⟨table, htable, hrow⟩ := List.mem_flatMap.1 hrow
  rw [(h table htable).aligned row (List.mem_of_mem_tail hrow),
    hagree table htable (List.ne_nil_of_mem hrow)]

end Typing

end Scenario

end Gherkin

/-! ## Stubs of scenarios -/

/-- Lines whose stubs have one signature have parameters of the same types. -/
theorem Stub.parameterTypes_eq {l m : Text} {u v : Option Table} {a b : Stub}
    (ha : Stub.ofLine? l u = some a) (hb : Stub.ofLine? m v = some b)
    (h : a.signature = b.signature) : a.parameterTypes = b.parameterTypes := by
  obtain ⟨first, -, rfl⟩ := Option.map_eq_some_iff.1 ha
  obtain ⟨second, -, rfl⟩ := Option.map_eq_some_iff.1 hb
  have hskeleton := StepPattern.pattern_eq_iff.1 (congrArg Signature.pattern h)
  simp only [StepPattern.types_ofText, hskeleton]

/-- **The columns of a scenario are those of its first table.**  The parameters of each of its steps
have a stub in which their types are those that `Gherkin.Scenario.paramType` says: a placeholder
that the first header names has the type of what stands at this place in the data rows of all
tables, if these rows are as long as that header, and any other parameter has that of its written
form.  Where the headers above data rows agree with the first one in their length and in the place
of a name, this is the type of exactly the values that stand under the name. -/
theorem exists_stub_of_paramType (name t : Text) {d : Document} {s : Scenario} {step : Step}
    (hs : .scenario s ∈ d.parts) (htables : ∀ table ∈ s.tables, IsExamplesTable table)
    (hstep : step ∈ s.steps) :
    let f := Feature.ofDocument name t d
    (∃ file, Synthesis.ofFeature f = .stubs file ∧
      ∃ stub ∈ file.stubs,
        stub.signature = step.signature f.language (s.toSection f.language).table ∧
        stub.parameterTypes =
          ((tokenize (Text.trim step.value)).filterMap Token.param?).map s.paramType) ∧
      ∀ p : Param, p.matcher.isPlaceholder = true → p.raw ∈ s.columns →
        (∀ table ∈ s.tables, table.tail ≠ [] →
          (table.headD []).length = s.columns.length ∧
            (table.headD []).idxOf p.raw = s.columns.idxOf p.raw) →
        s.paramType p = Table.valuesType (s.valuesUnder p.raw) := by
  intro f
  refine ⟨?_, fun p hp hname hagree => ?_⟩
  · obtain ⟨file, hfile, hstubs, stub, hmem, hsignature⟩ :=
      exists_stub_of_mem_steps name t hs hstep
    refine ⟨file, hfile, stub, hmem, hsignature, ?_⟩
    -- the stub may have been made for another step, but the signature says the types
    obtain ⟨own, hown, hownSignature, hownTypes⟩ :=
      step.exists_ofLine?_line f.language (s.toSection f.language).table
    obtain ⟨r, -, line, -, hline⟩ := exists_ofLine?_of_mem_sectionStubs (hstubs ▸ hmem)
    have htypes := Stub.parameterTypes_eq hline hown (hsignature.trans hownSignature.symm)
    rw [htypes, hownTypes, s.types_ofText_toSection htables]
  · have heven : s.IsEven :=
      s.isEven_of_lengths htables fun table htable hrows => (hagree table htable hrows).1
    rw [s.paramType_of_column hp hname heven, s.valuesAt_eq_valuesUnder htables hname hagree]

/-! ## Fruit -/

/-- A step about a number of fruit. -/
def fruitStep : Step where
  keyword := "Given ".toList
  type := .setup
  value := "<count> of <item>".toList

/-- An outline about fruit, with the given tables. -/
def fruitOutline (tables : List (List (List Text))) : Scenario where
  name := "o".toList
  tags := []
  steps := [fruitStep]
  examples := tables.map fun table => ⟨some table⟩

/-- A document with such an outline. -/
def fruit (tables : List (List (List Text))) : Document where
  keyword := "Feature".toList
  background := none
  scenarios := [fruitOutline tables]
  rules := []

def pears : List (List Text) :=
  [["count".toList, "item".toList], ["1".toList, "pear".toList]]

def plums : List (List Text) :=
  [["count".toList, "item".toList], ["30".toList, "plum".toList]]

/-- A table whose columns are those of the others the other way round. -/
def figs : List (List Text) :=
  [["item".toList, "count".toList], ["fig".toList, "2".toList]]

theorem isExamplesTable_of_mem_fruit :
    ∀ table ∈ [pears, plums, figs], IsExamplesTable table := by
  intro table htable
  simp only [List.mem_cons, List.not_mem_nil, or_false] at htable
  rcases htable with rfl | rfl | rfl <;> exact ⟨by decide, by decide, by decide, by decide⟩

/-- Pears and plums agree on the place of their numbers. -/
theorem exists_stub_fruit :
    let s := fruitOutline [pears, plums]
    let f := Feature.ofDocument "f".toList [] (fruit [pears, plums])
    let count : Param := ⟨"count".toList, .barePlaceholder, .int⟩
    (.scenario s ∈ (fruit [pears, plums]).parts ∧ fruitStep ∈ s.steps ∧
        (∀ table ∈ s.tables, IsExamplesTable table) ∧ count.raw ∈ s.columns) ∧
      (∃ file, Synthesis.ofFeature f = .stubs file ∧
        ∃ stub ∈ file.stubs,
          stub.signature = fruitStep.signature f.language (s.toSection f.language).table ∧
          stub.parameterTypes =
            ((tokenize (Text.trim fruitStep.value)).filterMap Token.param?).map s.paramType) ∧
      s.paramType count = Table.valuesType (s.valuesUnder "count".toList) := by
  intro s f count
  have hs : .scenario s ∈ (fruit [pears, plums]).parts := by
    change Part.scenario s ∈ [Part.scenario s]
    exact List.mem_singleton.2 rfl
  have htables : ∀ table ∈ s.tables, IsExamplesTable table := fun table htable =>
    isExamplesTable_of_mem_fruit table ((by decide : s.tables ⊆ [pears, plums, figs]) htable)
  have hstep : fruitStep ∈ s.steps := List.mem_singleton.2 rfl
  obtain ⟨hstub, hcount⟩ := exists_stub_of_paramType "f".toList [] hs htables hstep
  exact ⟨⟨hs, hstep, htables, by decide⟩, hstub, hcount count rfl (by decide) (by decide)⟩

/-- A later table may have its columns in another order.  Then the column of the counts holds the
count of the pears and the name of the figs, which is text, though all that stands under its name
are whole numbers. -/
theorem parameterTypes_pears_figs :
    let text := Text.unlines
      ["# language: en".toList, "Feature: f".toList, "  Scenario Outline: o".toList,
        "    Given <count> of <item>".toList, "    Examples:".toList,
        "      | count | item |".toList, "      | 1 | pear |".toList, "    Examples:".toList,
        "      | item | count |".toList, "      | fig | 2 |".toList]
    let s := fruitOutline [pears, figs]
    (Document.ofText? text = some (fruit [pears, figs]) ∧
        ∀ table ∈ s.tables, IsExamplesTable table) ∧
      (∃ file, Synthesis.ofFeature (Feature.ofDocument "f".toList text (fruit [pears, figs])) =
          .stubs file ∧
        file.stubs.map Stub.parameterTypes = [[.string, .string]]) ∧
      Table.valuesType (s.valuesUnder "count".toList) = .int ∧
      Table.valuesType (s.valuesUnder "item".toList) = .string := by
  intro text s
  have htables : ∀ table ∈ s.tables, IsExamplesTable table := fun table htable =>
    isExamplesTable_of_mem_fruit table ((by decide : s.tables ⊆ [pears, plums, figs]) htable)
  exact ⟨⟨by decide +kernel, htables⟩, ⟨_, rfl, by decide +kernel⟩, by decide +kernel,
    by decide +kernel⟩

end StorySpec
