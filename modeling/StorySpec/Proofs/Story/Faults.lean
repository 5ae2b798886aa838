import Mathlib.Data.List.Sort
import Mathlib.Order.WithBot
import StorySpec.Proofs.Story.Header
import StorySpec.Proofs.Table.Ragged

/-!
# The faults of a story

A report is to name every fault of a story, each of them once and in a fixed order.  What a fault is
and where it stands is told here fault by fault, without the way in which the validation looks for
them: a fault belongs to the header, to the story as a whole or to one group, and it stands where
that stands.  A list of all faults in the order of their places is the only one of its kind, and it
is the one that the validation gives.

## Main definitions

* `Group.HasFault g i f`: the group `g`, which has the number `i`, has the fault `f`.
* `Story.HasFault s f`: the story `s` or one of its groups has the fault `f`.
* `Fault.place f`: where the fault `f` stands in a report.
* `Story.IsListing s own`: the faults of the story `s`, each of them once and in order.

## Main results

* `Group.mem_faults_iff`: what is reported for a group.
* `isListing_ownFaults`, `Story.IsListing.unique`: the list of the faults.
* `filter_groupFaults_set`: another group in the place of one leaves the other groups alone.
* `validate_eq_iff_isListing`: what the validation reports.
-/

namespace StorySpec

variable {s : Story} {g : Group} {gs : List Group} {f : Fault} {i : Nat} {own own' : List Fault}

/-! ## What is a fault -/

/-- The header lines that are blank, in the order in which they are named. -/
def Story.blankLines (s : Story) : List HeaderField :=
  HeaderField.all.filter fun field => (s.headerLine field).all isBlank

/-- A group is to have a table: it announces examples, or it has lines of examples. -/
def Group.NeedsTable (g : Group) : Prop :=
  g.declaresExamples = true ∨ g.examples ≠ []

/-- The cells of the rows among the lines of examples, row by row. -/
def Group.rows (g : Group) : List (List Text) :=
  (exampleRows g.examples).map cells

/-- The faults of a group, which has the number `i`. -/
inductive Group.HasFault (g : Group) (i : Nat) : Fault → Prop
  /-- There is nothing in the group. -/
  | empty (hsteps : g.steps = []) (hexamples : g.examples = []) :
    g.HasFault i (.emptyGroup i g.kind)
  /-- None of the lines of examples is a row. -/
  | noTable (h : g.NeedsTable) (hrows : ∀ l ∈ g.examples, normaliseRow? l = none) :
    g.HasFault i (.missingTable i)
  /-- A row has another number of cells than all rows before it, the first of which is the
  header. -/
  | ragged {row expected found : Nat} (h : g.NeedsTable) (hrow : 2 ≤ row) (hne : found ≠ expected)
    (hlengths :
      (g.rows.take row).map List.length = List.replicate (row - 1) expected ++ [found]) :
    g.HasFault i (.raggedTable i row expected found)

/-- The faults of a story and of its groups, which are numbered from 1. -/
inductive Story.HasFault (s : Story) : Fault → Prop
  | header (h : s.blankLines ≠ []) : s.HasFault (.incompleteHeader s.blankLines)
  | noGroups (h : s.groups = []) : s.HasFault .noBlocks
  | group {i : Nat} {g : Group} {f : Fault} (hg : s.groups[i]? = some g)
    (h : g.HasFault (i + 1) f) : s.HasFault f

/-- The number of the group that a fault names. -/
def Fault.group? : Fault → Option Nat
  | .emptyGroup i _ => some i
  | .missingTable i => some i
  | .raggedTable i _ _ _ => some i
  | _ => none

/-- Where a fault stands: the header comes first and the groups follow one after the other, each of
them with what it holds before its table.  Behind all of them come the examples without a group. -/
def Fault.place : Fault → WithTop ℕ
  | .incompleteHeader _ => .some 0
  | .noBlocks => .some 1
  | .emptyGroup i _ => .some (2 * i)
  | .missingTable i => .some (2 * i + 1)
  | .raggedTable i _ _ _ => .some (2 * i + 1)
  | .orphanExamples _ => ⊤

/-- All faults of a story and of its groups, each of them once and in the order of their places. -/
structure Story.IsListing (s : Story) (own : List Fault) : Prop where
  mem_iff : ∀ f, f ∈ own ↔ s.HasFault f
  ordered : own.Pairwise fun f f' => f.place < f'.place

/-- There is one such list only. -/
theorem Story.IsListing.unique (h : s.IsListing own) (h' : s.IsListing own') : own = own' :=
  eq_of_pairwise_lt h.ordered h'.ordered fun f => (h.mem_iff f).trans (h'.mem_iff f).symm

/-! ## Groups -/

theorem exampleRows_eq_nil_iff {lines : List Text} :
    exampleRows lines = [] ↔ ∀ l ∈ lines, normaliseRow? l = none :=
  List.filterMap_eq_nil_iff

theorem Group.table_eq_missingHeader_iff :
    g.table = .error .missingHeader ↔ ∀ l ∈ g.examples, normaliseRow? l = none := by
  rw [← exampleRows_eq_nil_iff, ← List.map_eq_nil_iff (f := cells)]
  exact Table.ofRows_eq_missingHeader_iff

/-- The fault of a group in which there is nothing. -/
def Group.contentFaults (g : Group) (i : Nat) : List Fault :=
  if g.steps = [] ∧ g.examples = [] then [.emptyGroup i g.kind] else []

/-- The fault of the table of a group. -/
def Group.tableFaults (g : Group) (i : Nat) : List Fault :=
  if g.declaresExamples ∨ g.examples ≠ [] then
    match g.table with
    | .ok _ => []
    | .error .missingHeader => [.missingTable i]
    | .error (.raggedRow row expected found) => [.raggedTable i row expected found]
  else []

theorem Group.faults_eq (g : Group) (i : Nat) :
    g.faults i = g.contentFaults i ++ g.tableFaults i := rfl

theorem Group.mem_contentFaults_iff :
    f ∈ g.contentFaults i ↔ (g.steps = [] ∧ g.examples = []) ∧ f = .emptyGroup i g.kind := by
  unfold contentFaults
  split <;> simp [*]

theorem Group.mem_tableFaults_iff :
    f ∈ g.tableFaults i ↔ g.NeedsTable ∧
      (g.table = .error .missingHeader ∧ f = .missingTable i ∨
        ∃ row expected found, g.table = .error (.raggedRow row expected found) ∧
          f = .raggedTable i row expected found) := by
  unfold tableFaults NeedsTable
  split
  · rename_i hneeds
    rw [and_iff_right hneeds]
    split <;> simp [*]
  · rename_i hneeds
    simp [hneeds]

/-- **What is reported for a group** are its faults. -/
theorem Group.mem_faults_iff : f ∈ g.faults i ↔ g.HasFault i f := by
  rw [faults_eq, List.mem_append, mem_contentFaults_iff, mem_tableFaults_iff]
  constructor
  · rintro (⟨⟨hsteps, hexamples⟩, rfl⟩ |
      ⟨hneeds, ⟨herror, rfl⟩ | ⟨row, expected, found, herror, rfl⟩⟩)
    · exact .empty hsteps hexamples
    · exact .noTable hneeds (table_eq_missingHeader_iff.1 herror)
    · obtain ⟨hrow, hne, hlengths⟩ := Table.ofRows_eq_raggedRow_iff.1 herror
      exact .ragged hneeds hrow hne hlengths
  · intro h
    cases h with
    | empty hsteps hexamples => exact Or.inl ⟨⟨hsteps, hexamples⟩, rfl⟩
    | noTable hneeds hrows =>
      exact Or.inr ⟨hneeds, Or.inl ⟨table_eq_missingHeader_iff.2 hrows, rfl⟩⟩
    | ragged hneeds hrow hne hlengths =>
      have herror := Table.ofRows_eq_raggedRow_iff.2 ⟨hrow, hne, hlengths⟩
      exact Or.inr ⟨hneeds, Or.inr ⟨_, _, _, herror, rfl⟩⟩

/-- The faults of a group name its number, and stand in its two places. -/
theorem Group.HasFault.group?_and_place (h : g.HasFault i f) :
    f.group? = some i ∧ (f.place = .some (2 * i) ∨ f.place = .some (2 * i + 1)) := by
  cases h with
  | empty => exact ⟨rfl, Or.inl rfl⟩
  | noTable => exact ⟨rfl, Or.inr rfl⟩
  | ragged => exact ⟨rfl, Or.inr rfl⟩

/-- What a group holds comes before its table. -/
theorem Group.pairwise_faults (g : Group) (i : Nat) :
    (g.faults i).Pairwise fun f f' => f.place < f'.place := by
  rw [faults_eq]
  refine List.pairwise_append.2 ⟨?_, ?_, fun f hf f' hf' => ?_⟩
  · unfold contentFaults
    split <;> simp
  · unfold tableFaults
    split
    · split <;> simp
    · exact List.Pairwise.nil
  · have hplace : f.place = .some (2 * i) := by
      rw [(mem_contentFaults_iff.1 hf).2, Fault.place]
    have hplace' : f'.place = .some (2 * i + 1) := by
      obtain ⟨-, ⟨-, rfl⟩ | ⟨row, expected, found, -, rfl⟩⟩ := mem_tableFaults_iff.1 hf' <;> rfl
    rw [hplace, hplace']
    exact WithTop.coe_lt_coe.2 (Nat.lt_succ_self _)

/-- The faults that are reported for groups, the first of which has the number `n`. -/
def groupFaults (n : Nat) (gs : List Group) : List Fault :=
  (gs.zipIdx n).flatMap fun (g, i) => g.faults i

theorem mem_groupFaults_iff :
    f ∈ groupFaults 1 gs ↔ ∃ (i : Nat) (g : Group), gs[i]? = some g ∧ g.HasFault (i + 1) f := by
  simp only [groupFaults, List.mem_flatMap, List.mem_zipIdx_iff_le_and_getElem?_sub,
    Group.mem_faults_iff, Prod.exists]
  constructor
  · rintro ⟨g, n, ⟨hn, hg⟩, h⟩
    obtain ⟨i, rfl⟩ := Nat.exists_eq_add_of_le' hn
    exact ⟨i, g, hg, h⟩
  · rintro ⟨i, g, hg, h⟩
    exact ⟨g, i + 1, ⟨by omega, hg⟩, h⟩

/-- The faults of a group come before those of the groups after it. -/
theorem pairwise_groupFaults (n : Nat) (gs : List Group) :
    (groupFaults n gs).Pairwise fun f f' => f.place < f'.place := by
  refine List.pairwise_flatMap.2 ⟨fun numbered _ => numbered.1.pairwise_faults numbered.2, ?_⟩
  have hnumbers : (gs.zipIdx n).Pairwise fun a b => a.2 < b.2 := by
    rw [← List.pairwise_map (f := Prod.snd), List.zipIdx_map_snd]
    exact List.pairwise_lt_range' 1
  refine hnumbers.imp fun hlt f hf f' hf' => ?_
  obtain ⟨-, hplace⟩ := (Group.mem_faults_iff.1 hf).group?_and_place
  obtain ⟨-, hplace'⟩ := (Group.mem_faults_iff.1 hf').group?_and_place
  rcases hplace with h | h <;> rcases hplace' with h' | h' <;> rw [h, h'] <;>
    exact WithTop.coe_lt_coe.2 (by omega)

/-- **Another group in the place of one** leaves the faults that name other groups as they are. -/
theorem filter_groupFaults_set (n i : Nat) (g : Group) (gs : List Group) :
    (groupFaults n (gs.set i g)).filter (·.group? != some (n + i)) =
      (groupFaults n gs).filter (·.group? != some (n + i)) := by
  induction gs generalizing n i with
  | nil => rfl
  | cons first gs ih =>
    have hcons : ∀ (first : Group) (gs : List Group),
        groupFaults n (first :: gs) = first.faults n ++ groupFaults (n + 1) gs := fun _ _ => rfl
    cases i with
    | zero =>
      have hnone : ∀ first : Group, (first.faults n).filter (·.group? != some n) = [] := by
        refine fun first => List.filter_eq_nil_iff.2 fun f hf => ?_
        simp [(Group.mem_faults_iff.1 hf).group?_and_place.1]
      rw [List.set_cons_zero, hcons, hcons, List.filter_append, List.filter_append]
      simp only [Nat.add_zero, hnone]
    | succ i =>
      have hlater := ih (n + 1) i
      rw [show n + 1 + i = n + (i + 1) by omega] at hlater
      rw [List.set_cons_succ, hcons, hcons, List.filter_append, List.filter_append, hlater]

/-! ## Stories -/

theorem missingFields_eq_blankLines (s : Story) : s.missingFields = s.blankLines := by
  have hfields : [(HeaderField.role, s.role), (.want, s.want), (.goal, s.goal)] =
      HeaderField.all.map fun field => (field, s.headerLine field) := rfl
  rw [Story.missingFields, Story.blankLines, hfields, List.filter_map, List.map_map]
  refine (List.map_id'' (fun _ => rfl) _).trans (List.filter_congr fun field _ => ?_)
  rw [Bool.eq_iff_iff]
  simp [Text.trim_eq_nil_iff]

/-- The faults that are reported for a story and for its groups. -/
def Story.ownFaults (s : Story) : List Fault :=
  s.headerFaults ++ (if s.groups = [] then [.noBlocks] else []) ++ groupFaults 1 s.groups

theorem faults_validate (s : Story) :
    s.validate.faults = s.ownFaults ++ s.orphanExamples.map .orphanExamples := rfl

theorem mem_ownFaults_iff : f ∈ s.ownFaults ↔ s.HasFault f := by
  simp only [Story.ownFaults, Story.headerFaults, missingFields_eq_blankLines, List.mem_append,
    mem_groupFaults_iff]
  constructor
  · rintro ((hheader | hnone) | ⟨i, g, hg, h⟩)
    · split at hheader
      · cases hheader
      · rename_i hne
        rw [List.mem_singleton.1 hheader]
        exact .header hne
    · split at hnone
      · rename_i hnil
        rw [List.mem_singleton.1 hnone]
        exact .noGroups hnil
      · cases hnone
    · exact .group hg h
  · intro h
    cases h with
    | header hne => exact Or.inl (Or.inl (by simp [hne]))
    | noGroups hnil => exact Or.inl (Or.inr (by simp [hnil]))
    | group hg h => exact Or.inr ⟨_, _, hg, h⟩

/-- **The faults that are reported** for a story and for its groups are all of them, in order. -/
theorem isListing_ownFaults (s : Story) : s.IsListing s.ownFaults := by
  refine ⟨fun f => mem_ownFaults_iff, ?_⟩
  -- the faults of the groups stand behind the two places of the story
  have hgroups : ∀ f ∈ groupFaults 1 s.groups, WithTop.some 1 < f.place := by
    intro f hf
    obtain ⟨i, g, -, h⟩ := mem_groupFaults_iff.1 hf
    rcases h.group?_and_place.2 with hplace | hplace <;> rw [hplace] <;>
      exact WithTop.coe_lt_coe.2 (by omega)
  have hheader : ∀ f ∈ s.headerFaults, f.place = .some 0 := by
    intro f hf
    unfold Story.headerFaults at hf
    split at hf
    · cases hf
    · rw [List.mem_singleton.1 hf]
      rfl
  have hlt : WithTop.some 0 < WithTop.some 1 := WithTop.coe_lt_coe.2 Nat.one_pos
  refine List.pairwise_append.2 ⟨List.pairwise_append.2 ⟨?_, ?_, ?_⟩, pairwise_groupFaults 1 _, ?_⟩
  · unfold Story.headerFaults
    split <;> simp
  · split <;> simp
  · intro f hf f' hf'
    split at hf'
    · rw [hheader f hf, List.mem_singleton.1 hf']
      exact hlt
    · cases hf'
  · intro f hf f' hf'
    rcases List.mem_append.1 hf with hf | hf
    · rw [hheader f hf]
      exact hlt.trans (hgroups f' hf')
    · split at hf
      · rw [List.mem_singleton.1 hf]
        exact hgroups f' hf'
      · cases hf

/-- **What the validation reports** are all faults of the story and of its groups, each of them once
and in order, and behind them the examples without a group, one after the other.  So a story is
valid exactly when it has none of them; and another group in the place of one changes no fault that
does not name that group. -/
theorem validate_eq_iff_isListing (s : Story) :
    (∀ r : Report, s.validate = r ↔
      ∃ own, s.IsListing own ∧ r.faults = own ++ s.orphanExamples.map .orphanExamples) ∧
    (s.validate.isValid = true ↔ (∀ f, ¬ s.HasFault f) ∧ s.orphanExamples = []) ∧
    ∀ (i : Nat) (g : Group),
      ({ s with groups := s.groups.set i g } : Story).validate.faults.filter
          (·.group? != some (i + 1)) =
        s.validate.faults.filter (·.group? != some (i + 1)) := by
  refine ⟨fun r => ?_, ?_, fun i g => ?_⟩
  · constructor
    · rintro rfl
      exact ⟨s.ownFaults, isListing_ownFaults s, faults_validate s⟩
    · rintro ⟨own, hown, hfaults⟩
      obtain rfl := hown.unique (isListing_ownFaults s)
      cases r
      rw [← faults_validate s] at hfaults
      exact congrArg Report.mk hfaults.symm
  · rw [Report.isValid, List.isEmpty_iff, faults_validate, List.append_eq_nil_iff,
      List.map_eq_nil_iff, List.eq_nil_iff_forall_not_mem]
    exact and_congr_left fun _ => forall_congr' fun f => not_congr mem_ownFaults_iff
  · have hset := filter_groupFaults_set 1 i g s.groups
    rw [Nat.add_comm] at hset
    have hnil : (s.groups.set i g = []) = (s.groups = []) := by
      rw [List.set_eq_nil_iff]
    simp only [faults_validate, Story.ownFaults, List.filter_append, hset, hnil]
    rfl

/-- A group that is empty and announces examples has two faults, and a row is counted among the rows
alone. -/
example :
    (Story.validate
      { role := [' '], want := "I want to pay".toList, orphanExamples := [7]
        groups :=
          [{ kind := .rule, declaresExamples := true },
            { kind := .error, steps := ["Given <a>".toList],
              examples := ["| a |".toList, "as follows".toList, "| 1 | 2 |".toList] }] }).faults =
      [.incompleteHeader [.role, .goal], .emptyGroup 1 .rule, .missingTable 1,
        .raggedTable 2 2 1 2, .orphanExamples 7] := by
  decide +kernel

end StorySpec
