import Mathlib.Tactic.SplitIfs
import Mathlib.Tactic.Tauto
import StorySpec.Pipeline
import StorySpec.Proofs.Story.Segment
import StorySpec.Proofs.Text.Line

/-!
# The lines that a story keeps

A story keeps lines of its text: header lines, steps and examples.  All of them are trimmed and none
is blank, and the name of a group is made of a few kinds of characters.  A valid story has all
header lines, and a table in every group with examples.

## Main definitions

* `IsContentLine l`: the line `l` is not blank.
* `IsKeptGroup g`: the group `g` is made of such lines.

## Main results

* `isKeptGroup_of_mem_groups`: the groups of a story that is read are made of lines of its text.
* `header_ofText`: every header line of a story that is read is missing or a line of its text.
* `faults_eq_nil_iff`: which groups have no fault.
* `isComplete_of_isValid`: what a story without faults has.
-/

namespace StorySpec

variable {s : Story} {g : Group} {l t : Text}

/-! ## Lines of a text -/

/-- A line that is not blank. -/
structure IsContentLine (l : Text) : Prop where
  isLine : IsLine l
  ne_nil : l ≠ []

theorem isContentLine_of_mem_numberedLines {numbered : Nat × Text}
    (h : numbered ∈ numberedLines t) : IsContentLine numbered.2 := by
  obtain ⟨hne, n, written, hget, -, hline⟩ := mem_numberedLines_iff.1 h
  refine ⟨?_, hne⟩
  rw [hline]
  exact isLine_trim_of_mem_lines (List.mem_of_getElem? hget)

theorem isContentLine_of_mem_contentLines {numbered : Nat × Text}
    (h : numbered ∈ contentLines (numberedLines t)) : IsContentLine numbered.2 := by
  refine isContentLine_of_mem_numberedLines (t := t) ?_
  unfold contentLines at h
  split at h
  · exact List.mem_of_mem_tail h
  · exact h

/-! ## Groups -/

/-- A text that may be the name of a group. -/
structure IsGroupName (name : Text) : Prop where
  ne_nil : name ≠ []
  /-- Only some characters stand in it. -/
  chars : ∀ c ∈ name, isNameChar c = true

theorem toNat_of_isNameChar {c : Char} (h : isNameChar c = true) :
    0x2D ≤ c.toNat ∧ c.toNat ≤ 0x7A := by
  have hupper : c.isUpper = true → 0x41 ≤ c.toNat ∧ c.toNat ≤ 0x5A := fun h =>
    of_decide_eq_true h
  have hlower : c.isLower = true → 0x61 ≤ c.toNat ∧ c.toNat ≤ 0x7A := fun h =>
    ⟨of_decide_eq_true (Bool.and_eq_true_iff.1 h).1,
      of_decide_eq_true (Bool.and_eq_true_iff.1 h).2⟩
  have hdigit : c.isDigit = true → 0x30 ≤ c.toNat ∧ c.toNat ≤ 0x39 := fun h =>
    ⟨of_decide_eq_true (Bool.and_eq_true_iff.1 h).1,
      of_decide_eq_true (Bool.and_eq_true_iff.1 h).2⟩
  simp only [isNameChar, Bool.or_eq_true, beq_iff_eq] at h
  rcases h with (halphanum | rfl) | rfl
  · rcases Bool.or_eq_true_iff.1 halphanum with halpha | h
    · rcases Bool.or_eq_true_iff.1 halpha with h | h
      · have := hupper h
        omega
      · have := hlower h
        omega
    · have := hdigit h
      omega
  · decide
  · decide

theorem isBlank_of_isNameChar {c : Char} (h : isNameChar c = true) : isBlank c = false := by
  have hbounds := toNat_of_isNameChar h
  simp only [isBlank, Bool.or_eq_false_iff, Bool.and_eq_false_iff, beq_eq_false_iff_ne,
    decide_eq_false_iff_not]
  omega

theorem isGroupName_of_bracketed? {tag name : Text} (h : bracketed? t = some (tag, some name)) :
    IsGroupName name := by
  unfold bracketed? at h
  split at h
  · split at h
    · cases h
    · cases h
    · split at h
      · rename_i hname
        cases h
        exact ⟨hname.1, List.all_eq_true.1 hname.2⟩
      · cases h
    · cases h
  · cases h

theorem isGroupName_of_groupOpener? {kind : GroupKind} {name : Text}
    (h : groupOpener? l = some (kind, some name)) : IsGroupName name := by
  have hopener : BlockOpener.ofLine? l = some (.group kind (some name)) := by
    unfold groupOpener? at h
    split at h
    · rename_i heq
      cases h
      exact heq
    · cases h
  unfold BlockOpener.ofLine? at hopener
  split at hopener
  · cases hopener
  · rename_i tag found hbracketed
    split at hopener
    · cases hopener
    · split at hopener
      · cases hopener
        exact isGroupName_of_bracketed? hbracketed
      · cases hopener

/-- A segment is opened by a line and holds lines after it. -/
theorem exists_opener_of_mem_segments {lines : List Text} {seg : Segment}
    (h : seg ∈ segments lines) :
    (∃ l ∈ lines, groupOpener? l = some (seg.kind, seg.tag)) ∧ ∀ l ∈ seg.lines, l ∈ lines := by
  induction lines with
  | nil => cases h
  | cons line lines ih =>
    cases hopener : groupOpener? line with
    | none =>
      simp only [segments, hopener] at h
      obtain ⟨⟨l, hl, hkind⟩, hlines⟩ := ih h
      exact ⟨⟨l, List.mem_cons_of_mem line hl, hkind⟩,
        fun m hm => List.mem_cons_of_mem line (hlines m hm)⟩
    | some opener =>
      simp only [segments, hopener] at h
      rcases List.mem_cons.1 h with rfl | h
      · refine ⟨⟨line, List.mem_cons_self, hopener⟩, fun m hm => ?_⟩
        exact List.mem_cons_of_mem line ((List.takeWhile_sublist _).subset hm)
      · obtain ⟨⟨l, hl, hkind⟩, hlines⟩ := ih h
        exact ⟨⟨l, List.mem_cons_of_mem line hl, hkind⟩,
          fun m hm => List.mem_cons_of_mem line (hlines m hm)⟩

/-- A group that is made of lines of a text. -/
structure IsKeptGroup (g : Group) : Prop where
  steps : ∀ l ∈ g.steps, IsContentLine l
  examples : ∀ l ∈ g.examples, IsContentLine l
  /-- Its name, if it has one, is a name. -/
  tag : ∀ name ∈ g.tag, IsGroupName name

/-- **The groups of a story** that is read are made of lines of its text. -/
theorem isKeptGroup_of_mem_groups {default : Language}
    (h : g ∈ (Story.ofText default t).groups) : IsKeptGroup g := by
  obtain ⟨-, hgroups, -⟩ := ofText_segments default t
  rw [hgroups] at h
  obtain ⟨seg, hseg, rfl⟩ := List.mem_map.1 h
  obtain ⟨⟨opener, -, hopener⟩, hlines⟩ := exists_opener_of_mem_segments hseg
  have hcontent : ∀ l ∈ seg.lines, IsContentLine l := by
    intro l hl
    obtain ⟨numbered, hnumbered, rfl⟩ := List.mem_map.1 (hlines l hl)
    exact isContentLine_of_mem_contentLines hnumbered
  refine ⟨fun l hl => hcontent l ((List.takeWhile_sublist _).subset hl), fun l hl => ?_, ?_⟩
  · exact hcontent l ((List.dropWhile_sublist _).subset (List.mem_filter.1 hl).1)
  · intro name hname
    rw [show seg.group.tag = seg.tag from rfl, Option.mem_def] at hname
    rw [hname] at hopener
    exact isGroupName_of_groupOpener? hopener

/-! ## Header lines -/

/-- The header lines of a story. -/
def Story.header (s : Story) : List Text :=
  [s.role, s.want, s.goal]

/-- Reading a line sets one header line to it, or none. -/
theorem header_read (r : Reader) (numbered : Nat × Text) :
    ∀ l ∈ (r.read numbered).story.header, l ∈ r.story.header ∨ l = numbered.2 := by
  have hcapture : ∀ (s : Story) (line : Text), ∀ l ∈ (s.captureHeader line).header,
      l ∈ s.header ∨ l = line := by
    intro s line l hl
    unfold Story.captureHeader at hl
    dsimp only at hl
    split_ifs at hl <;> simp only [Story.header, List.mem_cons, List.not_mem_nil, or_false] at hl ⊢
      <;> tauto
  intro l hl
  unfold Reader.read at hl
  split at hl
  · rename_i opener hopener
    cases opener with
    | group kind tag => exact Or.inl hl
    | examples =>
      simp only [Story.openBlock] at hl
      split at hl <;> exact Or.inl hl
  · simp only [Story.addLine] at hl
    split at hl
    · split at hl
      · exact hcapture _ _ l hl
      · exact Or.inl hl
    · split at hl <;> exact Or.inl hl

/-- **Every header line** of a story that is read is missing or a line of its text. -/
theorem header_ofText (default : Language) (t : Text) :
    ∀ l ∈ (Story.ofText default t).header, l = [] ∨ IsContentLine l := by
  have hfold : ∀ (lines : List (Nat × Text)) (r : Reader),
      (∀ numbered ∈ lines, IsContentLine numbered.2) →
      (∀ l ∈ r.story.header, l = [] ∨ IsContentLine l) →
      ∀ l ∈ (lines.foldl Reader.read r).story.header, l = [] ∨ IsContentLine l := by
    -- the invariant of the reader: each header line is missing or was read
    intro lines
    induction lines with
    | nil => exact fun r _ hr => hr
    | cons numbered lines ih =>
      intro r hlines hr
      refine ih (r.read numbered) (fun m hm => hlines m (List.mem_cons_of_mem numbered hm)) ?_
      intro l hl
      rcases header_read r numbered l hl with hold | rfl
      · exact hr l hold
      · exact Or.inr (hlines numbered List.mem_cons_self)
  simp only [Story.ofText, takeDirective_eq]
  refine hfold _ _ (fun numbered => isContentLine_of_mem_contentLines) ?_
  simp [Story.header]

/-! ## Stories without faults -/

/-- **A group has no fault** exactly when it has steps or examples, and a table where examples are
announced or given. -/
theorem Group.faults_eq_nil_iff {i : Nat} :
    g.faults i = [] ↔
      (g.steps ≠ [] ∨ g.examples ≠ []) ∧
        (g.declaresExamples = true ∨ g.examples ≠ [] → ∃ table, g.table = .ok table) := by
  rw [faults, List.append_eq_nil_iff]
  refine and_congr ?_ ?_
  · split <;> simp_all [imp_iff_not_or]
  · split
    · rename_i hexamples
      cases htable : g.table with
      | ok table => simp
      | error e => cases e <;> simp [hexamples]
    · rename_i hnone
      simp [hnone]

/-- No group of a story without faults has a fault. -/
theorem exists_faults_eq_nil_of_isValid (h : s.validate.isValid = true) (hg : g ∈ s.groups) :
    ∃ i, g.faults i = [] := by
  have hfaults : s.validate.faults = [] := List.isEmpty_iff.1 h
  simp only [Story.validate, List.append_eq_nil_iff] at hfaults
  -- the faults of a group carry its number, so the group has to be found with it
  obtain ⟨n, hn, rfl⟩ := List.getElem_of_mem hg
  have hmem : (s.groups[n], 1 + n) ∈ s.groups.zipIdx 1 :=
    List.mk_add_mem_zipIdx_iff_getElem?.2 (List.getElem?_eq_getElem hn)
  exact ⟨1 + n, List.flatMap_eq_nil_iff.1 hfaults.1.2 _ hmem⟩

/-- What a story without faults has. -/
structure Story.IsComplete (s : Story) : Prop where
  header : ∀ l ∈ s.header, l ≠ []
  table : ∀ g ∈ s.groups, g.examples ≠ [] → ∃ table, g.table = .ok table

/-- **A story without faults** has all header lines, and a table in every group with examples. -/
theorem isComplete_of_isValid (h : s.validate.isValid = true) : s.IsComplete := by
  refine ⟨?_, ?_⟩
  · have hfaults : s.validate.faults = [] := List.isEmpty_iff.1 h
    simp only [Story.validate, List.append_eq_nil_iff] at hfaults
    have hmissing : s.missingFields = [] := by
      by_contra hne
      have hheader := hfaults.1.1.1
      rw [Story.headerFaults, if_neg hne] at hheader
      cases hheader
    rintro l hl rfl
    have hfields := List.filter_eq_nil_iff.1 (List.map_eq_nil_iff.1 hmissing)
    simp only [Story.header, List.mem_cons, List.not_mem_nil, or_false] at hl
    rcases hl with hl | hl | hl
    · exact hfields (.role, s.role) (by simp) (by rw [← hl]; rfl)
    · exact hfields (.want, s.want) (by simp) (by rw [← hl]; rfl)
    · exact hfields (.goal, s.goal) (by simp) (by rw [← hl]; rfl)
  · intro g hg hne
    obtain ⟨i, hi⟩ := exists_faults_eq_nil_of_isValid h hg
    exact (Group.faults_eq_nil_iff.1 hi).2 (Or.inr hne)

end StorySpec
