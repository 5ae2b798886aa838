import Mathlib.Data.List.Sort
import Mathlib.Data.List.TakeWhile
import Mathlib.Tactic.SplitIfs
import StorySpec.Story.Reader

/-!
# Stories as segments of their lines

The reader of stories goes through the lines one by one, with a mode and an open group.  What it
arrives at can be said without either: the lines that open groups cut the others into segments, and
each group is made of the segment after its opener.  What comes before the first announcement of
examples in a segment are the steps, and what comes after it are the examples.

## Main definitions

* `contentLines numbered`: the lines of a story without its language directive.
* `segments lines`: the group openers among the lines, each with the lines up to the next one.
* `Segment.group s`: the group that the segment `s` makes up.

## Main results

* `mem_numberedLines_iff`, `eq_numberedLines_iff`: which lines of a text are read, with which
  numbers and in which order.
* `foldl_read_of_groups_eq_nil`, `foldl_read_of_open_group`: what the reader adds to a story before
  its first group, and to a story whose last group is open.
* `groups_ofText_partition`: a story is made of the segments of its lines.
-/

namespace StorySpec

/-! ## The lines of a text -/

/-- Two lists of the same elements are equal when both are in the strict order of a value. -/
theorem eq_of_pairwise_lt {α β : Type} [Preorder β] {value : α → β} {l l' : List α}
    (h : l.Pairwise fun a b => value a < value b) (h' : l'.Pairwise fun a b => value a < value b)
    (hmem : ∀ a, a ∈ l ↔ a ∈ l') : l = l' := by
  have hnodup : ∀ {l : List α}, (l.Pairwise fun a b => value a < value b) → l.Nodup :=
    fun hordered => hordered.imp fun hlt heq => absurd (heq ▸ hlt) (lt_irrefl _)
  have hperm : l.Perm l' := (List.perm_ext_iff_of_nodup (hnodup h) (hnodup h')).2 hmem
  exact hperm.eq_of_pairwise (fun _ _ _ _ hlt hgt => absurd hlt hgt.asymm) h h'

/-- A line of a text is read when it is not blank; it is trimmed, and its number counts all lines of
the text, from 1. -/
theorem mem_numberedLines_iff {t : Text} {number : Nat} {line : Text} :
    (number, line) ∈ numberedLines t ↔
      line ≠ [] ∧ ∃ n written, (Text.lines t)[n]? = some written ∧ number = n + 1 ∧
        line = Text.trim written := by
  simp only [numberedLines, List.mem_filter, List.mem_map, bne_iff_ne, ne_eq]
  rw [and_comm]
  refine and_congr_right fun _ => ⟨?_, ?_⟩
  · rintro ⟨⟨written, position⟩, hmem, heq⟩
    cases heq
    obtain ⟨hle, hget⟩ := List.mk_mem_zipIdx_iff_le_and_getElem?_sub.1 hmem
    exact ⟨position - 1, written, hget, (Nat.sub_add_cancel hle).symm, rfl⟩
  · rintro ⟨n, written, hget, rfl, rfl⟩
    refine ⟨(written, n + 1), List.mk_mem_zipIdx_iff_le_and_getElem?_sub.2 ⟨?_, ?_⟩, rfl⟩
    · exact Nat.le_add_left 1 n
    · rwa [Nat.add_sub_cancel]

/-- The lines are read in the order of their numbers. -/
theorem pairwise_numberedLines (t : Text) :
    (numberedLines t).Pairwise fun a b => a.1 < b.1 := by
  have hnumbers : (((Text.lines t).zipIdx 1).map Prod.snd).Pairwise (· < ·) := by
    rw [List.zipIdx_map_snd]
    exact List.pairwise_lt_range'
  refine List.Pairwise.filter _ (List.pairwise_map.2 ?_)
  exact List.pairwise_map.1 hnumbers

/-- **The lines of a text that are read** are those that are not blank, each of them trimmed, with
its number and in the order of the numbers. -/
theorem eq_numberedLines_iff {t : Text} {numbered : List (Nat × Text)} :
    numbered = numberedLines t ↔
      (numbered.Pairwise fun a b => a.1 < b.1) ∧ ∀ number line, (number, line) ∈ numbered ↔
        line ≠ [] ∧ ∃ n written, (Text.lines t)[n]? = some written ∧ number = n + 1 ∧
          line = Text.trim written := by
  constructor
  · rintro rfl
    exact ⟨pairwise_numberedLines t, fun _ _ => mem_numberedLines_iff⟩
  · rintro ⟨hordered, hmem⟩
    exact eq_of_pairwise_lt hordered (pairwise_numberedLines t) fun numbered =>
      (hmem numbered.1 numbered.2).trans mem_numberedLines_iff.symm

/-! ## Lines and segments -/

/-- The kind and the name of the group that a line opens. -/
def groupOpener? (line : Text) : Option (GroupKind × Option Text) :=
  match BlockOpener.ofLine? line with
  | some (.group kind tag) => some (kind, tag)
  | _ => none

/-- Whether a line opens a group. -/
def opensGroup (line : Text) : Bool :=
  (groupOpener? line).isSome

/-- Whether a line announces examples. -/
def opensExamples (line : Text) : Bool :=
  BlockOpener.ofLine? line == some .examples

/-- Whether a line is neither the opener of a group nor the announcement of examples. -/
def isContent (line : Text) : Bool :=
  BlockOpener.ofLine? line == none

/-- The code in the language directive of a story, which is its first line if it is there. -/
def storyDirective? (numbered : List (Nat × Text)) : Option Text :=
  numbered.head?.bind fun first => directiveCode? first.2

/-- The lines of a story without its language directive. -/
def contentLines (numbered : List (Nat × Text)) : List (Nat × Text) :=
  if (storyDirective? numbered).isSome then numbered.tail else numbered

/-- The language that the directive of a story names, or the default where it names none. -/
def declaredLanguage (default : Language) (numbered : List (Nat × Text)) : Language :=
  match storyDirective? numbered with
  | some code => (Language.ofCode code).toOption.getD default
  | none => default

/-- An opener of a group and the lines after it, up to the next opener. -/
structure Segment where
  kind : GroupKind
  tag : Option Text
  lines : List Text
  deriving DecidableEq, Repr

/-- The group openers among the lines, each with the lines up to the next one. -/
def segments : List Text → List Segment
  | [] => []
  | line :: lines =>
    match groupOpener? line with
    | some (kind, tag) =>
      { kind, tag, lines := lines.takeWhile (!opensGroup ·) } :: segments lines
    | none => segments lines

/-- The group that a segment makes up.  Its steps are the lines before the first announcement of
examples, and its examples the lines after it; further announcements are no examples. -/
def Segment.group (s : Segment) : Group where
  kind := s.kind
  tag := s.tag
  steps := s.lines.takeWhile (!opensExamples ·)
  examples := (s.lines.dropWhile (!opensExamples ·)).filter (!opensExamples ·)
  declaresExamples := s.lines.any opensExamples

/-! ## The three sorts of lines -/

theorem opensGroup_of_group {line : Text} {kind : GroupKind} {tag : Option Text}
    (h : BlockOpener.ofLine? line = some (.group kind tag)) :
    opensGroup line = true ∧ opensExamples line = false ∧ isContent line = false := by
  simp [opensGroup, groupOpener?, opensExamples, isContent, h]

theorem opensExamples_of_examples {line : Text}
    (h : BlockOpener.ofLine? line = some .examples) :
    opensGroup line = false ∧ opensExamples line = true ∧ isContent line = false := by
  simp [opensGroup, groupOpener?, opensExamples, isContent, h]

theorem isContent_of_none {line : Text} (h : BlockOpener.ofLine? line = none) :
    opensGroup line = false ∧ opensExamples line = false ∧ isContent line = true := by
  simp [opensGroup, groupOpener?, opensExamples, isContent, h]

theorem segments_cons_of_not_opensGroup {line : Text} (h : opensGroup line = false)
    (lines : List Text) : segments (line :: lines) = segments lines := by
  have hnone : groupOpener? line = none := by simpa [opensGroup] using h
  simp [segments, hnone]

/-! ## Reading within a group -/

/-- The group with the lines of a segment, or of the rest of one, that are read in a mode. -/
def Group.extend (g : Group) (mode : Mode) (lines : List Text) : Group :=
  let announced := lines.any opensExamples
  match mode with
  | .steps =>
    { g with
      steps := g.steps ++ lines.takeWhile (!opensExamples ·)
      examples := g.examples ++ (lines.dropWhile (!opensExamples ·)).filter (!opensExamples ·)
      declaresExamples := g.declaresExamples || announced }
  | .examples =>
    { g with
      examples := g.examples ++ lines.filter (!opensExamples ·)
      declaresExamples := g.declaresExamples || announced }

@[simp] theorem Group.extend_nil (g : Group) (mode : Mode) : g.extend mode [] = g := by
  cases mode <;> simp [Group.extend]

/-- An announcement changes the mode to examples, whatever it was. -/
theorem Group.extend_announcement (g : Group) (mode : Mode) {line : Text}
    (h : opensExamples line = true) (lines : List Text) :
    g.extend mode (line :: lines) =
      Group.extend { g with declaresExamples := true } .examples lines := by
  cases mode <;> simp [Group.extend, h]

theorem Group.extend_step (g : Group) {line : Text} (h : opensExamples line = false)
    (lines : List Text) :
    g.extend .steps (line :: lines) =
      Group.extend { g with steps := g.steps ++ [line] } .steps lines := by
  simp [Group.extend, h]

theorem Group.extend_example (g : Group) {line : Text} (h : opensExamples line = false)
    (lines : List Text) :
    g.extend .examples (line :: lines) =
      Group.extend { g with examples := g.examples ++ [line] } .examples lines := by
  simp [Group.extend, h]

theorem Segment.group_eq_extend (s : Segment) :
    s.group = Group.extend { kind := s.kind, tag := s.tag } .steps s.lines := by
  simp [Segment.group, Group.extend]

@[simp] theorem modifyLast_concat {α : Type} (f : α → α) (l : List α) (a : α) :
    modifyLast f (l ++ [a]) = l ++ [f a] := by
  induction l with
  | nil => rfl
  | cons b l ih =>
    cases l with
    | nil => rfl
    | cons c l => simpa [modifyLast] using ih

/-- **Reading on in an open group.**  The last group takes the lines up to the next opener of a
group, every later segment adds a group of its own, and nothing else of the story changes. -/
theorem foldl_read_of_open_group {r : Reader} {gs : List Group} {g : Group}
    (lines : List (Nat × Text)) (h : r.story.groups = gs ++ [g]) :
    (lines.foldl Reader.read r).story =
      { r.story with
        groups := gs ++ [g.extend r.mode ((lines.map Prod.snd).takeWhile (!opensGroup ·))] ++
          (segments (lines.map Prod.snd)).map Segment.group } := by
  -- on the lines, for any open group: an opener closes it and opens the next one
  induction lines generalizing r gs g with
  | nil => simp [segments, ← h]
  | cons numbered lines ih =>
    obtain ⟨number, line⟩ := numbered
    have hne : r.story.groups ≠ [] := by simp [h]
    rw [List.foldl_cons]
    cases hopen : BlockOpener.ofLine? line with
    | some opener =>
      cases opener with
      | group kind tag =>
        obtain ⟨hgroup, -, -⟩ := opensGroup_of_group hopen
        have hopener : groupOpener? line = some (kind, tag) := by simp [groupOpener?, hopen]
        have hgroups : (r.read (number, line)).story.groups =
            (gs ++ [g]) ++ [Group.mk kind tag [] [] false] := by
          simp [Reader.read, hopen, Story.openBlock, h]
        rw [ih hgroups]
        simp [Reader.read, hopen, Story.openBlock, Mode.after, segments, hopener, hgroup,
          Segment.group_eq_extend]
      | examples =>
        obtain ⟨hgroup, hexamples, -⟩ := opensExamples_of_examples hopen
        have hgroups : (r.read (number, line)).story.groups =
            gs ++ [{ g with declaresExamples := true }] := by
          simp [Reader.read, hopen, Story.openBlock, h]
        rw [ih hgroups]
        simp [Reader.read, hopen, Story.openBlock, Mode.after, hne, hgroup,
          Group.extend_announcement g r.mode hexamples, segments_cons_of_not_opensGroup hgroup]
    | none =>
      obtain ⟨hgroup, hexamples, -⟩ := isContent_of_none hopen
      cases hmode : r.mode with
      | steps =>
        have hgroups : (r.read (number, line)).story.groups =
            gs ++ [{ g with steps := g.steps ++ [line] }] := by
          simp [Reader.read, hopen, Story.addLine, h, hmode]
        rw [ih hgroups]
        simp [Reader.read, hopen, Story.addLine, hne, hgroup, hmode,
          Group.extend_step g hexamples, segments_cons_of_not_opensGroup hgroup]
      | examples =>
        have hgroups : (r.read (number, line)).story.groups =
            gs ++ [{ g with examples := g.examples ++ [line] }] := by
          simp [Reader.read, hopen, Story.addLine, h, hmode]
        rw [ih hgroups]
        simp [Reader.read, hopen, Story.addLine, hne, hgroup, hmode,
          Group.extend_example g hexamples, segments_cons_of_not_opensGroup hgroup]

/-! ## Reading before the first group -/

theorem captureHeader_frame (s : Story) (line : Text) :
    (s.captureHeader line).language = s.language ∧ (s.captureHeader line).groups = s.groups ∧
      (s.captureHeader line).orphanExamples = s.orphanExamples := by
  unfold Story.captureHeader
  dsimp only
  split_ifs <;> exact ⟨rfl, rfl, rfl⟩

theorem addLine_frame_of_groups_eq_nil {s : Story} (h : s.groups = []) (mode : Mode)
    (line : Text) :
    (s.addLine mode line).language = s.language ∧ (s.addLine mode line).groups = [] ∧
      (s.addLine mode line).orphanExamples = s.orphanExamples := by
  unfold Story.addLine
  rw [if_pos h]
  cases mode with
  | steps =>
    obtain ⟨hlanguage, hgroups, horphans⟩ := captureHeader_frame s line
    exact ⟨hlanguage, hgroups.trans h, horphans⟩
  | examples => exact ⟨rfl, h, rfl⟩

/-- The numbers of the lines that announce examples before a group is opened. -/
def orphanNumbers (lines : List (Nat × Text)) : List Nat :=
  ((lines.takeWhile (!opensGroup ·.2)).filter (opensExamples ·.2)).map Prod.fst

/-- **Reading before the first group.**  Every segment adds its group, and the announcements of
examples before the first of them are noted with their numbers. -/
theorem foldl_read_of_groups_eq_nil {r : Reader} (lines : List (Nat × Text))
    (h : r.story.groups = []) :
    (lines.foldl Reader.read r).story.language = r.story.language ∧
      (lines.foldl Reader.read r).story.groups =
        (segments (lines.map Prod.snd)).map Segment.group ∧
      (lines.foldl Reader.read r).story.orphanExamples =
        r.story.orphanExamples ++ orphanNumbers lines := by
  induction lines generalizing r with
  | nil => simp [segments, h, orphanNumbers]
  | cons numbered lines ih =>
    obtain ⟨number, line⟩ := numbered
    rw [List.foldl_cons]
    cases hopen : BlockOpener.ofLine? line with
    | some opener =>
      cases opener with
      | group kind tag =>
        -- the first group: from here on it is open, and no announcement is an orphan
        obtain ⟨hgroup, -, -⟩ := opensGroup_of_group hopen
        have hopener : groupOpener? line = some (kind, tag) := by simp [groupOpener?, hopen]
        have hgroups : (r.read (number, line)).story.groups =
            [] ++ [Group.mk kind tag [] [] false] := by
          simp [Reader.read, hopen, Story.openBlock, h]
        rw [foldl_read_of_open_group lines hgroups]
        simp [Reader.read, hopen, Story.openBlock, Mode.after, segments, hopener, hgroup,
          Segment.group_eq_extend, orphanNumbers]
      | examples =>
        obtain ⟨hgroup, hexamples, -⟩ := opensExamples_of_examples hopen
        obtain ⟨hlanguage, hgroups, horphans⟩ := ih (r := r.read (number, line))
          (by simp [Reader.read, hopen, Story.openBlock, h])
        rw [hlanguage, hgroups, horphans]
        simp [Reader.read, hopen, Story.openBlock, h, segments_cons_of_not_opensGroup hgroup,
          orphanNumbers, hgroup, hexamples]
    | none =>
      obtain ⟨hgroup, hexamples, -⟩ := isContent_of_none hopen
      have hread : r.read (number, line) =
          { r with story := r.story.addLine r.mode line } := by
        simp [Reader.read, hopen]
      obtain ⟨hlang, hnil, horph⟩ := addLine_frame_of_groups_eq_nil h r.mode line
      obtain ⟨hlanguage, hgroups, horphans⟩ := ih (r := r.read (number, line)) (by rw [hread, hnil])
      rw [hlanguage, hgroups, horphans, hread]
      simp [hlang, horph, segments_cons_of_not_opensGroup hgroup, orphanNumbers, hgroup, hexamples]

/-! ## Nothing is lost -/

theorem map_segments_opener (lines : List Text) :
    (segments lines).map (fun s => (s.kind, s.tag)) = lines.filterMap groupOpener? := by
  induction lines with
  | nil => rfl
  | cons line lines ih =>
    cases h : groupOpener? line with
    | none => simp [segments, h, ih]
    | some opener => simp [segments, h, ih]

theorem takeWhile_append_filter_dropWhile {α : Type} (p : α → Bool) (l : List α) :
    l.takeWhile p ++ (l.dropWhile p).filter p = l.filter p := by
  induction l with
  | nil => rfl
  | cons a l ih => cases h : p a <;> simp [h, ih]

/-- Away from the openers of groups, content is what does not announce examples. -/
theorem filter_not_opensExamples {lines : List Text} (h : ∀ line ∈ lines, opensGroup line = false) :
    lines.filter (!opensExamples ·) = lines.filter isContent := by
  refine List.filter_congr fun line hline => ?_
  cases hopen : BlockOpener.ofLine? line with
  | none => simp [opensExamples, isContent, hopen]
  | some opener =>
    cases opener with
    | group kind tag => exact absurd (h line hline) (by simp [opensGroup_of_group hopen])
    | examples => simp [opensExamples, isContent, hopen]

/-- The steps and the examples of a segment are its content, each line once and in order. -/
theorem Segment.steps_append_examples {s : Segment}
    (h : ∀ line ∈ s.lines, opensGroup line = false) :
    s.group.steps ++ s.group.examples = s.lines.filter isContent := by
  rw [← filter_not_opensExamples h]
  exact takeWhile_append_filter_dropWhile _ _

/-- Only a segment in which examples are announced has examples. -/
theorem Segment.declaresExamples_of_examples_ne_nil {s : Segment} (h : s.group.examples ≠ []) :
    s.group.declaresExamples = true := by
  by_contra hnone
  have hall : ∀ line ∈ s.lines, (!opensExamples line) = true := by
    simpa [Segment.group] using hnone
  exact h (by simp [Segment.group, List.dropWhile_eq_nil_iff.2 hall])

/-- The segments hold all content after the first opener, each line once and in order. -/
theorem flatMap_segments_content (lines : List Text) :
    (segments lines).flatMap (fun s => s.group.steps ++ s.group.examples) =
      (lines.dropWhile (!opensGroup ·)).filter isContent := by
  induction lines with
  | nil => rfl
  | cons line lines ih =>
    by_cases h : opensGroup line
    · -- the segment takes the lines up to the next opener, and the others take the rest
      obtain ⟨⟨kind, tag⟩, hopener⟩ := Option.isSome_iff_exists.1 h
      have hcontent : isContent line = false := by
        cases hopen : BlockOpener.ofLine? line with
        | none => simp [groupOpener?, hopen] at hopener
        | some opener => simp [isContent, hopen]
      have hsegment : ∀ l ∈ lines.takeWhile (!opensGroup ·), opensGroup l = false := by
        intro l hl
        simpa using List.all_takeWhile (p := (!opensGroup ·)) |> (List.all_eq_true.1 · l hl)
      simp only [segments, hopener, List.flatMap_cons, ih]
      rw [Segment.steps_append_examples hsegment]
      simp only [h, Bool.not_true, Bool.false_eq_true, not_false_eq_true,
        List.dropWhile_cons_of_neg, List.filter_cons, hcontent, if_false]
      rw [← List.filter_append, List.takeWhile_append_dropWhile]
    · have hnot : opensGroup line = false := by simpa using h
      simp [segments_cons_of_not_opensGroup hnot, hnot, ih]

/-! ## The partition of a story -/

/-- Taking the directive away gives the declared language and the content lines. -/
theorem takeDirective_eq (default : Language) (numbered : List (Nat × Text)) :
    takeDirective default numbered =
      (declaredLanguage default numbered, contentLines numbered) := by
  cases numbered with
  | nil => rfl
  | cons first rest =>
    obtain ⟨number, line⟩ := first
    cases hcode : directiveCode? line with
    | none => simp [takeDirective, declaredLanguage, contentLines, storyDirective?, hcode]
    | some code =>
      cases hl : Language.ofCode code <;>
        simp [takeDirective, declaredLanguage, contentLines, storyDirective?, hcode, hl,
          Except.toOption]

/-- The story in a text, said with the segments of its lines. -/
theorem ofText_segments (default : Language) (t : Text) :
    (Story.ofText default t).language = declaredLanguage default (numberedLines t) ∧
      (Story.ofText default t).groups =
        (segments ((contentLines (numberedLines t)).map Prod.snd)).map Segment.group ∧
      (Story.ofText default t).orphanExamples = orphanNumbers (contentLines (numberedLines t)) := by
  have hstory : Story.ofText default t =
      ((contentLines (numberedLines t)).foldl Reader.read
        { story := { language := declaredLanguage default (numberedLines t) } }).story := by
    simp only [Story.ofText, takeDirective_eq]
  obtain ⟨hlanguage, hgroups, horphans⟩ :=
    foldl_read_of_groups_eq_nil (contentLines (numberedLines t))
      (r := { story := { language := declaredLanguage default (numberedLines t) } }) rfl
  rw [hstory]
  exact ⟨hlanguage, hgroups, by simpa using horphans⟩

/-- **A story is made of the segments of its lines.**  Its language is the declared one.  There is
one group for every opener of a group, in order and with its kind and its name, and the group is
made up of the segment after the opener.  So the steps and the examples of all groups are the
content after the first opener, no line of which is lost, doubled or moved.  Announcements of
examples before the first opener are noted with their numbers.  Which lines have which numbers is
said by `eq_numberedLines_iff`. -/
theorem groups_ofText_partition (default : Language) (t : Text) :
    let numbered := numberedLines t
    let content := contentLines numbered
    let lines := content.map Prod.snd
    let story := Story.ofText default t
    story.language = declaredLanguage default numbered ∧
      story.groups = (segments lines).map Segment.group ∧
      story.groups.map (fun g => (g.kind, g.tag)) = lines.filterMap groupOpener? ∧
      story.groups.flatMap (fun g => g.steps ++ g.examples) =
        (lines.dropWhile (!opensGroup ·)).filter isContent ∧
      (∀ g ∈ story.groups, g.examples ≠ [] → g.declaresExamples = true) ∧
      story.orphanExamples = orphanNumbers content := by
  intro numbered content lines story
  obtain ⟨hlanguage, hgroups, horphans⟩ := ofText_segments default t
  refine ⟨hlanguage, hgroups, ?_, ?_, ?_, horphans⟩
  · rw [hgroups, List.map_map]
    exact map_segments_opener lines
  · rw [hgroups, List.flatMap_map]
    exact flatMap_segments_content lines
  · intro g hg hne
    rw [hgroups] at hg
    obtain ⟨s, -, rfl⟩ := List.mem_map.1 hg
    exact s.declaresExamples_of_examples_ne_nil hne

end StorySpec
