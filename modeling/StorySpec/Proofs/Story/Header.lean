import StorySpec.Proofs.Language.Opener
import StorySpec.Proofs.Story.Lines

/-!
# The header of a story

The header of a story is looked for in the lines before the first block opener.  The reader tries
the three header lines in turn and skips those that it has.  Since no line has the openings of two
of them, the order in which they are tried does not matter: each header line is the first line with
one of its openings.  A block opener ends the header for good, whatever it opens.

## Main definitions

* `Story.headerLine s f`: a header line of the story `s`.
* `preamble content`: the lines before the first block opener.
* `IsFirst p lines found`: the first line with a property, or nothing where there is none.
* `Reader.IsClosed r`: the reader `r` takes no line for the header any more.

## Main results

* `headerLine_captureHeader`: one more line fills the header line that it fits, if that is missing.
* `foldl_read_preamble`, `header_foldl_take_dropWhile`: reading before the first block opener, and
  from there on.
* `header_ofText_isFirst`: the header of a story that is read.
-/

namespace StorySpec

variable {s : Story} {r : Reader} {field : HeaderField} {openers : List Text} {line : Text}
  {lines : List Text}

/-- A header line of a story. -/
def Story.headerLine (s : Story) : HeaderField → Text
  | .role => s.role
  | .want => s.want
  | .goal => s.goal

theorem Story.header_eq_map (s : Story) : s.header = HeaderField.all.map s.headerLine := rfl

/-- The lines before the first block opener, be it of a group or of examples. -/
def preamble (content : List (Nat × Text)) : List (Nat × Text) :=
  content.takeWhile (isContent ·.2)

/-- The first of the lines with a property, or the empty line when there is none. -/
inductive IsFirst (p : Text → Prop) : List Text → Text → Prop
  | found {before after : List Text} {l : Text} (h : p l) (hbefore : ∀ m ∈ before, ¬ p m) :
    IsFirst p (before ++ l :: after) l
  | missing {lines : List Text} (h : ∀ m ∈ lines, ¬ p m) : IsFirst p lines []

/-! ## One header line -/

/-- A header line after one more line of the preamble, which takes its place if it is missing. -/
def filled (openers : List Text) (kept line : Text) : Text :=
  if kept = [] ∧ HasOpening openers line then line else kept

theorem foldl_filled_of_ne_nil {kept : Text} (h : kept ≠ []) (lines : List Text) :
    lines.foldl (filled openers) kept = kept := by
  induction lines with
  | nil => rfl
  | cons line lines ih => rw [List.foldl_cons, filled, if_neg (fun hfits => h hfits.1), ih]

/-- What takes the place of a missing header line is the first line that fits. -/
theorem isFirst_foldl_filled (h : ∀ l ∈ lines, l ≠ []) :
    IsFirst (HasOpening openers) lines (lines.foldl (filled openers) []) := by
  induction lines with
  | nil => exact .missing fun _ hmem => absurd hmem List.not_mem_nil
  | cons line lines ih =>
    obtain ⟨hline, hlines⟩ := List.forall_mem_cons.1 h
    rw [List.foldl_cons, filled]
    split
    · rename_i hfits
      rw [foldl_filled_of_ne_nil hline]
      have hnone : ∀ m ∈ ([] : List Text), ¬ HasOpening openers m := fun _ hmem =>
        absurd hmem List.not_mem_nil
      exact .found hfits.2 hnone
    · rename_i hnot
      have hother : ¬ HasOpening openers line := fun hopens => hnot ⟨rfl, hopens⟩
      generalize hfound : lines.foldl (filled openers) [] = found at ih
      cases ih hlines with
      | found hp hbefore =>
        exact .found hp (List.forall_mem_cons.2 ⟨hother, hbefore⟩)
      | missing hnone => exact .missing (List.forall_mem_cons.2 ⟨hother, hnone⟩)

/-- **One more line** fills the header line that it fits, if that is missing, and no other one. -/
theorem headerLine_captureHeader (s : Story) (line : Text) (field : HeaderField) :
    (s.captureHeader line).headerLine field =
      filled (s.language.openers.of field) (s.headerLine field) line := by
  -- what fits one header line fits no other one, so it does not matter which one is tried first
  have hother : ∀ taken, HasOpening (s.language.openers.of taken) line → taken ≠ field →
      filled (s.language.openers.of field) (s.headerLine field) line = s.headerLine field :=
    fun taken htaken hne => if_neg fun hfits => hne (s.language.eq_of_hasOpening htaken hfits.2)
  unfold Story.captureHeader
  simp only [Bool.and_eq_true, beq_iff_eq, isSome_stripOpener_iff]
  split_ifs with hrole hwant hgoal
  · cases field with
    | role => exact (if_pos hrole).symm
    | want => exact (hother .role hrole.2 nofun).symm
    | goal => exact (hother .role hrole.2 nofun).symm
  · cases field with
    | role => exact (hother .want hwant.2 nofun).symm
    | want => exact (if_pos hwant).symm
    | goal => exact (hother .want hwant.2 nofun).symm
  · cases field with
    | role => exact (hother .goal hgoal.2 nofun).symm
    | want => exact (hother .goal hgoal.2 nofun).symm
    | goal => exact (if_pos hgoal).symm
  · cases field with
    | role => exact (if_neg hrole).symm
    | want => exact (if_neg hwant).symm
    | goal => exact (if_neg hgoal).symm

theorem headerLine_foldl_captureHeader (lines : List Text) (s : Story) :
    (lines.foldl Story.captureHeader s).headerLine field =
      lines.foldl (filled (s.language.openers.of field)) (s.headerLine field) := by
  induction lines generalizing s with
  | nil => rfl
  | cons line lines ih =>
    rw [List.foldl_cons, ih, (captureHeader_frame s line).1, headerLine_captureHeader,
      List.foldl_cons]

/-! ## Before and after the first block opener -/

/-- **Reading before the first block opener** looks at every line for the header alone. -/
theorem foldl_read_preamble {content : List (Nat × Text)}
    (h : ∀ numbered ∈ content, isContent numbered.2 = true) (hgroups : r.story.groups = [])
    (hmode : r.mode = .steps) :
    content.foldl Reader.read r =
      { r with story := (content.map Prod.snd).foldl Story.captureHeader r.story } := by
  induction content generalizing r with
  | nil => rfl
  | cons numbered content ih =>
    obtain ⟨hnumbered, hcontent⟩ := List.forall_mem_cons.1 h
    have hread : r.read numbered = { r with story := r.story.captureHeader numbered.2 } := by
      simp [Reader.read, Story.addLine, beq_iff_eq.1 hnumbered, hgroups, hmode]
    have hgroups' : (r.read numbered).story.groups = [] := by
      rw [hread, (captureHeader_frame r.story numbered.2).2.1, hgroups]
    have hmode' : (r.read numbered).mode = .steps := by rw [hread, hmode]
    rw [List.foldl_cons, ih hcontent hgroups' hmode', hread]
    rfl

/-- No line is taken for the header any more: a group is open, or examples have been opened before
there is one. -/
def Reader.IsClosed (r : Reader) : Prop :=
  r.story.groups ≠ [] ∨ r.mode = .examples

theorem modifyLast_ne_nil {α : Type} {f : α → α} {l : List α} (h : l ≠ []) :
    modifyLast f l ≠ [] := by
  obtain ⟨front, a, rfl⟩ := (List.eq_nil_or_concat l).resolve_left h
  simp

/-- A block opener closes the header and leaves it as it is. -/
theorem isClosed_read_of_opener {numbered : Nat × Text} {opener : BlockOpener}
    (h : BlockOpener.ofLine? numbered.2 = some opener) :
    (r.read numbered).IsClosed ∧ (r.read numbered).story.header = r.story.header := by
  have hread : r.read numbered =
      { story := r.story.openBlock numbered.1 opener, mode := .after opener } := by
    simp [Reader.read, h]
  rw [hread]
  cases opener with
  | group kind tag => exact ⟨Or.inl (by simp [Story.openBlock]), rfl⟩
  | examples =>
    refine ⟨Or.inr rfl, ?_⟩
    simp only [Story.openBlock]
    split <;> rfl

namespace Reader.IsClosed

/-- The header stays closed and as it is, whatever line is read. -/
theorem read (h : r.IsClosed) (numbered : Nat × Text) :
    (r.read numbered).IsClosed ∧ (r.read numbered).story.header = r.story.header := by
  cases hopener : BlockOpener.ofLine? numbered.2 with
  | some opener => exact isClosed_read_of_opener hopener
  | none =>
    have hread : r.read numbered = { r with story := r.story.addLine r.mode numbered.2 } := by
      simp [Reader.read, hopener]
    rw [hread]
    unfold Story.addLine
    split
    · -- there is no group, so examples have been opened, and the line is lost
      rename_i hgroups
      have hmode : r.mode = .examples := h.resolve_left fun hne => hne hgroups
      rw [hmode]
      exact ⟨Or.inr rfl, rfl⟩
    · rename_i hgroups
      cases r.mode <;> exact ⟨Or.inl (modifyLast_ne_nil hgroups), rfl⟩

theorem header_foldl (h : r.IsClosed) (content : List (Nat × Text)) :
    (content.foldl Reader.read r).story.header = r.story.header := by
  induction content generalizing r with
  | nil => rfl
  | cons numbered content ih =>
    obtain ⟨hclosed, hheader⟩ := h.read numbered
    rw [List.foldl_cons, ih hclosed, hheader]

end Reader.IsClosed

/-- **Reading from the first block opener on** leaves the header as it is, however far it goes. -/
theorem header_foldl_take_dropWhile (r : Reader) (content : List (Nat × Text)) (n : Nat) :
    (((content.dropWhile (isContent ·.2)).take n).foldl Reader.read r).story.header =
      r.story.header := by
  cases hrest : content.dropWhile (isContent ·.2) with
  | nil => rw [List.take_nil, List.foldl_nil]
  | cons numbered rest =>
    have hfirst := List.head?_dropWhile_not (isContent ·.2) content
    rw [hrest] at hfirst
    obtain ⟨opener, hopener⟩ : ∃ opener, BlockOpener.ofLine? numbered.2 = some opener := by
      simpa [isContent, Option.isSome_iff_exists] using hfirst
    cases n with
    | zero => rfl
    | succ n =>
      obtain ⟨hclosed, hheader⟩ := isClosed_read_of_opener (r := r) hopener
      rw [List.take_succ_cons, List.foldl_cons, hclosed.header_foldl, hheader]

/-- However many lines are read behind the preamble, only those of the preamble count. -/
theorem header_foldl_take (r : Reader) (content : List (Nat × Text)) (n : Nat) :
    ((content.take ((preamble content).length + n)).foldl Reader.read r).story.header =
      ((preamble content).foldl Reader.read r).story.header := by
  have htake : content.take ((preamble content).length + n) =
      preamble content ++ (content.dropWhile (isContent ·.2)).take n := by
    rw [← List.take_length_add_append, preamble, List.takeWhile_append_dropWhile]
  rw [htake, List.foldl_append]
  exact header_foldl_take_dropWhile _ content n

/-! ## The header of a text -/

/-- A story is read line by line, from a story in its language in which there is nothing. -/
theorem ofText_eq_foldl_read (default : Language) (t : Text) :
    Story.ofText default t = ((contentLines (numberedLines t)).foldl Reader.read
      { story := { language := (Story.ofText default t).language } }).story := by
  rw [(ofText_segments default t).1, Story.ofText, takeDirective_eq]

/-- **The header of a story** is found before its first block opener, be that one of a group or of
examples.  Each header line is the first of these lines with one of its openings in the language of
the story, and it is empty where there is none.  No line has the openings of two header lines, and
nothing that is read from the first block opener on changes the header.  The lines are those of
`eq_numberedLines_iff`. -/
theorem header_ofText_isFirst (default : Language) (t : Text) :
    let story := Story.ofText default t
    let content := contentLines (numberedLines t)
    let front := preamble content
    (∀ field, IsFirst (HasOpening (story.language.openers.of field)) (front.map Prod.snd)
        (story.headerLine field)) ∧
      (∀ line, { field | HasOpening (story.language.openers.of field) line }.Subsingleton) ∧
      ∀ n, ((content.take (front.length + n)).foldl Reader.read
        { story := { language := story.language } }).story.header = story.header := by
  intro story content front
  let start : Reader := { story := { language := story.language } }
  have htake : ∀ n, ((content.take (front.length + n)).foldl Reader.read start).story.header =
      (front.foldl Reader.read start).story.header := header_foldl_take start content
  have hheader : story.header = (front.foldl Reader.read start).story.header := by
    have hstory : story = (content.foldl Reader.read start).story := ofText_eq_foldl_read default t
    rw [hstory, ← htake content.length, List.take_of_length_le (by omega)]
  have hfront : ∀ numbered ∈ front, isContent numbered.2 = true := by
    intro numbered hmem
    simpa using List.mem_takeWhile_imp hmem
  have hread : front.foldl Reader.read start =
      { start with story := (front.map Prod.snd).foldl Story.captureHeader start.story } :=
    foldl_read_preamble hfront rfl rfl
  refine ⟨fun field => ?_, fun line field h field' h' => story.language.eq_of_hasOpening h h',
    fun n => (htake n).trans hheader.symm⟩
  have hfield : story.headerLine field =
      (front.map Prod.snd).foldl (filled (story.language.openers.of field)) [] := by
    rw [hread, Story.header_eq_map, Story.header_eq_map, List.map_inj_left] at hheader
    have hmissing : start.story.headerLine field = [] := by cases field <;> rfl
    rw [hheader field field.mem_all, ← hmissing]
    exact headerLine_foldl_captureHeader _ start.story
  rw [hfield]
  refine isFirst_foldl_filled fun l hl => ?_
  obtain ⟨numbered, hmem, rfl⟩ := List.mem_map.1 hl
  exact (isContentLine_of_mem_contentLines ((List.takeWhile_sublist _).subset hmem)).ne_nil

/-- Of the two lines that say to what end only the first one counts, and the line that says who asks
comes too late. -/
example :
    (Story.ofText .english (Text.unlines
      ["# lang: pt".toList, "para que eu coma".toList, "Quero:".toList, "Para voltar".toList,
        "Queroque".toList, "[exemplos]".toList, "Como cliente".toList])).header =
      [[], "Quero:".toList, "para que eu coma".toList] := by
  decide +kernel

end StorySpec
