import StorySpec.Pipeline
import StorySpec.Proofs.Pattern.Skeleton
import StorySpec.Proofs.Step
import StorySpec.Proofs.Stub.FirstOccurrence

/-!
# The stubs of a story

The stubs for a story are made from its document, whose steps are translated and read again.  They
can be said directly from the story: every line with a keyword has a sketch, which is its slot and
its skeleton, and every sketch that is new has a stub.

## Main definitions

* `Group.paramType g p`: the type of the parameter `p` in a step of the group `g`.
* `StepSketch`: what the stub of a step is made of.
* `Story.sketches s`: the sketches of the steps of a story, in order.

## Main results

* `ofLine?_translateStep`: a step of a document has the stub of its sketch.
* `signature_stub_eq_iff`: sketches share a signature exactly when slots and skeletons are equal.
* `generated_steps_eq_firstOccurrences`: the stubs for a story are those of its first sketches.
-/

namespace StorySpec

/-! ## Sketches -/

/-- The type of a parameter in a step of a group.  It is that of the column which the parameter
names, if the group has a table with such a column, and otherwise the one of its written form. -/
def Group.paramType (g : Group) (p : Param) : ParamType :=
  match g.table with
  | .ok table =>
    if p.matcher.isPlaceholder = true ∧ table.hasColumn p.raw = true then table.columnType p.raw
    else p.matcher.candidateType
  | .error _ => p.matcher.candidateType

/-- The piece that a token leaves in a step of a group. -/
def Group.piece (g : Group) : Token → Piece
  | .literal text => .literal text
  | .param p => .param (g.paramType p)

/-- What the stub of a step is made of. -/
structure StepSketch where
  slot : Slot
  skeleton : List Piece
  text : Text
  deriving DecidableEq, Repr

/-- Whether two steps share a stub: their slots and their skeletons are equal. -/
def StepSketch.sharesStub (a b : StepSketch) : Bool :=
  a.slot == b.slot && a.skeleton == b.skeleton

/-- The stub of a step in a document of the language `l`. -/
def StepSketch.stub (k : StepSketch) (l : Language) : Stub where
  keyword := k.slot.word l
  pattern := k.skeleton.flatMap Piece.pattern
  arguments := Stub.argumentNames (k.skeleton.filterMap Piece.type?).length
  parameterTypes := k.skeleton.filterMap Piece.type?
  sourceText := k.text

/-- The sketch of a line of a group; only lines with a keyword have one. -/
def Group.sketch? (g : Group) (line : Text) : Option StepSketch :=
  (StepLine.ofText? line).map fun s =>
    { slot := s.slot, skeleton := (tokenize s.text).map g.piece, text := s.text }

/-- The sketches of the steps of a story, group by group and line by line. -/
def Story.sketches (s : Story) : List StepSketch :=
  s.groups.flatMap fun g => g.steps.filterMap g.sketch?

/-! ## The types of parameters -/

/-- Parameters come with the type of their written form. -/
theorem type_of_mem_tokenize {t : Text} {p : Param} (h : .param p ∈ tokenize t) :
    p.type = p.matcher.candidateType := by
  obtain ⟨u, rest, hfirst⟩ := exists_firstParam?_of_mem_tokenize h
  obtain ⟨m, -, hm⟩ := List.exists_of_findSome?_eq_some hfirst
  obtain ⟨found, -, hfound⟩ := Option.map_eq_some_iff.1 hm
  cases hfound
  rfl

/-- The table by which a section types the steps of its group. -/
def Group.typing (g : Group) : Option Table :=
  if g.isOutline then g.table.toOption else none

theorem Group.table_eq_error {g : Group} (h : g.isOutline = false) :
    g.table = .error .missingHeader := by
  have hnil : g.examples = [] := by simpa [Group.isOutline] using h
  simp [Group.table, hnil, Table.ofLines, exampleRows, Table.ofRows]

/-- The table of a section types a parameter as the group does. -/
theorem Group.type_typed_typing (g : Group) {p : Param}
    (h : p.type = p.matcher.candidateType) : (p.typed g.typing).type = g.paramType p := by
  -- a group without examples makes up no table, so nothing is lost when its section has none
  by_cases houtline : g.isOutline = true
  · cases htable : g.table with
    | ok table =>
      by_cases hcolumn : p.matcher.isPlaceholder = true ∧ table.hasColumn p.raw = true
      · simp [Group.typing, houtline, htable, Group.paramType, Param.typed, Except.toOption,
          hcolumn]
      · simp [Group.typing, houtline, htable, Group.paramType, Param.typed, Except.toOption,
          hcolumn, h]
    | error e =>
      simp [Group.typing, houtline, htable, Group.paramType, Param.typed, Except.toOption, h]
  · have hplain : g.isOutline = false := by simpa using houtline
    simp [Group.typing, hplain, Group.paramType, Group.table_eq_error hplain, Param.typed, h]

theorem Group.skeleton_typing (g : Group) (t : Text) :
    StepPattern.skeleton t g.typing = (tokenize t).map g.piece := by
  simp only [StepPattern.skeleton, StepPattern.tokens, List.map_map]
  refine List.map_congr_left fun token htoken => ?_
  cases token with
  | literal text => rfl
  | param p =>
    exact congrArg Piece.param (g.type_typed_typing (type_of_mem_tokenize htoken))

/-! ## The stubs of sketches -/

/-- **A step of a document** has the stub of its sketch. -/
theorem Group.ofLine?_translateStep (g : Group) (l : Language) (line : Text) :
    Stub.ofLine? (translateStep line l) g.typing = (g.sketch? line).map (StepSketch.stub · l) := by
  simp only [Stub.ofLine?, ofText?_translateStep, Group.sketch?, Option.map_map]
  refine congrArg (Option.map · _) (funext fun s => ?_)
  have htypes := StepPattern.types_ofText s.text g.typing
  have hlength := congrArg List.length htypes
  rw [List.length_map] at hlength
  simp only [Function.comp, StepSketch.stub, hlength, htypes, StepPattern.pattern_ofText,
    Group.skeleton_typing]

/-- The stubs of the steps of the document are those of the sketches of the story. -/
theorem Story.stubs_sections (s : Story) :
    (s.sections.flatMap fun shown =>
        shown.steps.filterMap (Stub.ofLine? · shown.table)) =
      s.sketches.map (StepSketch.stub · s.language) := by
  have hgroups : ∀ (n : Nat) (gs : List Group),
      ((sectionsOf s.language n gs).flatMap fun shown =>
          shown.steps.filterMap (Stub.ofLine? · shown.table)) =
        (gs.flatMap fun g => g.steps.filterMap g.sketch?).map
          (StepSketch.stub · s.language) := by
    intro n gs
    induction gs generalizing n with
    | nil => rfl
    | cons g gs ih =>
      by_cases hsteps : g.steps = []
      · simp [sectionsOf, hsteps, ih]
      · have hsection : (g.toSection s.language n).steps = g.translatedSteps s.language ∧
            (g.toSection s.language n).table = g.typing := by
          unfold Group.toSection Group.typing
          split <;> exact ⟨rfl, rfl⟩
        have hstubs : (g.toSection s.language n).steps.filterMap
              (Stub.ofLine? · (g.toSection s.language n).table) =
            (g.steps.filterMap g.sketch?).map (StepSketch.stub · s.language) := by
          rw [hsection.1, hsection.2, Group.translatedSteps, List.filterMap_map,
            List.map_filterMap]
          exact congrArg (List.filterMap · _)
            (funext fun line => g.ofLine?_translateStep s.language line)
        simp only [sectionsOf, hsteps, if_false, List.flatMap_cons, hstubs, ih, List.map_append]
  exact hgroups 0 s.groups

/-- The sketches of a story have skeletons of texts. -/
theorem Story.exists_skeleton_of_mem_sketches {s : Story} {k : StepSketch}
    (h : k ∈ s.sketches) : ∃ t table, k.skeleton = StepPattern.skeleton t table := by
  obtain ⟨g, -, hk⟩ := List.mem_flatMap.1 h
  obtain ⟨line, -, hline⟩ := List.mem_filterMap.1 hk
  obtain ⟨step, -, rfl⟩ := Option.map_eq_some_iff.1 hline
  exact ⟨step.text, g.typing, (g.skeleton_typing step.text).symm⟩

theorem Slot.word_injective {a b : Slot} {l : Language} (h : a.word l = b.word l) : a = b := by
  have hrecognise := Keyword.recognise?_word a l
  rw [h, Keyword.recognise?_word] at hrecognise
  cases hrecognise
  rfl

/-- **Sketches share a signature** exactly when their slots and their skeletons are equal. -/
theorem Story.signature_stub_eq_iff {s : Story} {a b : StepSketch} (ha : a ∈ s.sketches)
    (hb : b ∈ s.sketches) (l : Language) :
    (a.stub l).signature = (b.stub l).signature ↔ a.slot = b.slot ∧ a.skeleton = b.skeleton := by
  obtain ⟨t, table, hta⟩ := exists_skeleton_of_mem_sketches ha
  obtain ⟨u, table', htb⟩ := exists_skeleton_of_mem_sketches hb
  have hpattern : (StepPattern.ofText t table).pattern = (StepPattern.ofText u table').pattern ↔
      StepPattern.skeleton t table = StepPattern.skeleton u table' := StepPattern.pattern_eq_iff
  rw [StepPattern.pattern_ofText, StepPattern.pattern_ofText, ← hta, ← htb] at hpattern
  simp only [Stub.signature, StepSketch.stub, Signature.mk.injEq, hpattern]
  exact ⟨fun h => ⟨Slot.word_injective h.1, h.2⟩, fun h => ⟨congrArg (Slot.word · l) h.1, h.2⟩⟩

/-- Stubs of sketches have one signature exactly when the sketches share a stub. -/
theorem Story.sameSignature_stub {s : Story} {a b : StepSketch} (ha : a ∈ s.sketches)
    (hb : b ∈ s.sketches) (l : Language) :
    (a.stub l).sameSignature (b.stub l) = a.sharesStub b := by
  rw [Bool.eq_iff_iff]
  simp [Stub.sameSignature, StepSketch.sharesStub, signature_stub_eq_iff ha hb l]

/-- **The stubs for a story** are those of its first sketches: of all sketches with the same slot
and the same skeleton the first one has a stub, and the stubs are in the order of these. -/
theorem generated_steps_eq_firstOccurrences {settings : PipelineSettings} {t : Text}
    {story : Story} {feature : Feature} {steps : Synthesis}
    (h : Outcome.ofText settings t = .generated story feature steps) :
    (∀ a ∈ story.sketches, ∀ b ∈ story.sketches,
      (a.stub story.language).signature = (b.stub story.language).signature ↔
        a.slot = b.slot ∧ a.skeleton = b.skeleton) ∧
    steps =
      match story.sketches.eraseDupsBy StepSketch.sharesStub with
      | [] => .noSteps
      | firsts =>
        .stubs
          { featureName := feature.fileName
            language := story.language
            stubs := firsts.map (StepSketch.stub · story.language) } := by
  obtain ⟨-, -, hfeature, hsteps⟩ := Outcome.ofText_eq_generated_iff.1 h
  refine ⟨fun a ha b hb => Story.signature_stub_eq_iff ha hb story.language, ?_⟩
  have hstubs : sectionStubs feature.sections =
      (story.sketches.eraseDupsBy StepSketch.sharesStub).map
        (StepSketch.stub · story.language) := by
    rw [sectionStubs_eq, hfeature,
      show (Feature.ofStory story _).sections = story.sections from rfl, Story.stubs_sections]
    exact eraseDupsBy_map story.sketches fun a ha b hb =>
      Story.sameSignature_stub ha hb story.language
  have hlanguage : feature.language = story.language := by rw [hfeature]; rfl
  rw [hsteps, Synthesis.ofFeature, hstubs, hlanguage]
  cases story.sketches.eraseDupsBy StepSketch.sharesStub with
  | nil => rfl
  | cons first firsts => rfl

/-- A story with a table, whose first and last steps differ in a number only. -/
def cartStory : Text :=
  Text.unlines
    ["As a customer".toList, "I want to pay".toList, "So that the goods are mine".toList,
      "[SUCCESS]".toList, "Given a cart with 2 items".toList, "When I pay <amount>".toList,
      "[EXAMPLES]".toList, "| amount |".toList, "| 10 |".toList,
      "[FAILURE]".toList, "dado a cart with 5 items".toList]

/-- The story has a document; of its three sketches two share a stub. -/
theorem generated_steps_cartStory :
    let story := Story.ofText .english cartStory
    let feature := Feature.ofStory story 5
    Outcome.ofText { defaultLanguage := .english } cartStory =
        .generated story feature (Synthesis.ofFeature feature) ∧
      story.sketches.length = 3 ∧
      (story.sketches.eraseDupsBy StepSketch.sharesStub).length = 2 ∧
      Synthesis.ofFeature feature =
        match story.sketches.eraseDupsBy StepSketch.sharesStub with
        | [] => .noSteps
        | firsts =>
          .stubs
            { featureName := feature.fileName
              language := story.language
              stubs := firsts.map (StepSketch.stub · story.language) } := by
  intro story feature
  have hvalid : story.validate.isValid = true := by decide +kernel
  have hgenerated : Outcome.ofText { defaultLanguage := .english } cartStory =
      .generated story feature (Synthesis.ofFeature feature) :=
    Outcome.ofText_eq_generated_iff.2 ⟨rfl, hvalid, rfl, rfl⟩
  refine ⟨hgenerated, by decide +kernel, by decide +kernel, ?_⟩
  exact (generated_steps_eq_firstOccurrences hgenerated).2

end StorySpec
