import Mathlib.Data.Finset.Card
import StorySpec.Proofs.Command.Documents
import StorySpec.Proofs.Command.Exec

/-!
# Runs that write

A run takes one story file after the other.  Each story is read when the texts for those before it
have been written, and what becomes of it is written before the next one is read.  At the end the
files hold what has been written to them last, and the counts are printed.

The documents of two stories have the same name when the first words of what is wanted are the same.
The second one is then written in place of the first, and both are counted.

## Main definitions

* `IsGenerated settings w file o w'`: what the story in one file does to a world.
* `IsRun settings w files outcomes w'`: what the stories in some files do to a world.
* `IsKept settings outcomes fs`: the files hold the last of the outcomes of every name.
* `IsCounted outcomes s`: how many files there are for some outcomes.

## Main results

* `exists_isGenerated_of_exec_generateFile`: one step of a run.
* `exists_isRun_of_exec_foldlM`, `exists_isRun_of_exec_generateAll`: all steps, and a whole run.
* `IsRun.writeAll`: a run writes the documents of all outcomes, one after the other.
* `isKept_of_exec_generateAll`: what a run that writes leaves behind.
-/

namespace StorySpec

open StorySpec.Path (IsPlain)

variable {settings : Settings} {w w' : World} {file : Text} {files : List Text} {o : Outcome}
  {outcomes : List Outcome} {s s' : Summary}

/-! ## One story -/

/-- What the story in a file does to a world: it becomes an outcome, and what there is to write for
the outcome is written and said to be. -/
structure IsGenerated (settings : Settings) (w : World) (file : Text) (o : Outcome) (w' : World) :
    Prop where
  read : ∃ t, w.files.readText file = .ok t ∧ o = Outcome.ofText settings.pipeline t
  files : w.files.writeAll settings.outputDirectory o.documents = .ok w'.files
  written : w'.written = w.written ++ o.documents
  notices : w'.notices = w.notices ++ o.notices settings.outputDirectory file

/-- **One step of a run.** -/
theorem exists_isGenerated_of_exec_generateFile
    (h : w.exec (generateFile settings false s file) = (.ok s', w')) :
    ∃ o, IsGenerated settings w file o w' ∧ s' = s.count o := by
  unfold generateFile at h
  obtain ⟨t, _, hinput, hrest⟩ := World.exec_bind_eq_ok_iff.1 h
  obtain ⟨hread, rfl⟩ := World.exec_readInput_eq_ok_iff.1 hinput
  refine ⟨Outcome.ofText settings.pipeline t, ?_⟩
  dsimp only at hrest
  split at hrest
  · rename_i report houtcome
    rw [World.exec_announce_bind_pure] at hrest
    cases hrest
    rw [houtcome]
    exact ⟨⟨⟨t, hread, houtcome.symm⟩, rfl, (List.append_nil _).symm, rfl⟩, rfl⟩
  · rename_i story feature steps houtcome
    obtain ⟨⟨⟩, _, hfeature, hsteps⟩ := World.exec_bind_eq_ok_iff.1 hrest
    obtain ⟨_, hwrite, rfl⟩ := World.exec_produce_eq_ok_iff.1 hfeature
    rw [houtcome]
    cases steps with
    | noSteps =>
      dsimp only at hsteps
      rw [World.exec_announce_bind_pure] at hsteps
      cases hsteps
      refine ⟨⟨⟨t, hread, houtcome.symm⟩, ?_, rfl, List.append_assoc _ _ _⟩, rfl⟩
      exact FileSystem.writeAll_cons_eq_ok_iff.2 ⟨_, hwrite, rfl⟩
    | stubs stepFile =>
      obtain ⟨⟨⟩, _, hfile, hend⟩ := World.exec_bind_eq_ok_iff.1 hsteps
      obtain ⟨_, hwrite', rfl⟩ := World.exec_produce_eq_ok_iff.1 hfile
      cases hend
      refine ⟨⟨⟨t, hread, houtcome.symm⟩, ?_, List.append_assoc _ _ _,
        List.append_assoc _ _ _⟩, rfl⟩
      exact FileSystem.writeAll_cons_eq_ok_iff.2
        ⟨_, hwrite, FileSystem.writeAll_cons_eq_ok_iff.2 ⟨_, hwrite', rfl⟩⟩

/-! ## All stories -/

/-- What the stories in some files do to a world, one after the other. -/
inductive IsRun (settings : Settings) : World → List Text → List Outcome → World → Prop
  | nil (w : World) : IsRun settings w [] [] w
  | cons {w w₁ w' : World} {file : Text} {files : List Text} {o : Outcome}
      {outcomes : List Outcome} (first : IsGenerated settings w file o w₁)
      (rest : IsRun settings w₁ files outcomes w') :
      IsRun settings w (file :: files) (o :: outcomes) w'

/-- **All steps of a run** make up a run. -/
theorem exists_isRun_of_exec_foldlM
    (h : w.exec (files.foldlM (generateFile settings false) s) = (.ok s', w')) :
    ∃ outcomes, IsRun settings w files outcomes w' ∧ s' = outcomes.foldl Summary.count s := by
  induction files generalizing w s with
  | nil =>
    cases h
    exact ⟨[], .nil _, rfl⟩
  | cons file files ih =>
    rw [List.foldlM_cons] at h
    obtain ⟨counted, w₁, hfirst, hrest⟩ := World.exec_bind_eq_ok_iff.1 h
    obtain ⟨o, hgenerated, rfl⟩ := exists_isGenerated_of_exec_generateFile hfirst
    obtain ⟨outcomes, hrun, rfl⟩ := ih hrest
    exact ⟨o :: outcomes, .cons hgenerated hrun, rfl⟩

/-- **A whole run** opens the output directory, takes the stories and prints the counts. -/
theorem exists_isRun_of_exec_generateAll {status : Status}
    (h : w.exec (generateAll settings false files) = (.ok status, w')) :
    ∃ opened last outcomes, w.openOutput settings.outputDirectory = (.ok (), opened) ∧
      IsRun settings opened files outcomes last ∧
      w' = last.print [.summary (outcomes.foldl Summary.count {})] ∧ status = .success := by
  unfold generateAll at h
  obtain ⟨⟨⟩, opened, hopen, hrest⟩ := World.exec_bind_eq_ok_iff.1 h
  obtain ⟨summary, last, hfold, hend⟩ := World.exec_bind_eq_ok_iff.1 hrest
  obtain ⟨outcomes, hrun, rfl⟩ := exists_isRun_of_exec_foldlM hfold
  rw [World.exec_announce_bind_pure] at hend
  cases hend
  exact ⟨opened, last, outcomes, World.exec_openOutput_eq_ok_iff.1 hopen, hrun, rfl, rfl⟩

namespace IsRun

/-- Every outcome is that of a text. -/
theorem exists_ofText (h : IsRun settings w files outcomes w') :
    ∀ o ∈ outcomes, ∃ t, o = Outcome.ofText settings.pipeline t := by
  induction h with
  | nil => exact fun o ho => absurd ho List.not_mem_nil
  | cons first rest ih =>
    obtain ⟨t, -, houtcome⟩ := first.read
    exact List.forall_mem_cons.2 ⟨⟨t, houtcome⟩, ih⟩

/-- **The documents of all outcomes** are written, one after the other. -/
theorem writeAll (h : IsRun settings w files outcomes w') :
    w.files.writeAll settings.outputDirectory (outcomes.flatMap Outcome.documents) =
      .ok w'.files := by
  induction h with
  | nil => rfl
  | cons first rest ih =>
    rw [List.flatMap_cons]
    exact FileSystem.writeAll_append_eq_ok_iff.2 ⟨_, first.files, ih⟩

theorem written (h : IsRun settings w files outcomes w') :
    w'.written = w.written ++ outcomes.flatMap Outcome.documents := by
  induction h with
  | nil => simp
  | cons first rest ih => rw [ih, first.written, List.append_assoc, List.flatMap_cons]

theorem isPlain (h : IsRun settings w files outcomes w') {doc : Text × Text}
    (hdoc : doc ∈ outcomes.flatMap Outcome.documents) : IsPlain doc.1 := by
  obtain ⟨o, ho, hmem⟩ := List.mem_flatMap.1 hdoc
  obtain ⟨t, rfl⟩ := h.exists_ofText o ho
  exact Outcome.isPlain_of_mem_documents hmem

/-- What is written for a story is there at the end, if nothing is written to its path for the
stories after it. -/
theorem holds {before after : List Outcome} (h : IsRun settings w files (before ++ o :: after) w')
    {doc : Text × Text} (hdoc : doc ∈ o.documents)
    (hafter : ∀ later ∈ after.flatMap Outcome.documents, doc.1 ≠ later.1) :
    w'.files.Holds settings.outputDirectory doc.1 doc.2 := by
  obtain ⟨t, rfl⟩ := h.exists_ofText o (by simp)
  have hplain : ∀ later ∈ (before ++ Outcome.ofText settings.pipeline t :: after).flatMap
      Outcome.documents, IsPlain later.1 := fun later => h.isPlain
  have hnodup := Outcome.nodup_documents settings.pipeline t
  have hwrite := h.writeAll
  obtain ⟨front, rest, hsplit⟩ := List.append_of_mem hdoc
  rw [hsplit, List.map_append, List.map_cons, List.nodup_append] at hnodup
  rw [List.flatMap_append, List.flatMap_cons, hsplit] at hwrite hplain
  -- behind the text stand the other texts of its story and those of the stories after it
  rw [List.append_assoc, List.cons_append, ← List.append_assoc] at hwrite
  apply FileSystem.holds_of_writeAll (hplain doc (by simp)) _ hwrite
  intro later hlater
  refine ⟨hplain later (by simp_all), ?_⟩
  rcases List.mem_append.1 hlater with hlater | hlater
  · intro heq
    exact (List.nodup_cons.1 hnodup.2.1).1 (heq ▸ List.mem_map_of_mem hlater)
  · exact hafter later hlater

end IsRun

/-! ## What is left behind -/

/-- What the files below the output directory hold when all outcomes have been written: the document
of a story, unless a later story has a document of the same name, and the step file of a story,
unless a later story has a step file of that name. -/
structure IsKept (settings : Settings) (outcomes : List Outcome) (fs : FileSystem) : Prop where
  feature : ∀ before story feature steps after,
    outcomes = before ++ .generated story feature steps :: after →
      (∀ later ∈ after.filterMap Outcome.feature?, later.fileName ≠ feature.fileName) →
        fs.Holds settings.outputDirectory (featurePath feature.fileName) feature.text
  stepFile : ∀ before story feature file after,
    outcomes = before ++ .generated story feature (.stubs file) :: after →
      (∀ later ∈ after.filterMap Outcome.stepFile?, later.featureName ≠ feature.fileName) →
        fs.Holds settings.outputDirectory (stepsPath feature.fileName) file.render

/-- The paths of the documents of some outcomes. -/
def featurePaths (outcomes : List Outcome) : List Text :=
  (outcomes.filterMap Outcome.feature?).map fun feature => featurePath feature.fileName

/-- The paths of the step files of some outcomes. -/
def stepsPaths (outcomes : List Outcome) : List Text :=
  (outcomes.filterMap Outcome.stepFile?).map fun file => stepsPath file.featureName

/-- How many documents and step files there are for some outcomes.  There are as many files of
either kind as are counted exactly when no two of them have the same name. -/
structure IsCounted (outcomes : List Outcome) (s : Summary) : Prop where
  /-- What is written is a document or a step file. -/
  paths : ∀ path, path ∈ (outcomes.flatMap Outcome.documents).map Prod.fst ↔
    path ∈ featurePaths outcomes ∨ path ∈ stepsPaths outcomes
  features : s.features = (outcomes.filterMap Outcome.feature?).length
  stepFiles : s.stepFiles = (outcomes.filterMap Outcome.stepFile?).length
  features_iff : (featurePaths outcomes).toFinset.card = s.features ↔
    ((outcomes.filterMap Outcome.feature?).map Feature.fileName).Nodup
  stepFiles_iff : (stepsPaths outcomes).toFinset.card = s.stepFiles ↔
    ((outcomes.filterMap Outcome.stepFile?).map StepFile.featureName).Nodup

theorem mem_map_documents_iff {path : Text} :
    path ∈ (outcomes.flatMap Outcome.documents).map Prod.fst ↔
      path ∈ featurePaths outcomes ∨ path ∈ stepsPaths outcomes := by
  simp only [List.mem_map, List.mem_flatMap, Outcome.mem_documents_iff, featurePaths, stepsPaths,
    List.mem_filterMap]
  constructor
  · rintro ⟨doc, ⟨o, ho, ⟨feature, hfeature, rfl⟩ | ⟨file, hfile, rfl⟩⟩, rfl⟩
    · exact Or.inl ⟨feature, ⟨o, ho, hfeature⟩, rfl⟩
    · exact Or.inr ⟨file, ⟨o, ho, hfile⟩, rfl⟩
  · rintro (⟨feature, ⟨o, ho, hfeature⟩, rfl⟩ | ⟨file, ⟨o, ho, hfile⟩, rfl⟩)
    · exact ⟨_, ⟨o, ho, Or.inl ⟨feature, hfeature, rfl⟩⟩, rfl⟩
    · exact ⟨_, ⟨o, ho, Or.inr ⟨file, hfile, rfl⟩⟩, rfl⟩

/-- Where different names lead to different paths, there are as many paths as things that are named
exactly when no two of these have the same name. -/
theorem card_paths_eq_length_iff {α : Type} {named : List α} {name : α → Text}
    {path : Text → Text}
    (h : ∀ a ∈ named, ∀ b ∈ named, path (name a) = path (name b) → name a = name b) :
    (named.map fun a => path (name a)).toFinset.card = named.length ↔ (named.map name).Nodup := by
  have hmap : (named.map fun a => path (name a)) = (named.map name).map path := by simp
  have hlength : named.length = ((named.map name).map path).length := by simp
  rw [hmap, hlength]
  apply Multiset.toFinset_card_eq_card_iff_nodup.trans
  refine ⟨List.Nodup.of_map path, List.Nodup.map_on ?_⟩
  rintro _ hfirst _ hsecond
  obtain ⟨a, ha, rfl⟩ := List.mem_map.1 hfirst
  obtain ⟨b, hb, rfl⟩ := List.mem_map.1 hsecond
  exact h a ha b hb

namespace IsRun

theorem isFileName_of_feature? (h : IsRun settings w files outcomes w') (ho : o ∈ outcomes)
    {feature : Feature} (hfeature : o.feature? = some feature) : IsFileName feature.fileName := by
  obtain ⟨t, rfl⟩ := h.exists_ofText o ho
  exact Outcome.isFileName_of_feature? hfeature

theorem isFileName_of_stepFile? (h : IsRun settings w files outcomes w') (ho : o ∈ outcomes)
    {file : StepFile} (hfile : o.stepFile? = some file) : IsFileName file.featureName := by
  obtain ⟨t, rfl⟩ := h.exists_ofText o ho
  exact Outcome.isFileName_of_stepFile? hfile

/-- The document of a story is there at the end, unless a later one has the same name. -/
theorem holds_feature {before after : List Outcome}
    (h : IsRun settings w files (before ++ o :: after) w') {feature : Feature}
    (hfeature : o.feature? = some feature)
    (hlater : ∀ later ∈ after.filterMap Outcome.feature?, later.fileName ≠ feature.fileName) :
    w'.files.Holds settings.outputDirectory (featurePath feature.fileName) feature.text := by
  apply h.holds (Outcome.mem_documents_iff.2 (Or.inl ⟨feature, hfeature, rfl⟩))
  intro doc hdoc
  obtain ⟨other, hother, hmem⟩ := List.mem_flatMap.1 hdoc
  rcases Outcome.mem_documents_iff.1 hmem with ⟨later, hfound, rfl⟩ | ⟨file, hfile, rfl⟩
  · intro heq
    exact hlater later (List.mem_filterMap.2 ⟨other, hother, hfound⟩)
      (featurePath_injective heq).symm
  · exact featurePath_ne_stepsPath (h.isFileName_of_feature? (by simp) hfeature)
      (h.isFileName_of_stepFile? (by simp [hother]) hfile)

/-- The step file of a story is there at the end, unless a later one has the same name. -/
theorem holds_stepFile {before after : List Outcome}
    (h : IsRun settings w files (before ++ o :: after) w') {file : StepFile}
    (hfile : o.stepFile? = some file)
    (hlater : ∀ later ∈ after.filterMap Outcome.stepFile?,
      later.featureName ≠ file.featureName) :
    w'.files.Holds settings.outputDirectory (stepsPath file.featureName) file.render := by
  have hname := h.isFileName_of_stepFile? (by simp) hfile
  apply h.holds (Outcome.mem_documents_iff.2 (Or.inr ⟨file, hfile, rfl⟩))
  intro doc hdoc
  obtain ⟨other, hother, hmem⟩ := List.mem_flatMap.1 hdoc
  rcases Outcome.mem_documents_iff.1 hmem with ⟨feature, hfeature, rfl⟩ | ⟨later, hfound, rfl⟩
  · exact (featurePath_ne_stepsPath
      (h.isFileName_of_feature? (by simp [hother]) hfeature) hname).symm
  · intro heq
    have hlaterName := h.isFileName_of_stepFile? (by simp [hother]) hfound
    exact hlater later (List.mem_filterMap.2 ⟨other, hother, hfound⟩)
      (hname.eq_of_stepsPath_eq hlaterName heq).symm

/-- **What a run leaves behind** is what was written last to each path. -/
theorem isKept (h : IsRun settings w files outcomes w') : IsKept settings outcomes w'.files := by
  constructor
  · rintro before story feature steps after rfl hlater
    exact h.holds_feature rfl hlater
  · rintro before story feature file after rfl hlater
    obtain ⟨t, ht⟩ := h.exists_ofText (.generated story feature (.stubs file)) (by simp)
    have hname : file.featureName = feature.fileName := by
      rw [Synthesis.eq_of_ofFeature (Outcome.ofText_eq_generated_iff.1 ht.symm).2.2.2.symm]
    rw [← hname] at hlater ⊢
    exact h.holds_stepFile rfl hlater

/-- **The counts of a run** are those of the documents and step files of its outcomes. -/
theorem isCounted (h : IsRun settings w files outcomes w') :
    IsCounted outcomes (outcomes.foldl Summary.count {}) := by
  have hfeatures : (outcomes.foldl Summary.count {}).features =
      (outcomes.filterMap Outcome.feature?).length := by
    simpa using Summary.features_foldl_count {} outcomes
  have hstepFiles : (outcomes.foldl Summary.count {}).stepFiles =
      (outcomes.filterMap Outcome.stepFile?).length := by
    simpa using Summary.stepFiles_foldl_count {} outcomes
  refine ⟨fun _ => mem_map_documents_iff, hfeatures, hstepFiles, ?_, ?_⟩
  · rw [hfeatures]
    exact card_paths_eq_length_iff fun _ _ _ _ heq => featurePath_injective heq
  · rw [hstepFiles]
    refine card_paths_eq_length_iff fun a ha b hb heq => ?_
    obtain ⟨o, ho, hfile⟩ := List.mem_filterMap.1 ha
    obtain ⟨o', ho', hfile'⟩ := List.mem_filterMap.1 hb
    exact (h.isFileName_of_stepFile? ho hfile).eq_of_stepsPath_eq
      (h.isFileName_of_stepFile? ho' hfile') heq

end IsRun

theorem written_openOutput {root : Text} {result : Except FileError Unit}
    (h : w.openOutput root = (result, w')) : w'.written = w.written := by
  unfold World.openOutput at h
  split at h
  · cases h
    rfl
  · split at h
    cases h
    rfl

/-- **What a run that writes leaves behind.**  The stories are taken in order, and what becomes of
them is written.  At the end every file holds what was written to it last, so that a story keeps its
document and its step file unless a later one has the same name; and the counts that are printed are
those of the files exactly when no two stories have the same name. -/
theorem isKept_of_exec_generateAll {status : Status}
    (h : w.exec (generateAll settings false files) = (.ok status, w')) :
    ∃ opened last outcomes summary,
      w.openOutput settings.outputDirectory = (.ok (), opened) ∧
      IsRun settings opened files outcomes last ∧
      w' = last.print [.summary summary] ∧
      w'.written = w.written ++ outcomes.flatMap Outcome.documents ∧
      IsKept settings outcomes w'.files ∧ IsCounted outcomes summary := by
  obtain ⟨opened, last, outcomes, hopen, hrun, rfl, -⟩ := exists_isRun_of_exec_generateAll h
  refine ⟨opened, last, outcomes, _, hopen, hrun, rfl, ?_, hrun.isKept, hrun.isCounted⟩
  rw [← written_openOutput hopen]
  exact hrun.written

/-- A story about bread. -/
def breadStory (time step : Text) : Text :=
  Text.unlines
    ["As a baker".toList, "I want to bake bread ".toList ++ time, "So that we can eat".toList,
      "[SUCCESS]".toList, step]

/-- Two stories whose documents have the same name, and a text that is no story. -/
def bakery : World where
  files := .ofFiles
    [("a.txt".toList, .text (breadStory "today".toList "Given some flour".toList)),
      ("b.txt".toList, .text (breadStory "tomorrow".toList "Given some rye".toList)),
      ("c.txt".toList, .text "Bread".toList)]

/-- The three files are taken without a failure. -/
theorem isKept_bakery :
    let settings : Settings := { defaultLanguage := .english }
    let files := ["a.txt".toList, "b.txt".toList, "c.txt".toList]
    let w' := (bakery.exec (generateAll settings false files)).2
    bakery.exec (generateAll settings false files) = (.ok .success, w') ∧
      ∃ opened last outcomes summary,
        bakery.openOutput settings.outputDirectory = (.ok (), opened) ∧
        IsRun settings opened files outcomes last ∧
        w' = last.print [.summary summary] ∧
        w'.written = bakery.written ++ outcomes.flatMap Outcome.documents ∧
        IsKept settings outcomes w'.files ∧ IsCounted outcomes summary := by
  intro settings files w'
  have hsuccess : (bakery.exec (generateAll settings false files)).1 = .ok .success := by
    decide +kernel
  have hrun : bakery.exec (generateAll settings false files) = (.ok .success, w') :=
    Prod.ext hsuccess rfl
  exact ⟨hrun, isKept_of_exec_generateAll hrun⟩

/-- The first story is counted, but the second one is written in its place. -/
theorem not_holds_bakery :
    let settings : Settings := { defaultLanguage := .english }
    let run := bakery.exec (generateAll settings false ["a.txt".toList, "b.txt".toList])
    let first := Outcome.ofText settings.pipeline
      (breadStory "today".toList "Given some flour".toList)
    let second := Outcome.ofText settings.pipeline
      (breadStory "tomorrow".toList "Given some rye".toList)
    run.1 = .ok .success ∧
      run.2.notices.getLast? =
        some (.summary { stories := 2, features := 2, stepFiles := 2, skipped := 0 }) ∧
      (∃ feature ∈ first.feature?,
        ¬ run.2.files.Holds settings.outputDirectory (featurePath feature.fileName)
          feature.text) ∧
      (∃ file ∈ first.stepFile?,
        ¬ run.2.files.Holds settings.outputDirectory (stepsPath file.featureName) file.render) ∧
      (featurePaths [first, second]).toFinset.card = 1 ∧
      (stepsPaths [first, second]).toFinset.card = 1 := by
  decide +kernel

end StorySpec
