import StorySpec.Command.Run
import StorySpec.Proofs.Command.FileSystem
import StorySpec.Proofs.Feature.FileName

/-!
# The documents of outcomes

What becomes of a story is written below the output directory: its document, and its step file if
there are stubs.  Both have the name of the document in their paths, so that two stories are written
to the same paths exactly when their documents have the same name.

## Main definitions

* `Outcome.feature? o`, `Outcome.stepFile? o`: the document and the step file, if there are any.
* `Outcome.documents o`: the texts that are written, with their paths.
* `Outcome.notices o root file`: what is printed when they are written below `root`.
* `Summary.count s o`: the counts with one more outcome.

## Main results

* `featurePath_injective`, `IsFileName.eq_of_stepsPath_eq`, `featurePath_ne_stepsPath`: documents of
  different names have different paths.
* `isPlain_featurePath`, `isPlain_stepsPath`: the paths are plain.
* `isWordName_of_feature?`, `isWordName_of_stepFile?`: the names of what is made of a story.
* `features_foldl_count`, `stepFiles_foldl_count`: what the counts at the end are.
-/

namespace StorySpec

open StorySpec.Path (IsPlain)

variable {name : Text} {settings : PipelineSettings} {t : Text} {o : Outcome}

/-! ## Paths -/

theorem featurePath_injective : Function.Injective featurePath :=
  fun _ _ h => List.append_cancel_right h

theorem IsFileName.noSlash_append (h : IsFileName name) {ending : Text} (hending : '/' ∉ ending) :
    '/' ∉ name ++ ending := by
  simp [h.noSlash, hending]

theorem IsFileName.stepsPath_eq (h : IsFileName name) :
    stepsPath name = stepsDirectory ++ '/' :: (name ++ "_steps.rb".toList) := by
  have hhead : (name ++ "_steps.rb".toList).head? ≠ some '/' :=
    fun hslash => h.noSlash_append (by decide) (List.mem_of_mem_head? hslash)
  rw [stepsPath, Path.append, if_neg (not_or.2 ⟨hhead, by decide⟩), if_neg (by decide)]

theorem IsFileName.eq_of_stepsPath_eq {other : Text} (h : IsFileName name) (h' : IsFileName other)
    (heq : stepsPath name = stepsPath other) : name = other := by
  rw [h.stepsPath_eq, h'.stepsPath_eq] at heq
  exact List.append_cancel_right (List.tail_eq_of_cons_eq (List.append_cancel_left heq))

/-- No document is written in place of a step file. -/
theorem featurePath_ne_stepsPath {other : Text} (hname : IsFileName name)
    (hother : IsFileName other) : featurePath name ≠ stepsPath other := by
  intro h
  have hslash : '/' ∈ featurePath name := by
    rw [h, hother.stepsPath_eq]
    simp
  exact hname.noSlash_append (by decide) hslash

/-- No document is written in place of the directory for step files. -/
theorem featurePath_ne_stepsDirectory (name : Text) : featurePath name ≠ stepsDirectory := by
  intro h
  have hlength : name.length + 8 = 5 := by
    simpa [featurePath, stepsDirectory] using congrArg List.length h
  omega

/-- A name with a long ending stands for no directory that is there already. -/
theorem ne_here_of_append {name ending : Text} (h : 2 < ending.length) :
    name ++ ending ≠ [] ∧ name ++ ending ≠ Path.here ∧ name ++ ending ≠ Path.up := by
  have hshort : ∀ other : Text, other.length ≤ 2 → name ++ ending ≠ other := by
    rintro other hother rfl
    rw [List.length_append] at hother
    omega
  exact ⟨hshort _ (by decide), hshort _ (by decide), hshort _ (by decide)⟩

theorem IsFileName.splitOn_featurePath (h : IsFileName name) :
    (featurePath name).splitOn '/' = [name ++ ".feature".toList] :=
  List.splitOn_eq_singleton (h.noSlash_append (by decide))

theorem IsFileName.splitOn_stepsPath (h : IsFileName name) :
    (stepsPath name).splitOn '/' = [stepsDirectory, name ++ "_steps.rb".toList] := by
  have hdirectory : stepsDirectory.splitOn '/' = [stepsDirectory] := by decide
  have hfile : (name ++ "_steps.rb".toList).splitOn '/' = [name ++ "_steps.rb".toList] :=
    List.splitOn_eq_singleton (h.noSlash_append (by decide))
  rw [List.splitOn] at hdirectory hfile ⊢
  rw [h.stepsPath_eq, List.splitOnP_append_cons _ _ (by decide), hdirectory, hfile]
  rfl

theorem isPlain_featurePath (h : IsFileName name) : IsPlain (featurePath name) := by
  intro part hpart
  rw [h.splitOn_featurePath] at hpart
  rw [List.mem_singleton.1 hpart]
  exact ne_here_of_append (by decide)

theorem isPlain_stepsPath (h : IsFileName name) : IsPlain (stepsPath name) := by
  intro part hpart
  rw [h.splitOn_stepsPath] at hpart
  rcases List.mem_cons.1 hpart with rfl | hpart
  · decide
  · rw [List.mem_singleton.1 hpart]
    exact ne_here_of_append (by decide)

/-! ## Documents and step files -/

namespace Outcome

/-- The document of a story, if it has one. -/
def feature? : Outcome → Option Feature
  | .rejected _ => none
  | .generated _ feature _ => some feature

/-- The step file of a story, if it has one. -/
def stepFile? : Outcome → Option StepFile
  | .generated _ _ (.stubs file) => some file
  | _ => none

/-- The texts that are written for a story, with their paths below the output directory. -/
def documents (o : Outcome) : List (Text × Text) :=
  (o.feature?.map fun feature => (featurePath feature.fileName, feature.text)).toList ++
    (o.stepFile?.map fun file => (stepsPath file.featureName, file.render)).toList

/-- What is printed when the texts for the story in a file are written below a directory. -/
def notices (o : Outcome) (root file : Text) : List Notice :=
  match o with
  | .rejected report => [.skipped file report.messages]
  | .generated _ _ .noSteps =>
    o.documents.map (fun doc => .created (Path.append root doc.1)) ++ [.noSteps file]
  | .generated _ _ (.stubs _) => o.documents.map fun doc => .created (Path.append root doc.1)

theorem mem_documents_iff {doc : Text × Text} :
    doc ∈ o.documents ↔
      (∃ feature, o.feature? = some feature ∧ doc = (featurePath feature.fileName, feature.text)) ∨
        ∃ file, o.stepFile? = some file ∧ doc = (stepsPath file.featureName, file.render) := by
  simp only [documents, List.mem_append, Option.mem_toList, Option.map_eq_some_iff,
    @eq_comm _ doc]

/-- The name of a document is made of words. -/
theorem isWordName_of_feature? {feature : Feature}
    (h : (ofText settings t).feature? = some feature) : IsWordName feature.fileName := by
  cases ho : ofText settings t with
  | rejected report =>
    rw [ho] at h
    cases h
  | generated story made steps =>
    rw [ho] at h
    cases h
    obtain ⟨-, -, rfl, -⟩ := ofText_eq_generated_iff.1 ho
    exact isWordName_suggestedFileName _ _

theorem isFileName_of_feature? {feature : Feature}
    (h : (ofText settings t).feature? = some feature) : IsFileName feature.fileName :=
  (isWordName_of_feature? h).isFileName

/-- A step file has the name of a document. -/
theorem exists_feature_of_stepFile? {file : StepFile}
    (h : (ofText settings t).stepFile? = some file) :
    ∃ feature, (ofText settings t).feature? = some feature ∧
      file.featureName = feature.fileName := by
  cases ho : ofText settings t with
  | rejected report =>
    rw [ho] at h
    cases h
  | generated story feature steps =>
    obtain ⟨-, -, -, hsteps⟩ := ofText_eq_generated_iff.1 ho
    rw [ho] at h
    cases steps with
    | noSteps => cases h
    | stubs made =>
      cases h
      refine ⟨feature, rfl, ?_⟩
      rw [Synthesis.eq_of_ofFeature hsteps.symm]

theorem isWordName_of_stepFile? {file : StepFile}
    (h : (ofText settings t).stepFile? = some file) : IsWordName file.featureName := by
  obtain ⟨feature, hfeature, hname⟩ := exists_feature_of_stepFile? h
  rw [hname]
  exact isWordName_of_feature? hfeature

theorem isFileName_of_stepFile? {file : StepFile}
    (h : (ofText settings t).stepFile? = some file) : IsFileName file.featureName :=
  (isWordName_of_stepFile? h).isFileName

/-- What is written for a story is written to plain paths. -/
theorem isPlain_of_mem_documents {doc : Text × Text}
    (h : doc ∈ (ofText settings t).documents) : IsPlain doc.1 := by
  rcases mem_documents_iff.1 h with ⟨feature, hfeature, rfl⟩ | ⟨file, hfile, rfl⟩
  · exact isPlain_featurePath (isFileName_of_feature? hfeature)
  · exact isPlain_stepsPath (isFileName_of_stepFile? hfile)

/-- A story is written to different paths. -/
theorem nodup_documents (settings : PipelineSettings) (t : Text) :
    ((ofText settings t).documents.map Prod.fst).Nodup := by
  cases hfile : (ofText settings t).stepFile? with
  | none => cases hfeature : (ofText settings t).feature? <;> simp [documents, hfile, hfeature]
  | some file =>
    obtain ⟨feature, hfeature, hname⟩ := exists_feature_of_stepFile? hfile
    have hne : featurePath feature.fileName ≠ stepsPath file.featureName :=
      featurePath_ne_stepsPath (isFileName_of_feature? hfeature) (isFileName_of_stepFile? hfile)
    simp [documents, hfile, hfeature, hne]

end Outcome

/-! ## Counts -/

namespace Summary

/-- The counts with what becomes of one more story. -/
def count (s : Summary) : Outcome → Summary
  | .rejected _ => { s with stories := s.stories + 1, skipped := s.skipped + 1 }
  | .generated _ _ .noSteps => { s with stories := s.stories + 1, features := s.features + 1 }
  | .generated _ _ (.stubs _) =>
    { s with
      stories := s.stories + 1
      features := s.features + 1
      stepFiles := s.stepFiles + 1 }

/-- The documents are counted. -/
theorem features_foldl_count (s : Summary) (outcomes : List Outcome) :
    (outcomes.foldl count s).features =
      s.features + (outcomes.filterMap Outcome.feature?).length := by
  induction outcomes generalizing s with
  | nil => rfl
  | cons o outcomes ih =>
    rw [List.foldl_cons, ih]
    cases o with
    | rejected report => rfl
    | generated story feature steps =>
      cases steps <;> simp [count, Outcome.feature?, Nat.add_right_comm, Nat.add_assoc]

/-- The step files are counted. -/
theorem stepFiles_foldl_count (s : Summary) (outcomes : List Outcome) :
    (outcomes.foldl count s).stepFiles =
      s.stepFiles + (outcomes.filterMap Outcome.stepFile?).length := by
  induction outcomes generalizing s with
  | nil => rfl
  | cons o outcomes ih =>
    rw [List.foldl_cons, ih]
    cases o with
    | rejected report => rfl
    | generated story feature steps =>
      cases steps with
      | noSteps => rfl
      | stubs file => simp [count, Outcome.stepFile?, Nat.add_right_comm, Nat.add_assoc]

end Summary

end StorySpec
