import StorySpec.Proofs.Command.Unreadable

/-!
# What a run leaves as it is

A run that makes documents writes to the paths of documents and step files, whose names are made of
words, and everything else stays as it is, however the run ends.  Before it writes, it makes the
directories that it writes to; those that were there stay, with all that is in them.

No action of a run writes anything else, and so does none of the actions that are put together from
them.  What has been written in the end is a list of texts, one after the other, from which it can
be told where the file system differs.

## Main definitions

* `IsOutputFile path names`: the path of a document or of a step file, and the names in it.
* `HasWritten root dryRun w docs w'`: the texts `docs` have been written, and to such paths.
* `OnlyWrites root dryRun action`: the action does nothing to files but write such texts.
* `IsConfined root dryRun w docs w'`: nothing is changed but what belongs to the output.

## Main results

* `IsOutputFile.splitOn_eq`, `IsOutputFile.isPlain`: the paths are what they look like.
* `onlyWrites_produce`, `onlyWrites_generateFile`, `onlyWrites_foldlM`: every step of a run.
* `HasWritten.isConfined`: what is left as it is when texts have been written.
* `isConfined_exec_generateAll`: what a run does, with the names that it gives.
-/

namespace StorySpec

open StorySpec.Path (IsPlain)

variable {α β : Type} {settings : Settings} {dryRun : Bool} {w w' w₁ : World}
  {root path : Text} {names : List Text} {docs docs' : List (Text × Text)} {place : Place}

/-! ## Output files -/

/-- The path of a document or of a step file below the output directory, and the names in it. -/
inductive IsOutputFile : Text → List Text → Prop
  | feature {name : Text} (h : IsWordName name) :
    IsOutputFile (featurePath name) [name ++ ".feature".toList]
  | steps {name : Text} (h : IsWordName name) :
    IsOutputFile (stepsPath name) [stepsDirectory, name ++ "_steps.rb".toList]

namespace IsOutputFile

/-- The names are what stands between the slashes of the path. -/
theorem splitOn_eq (h : IsOutputFile path names) : path.splitOn '/' = names := by
  cases h with
  | feature h => exact h.isFileName.splitOn_featurePath
  | steps h => exact h.isFileName.splitOn_stepsPath

/-- No name leads to a directory that is there already. -/
theorem isPlain (h : IsOutputFile path names) : IsPlain path := by
  cases h with
  | feature h => exact isPlain_featurePath h.isFileName
  | steps h => exact isPlain_stepsPath h.isFileName

/-- The path leads from the output directory to the place that is made of the names. -/
theorem exists_locate_of_placeBelow (h : IsOutputFile path names) {fs : FileSystem}
    (hplace : fs.placeBelow root path = .ok place) :
    ∃ dir, fs.locate root = .ok dir ∧ place = dir ++ names := by
  obtain ⟨dir, hdir, hfrom⟩ := FileSystem.placeBelow_eq_ok_iff.1 hplace
  obtain ⟨-, -, hfollow⟩ := FileSystem.locateFrom_eq_ok_iff.1 hfrom
  refine ⟨dir, hdir, ?_⟩
  rw [FileSystem.eq_append_of_follow (fun _ => h.isPlain.of_mem_steps) hfollow, h.isPlain.steps_eq,
    h.splitOn_eq]

end IsOutputFile

/-! ## What an action writes -/

/-- Texts have been written one after the other, none on a dry run, and only to the paths of
documents and step files. -/
structure HasWritten (root : Text) (dryRun : Bool) (w : World) (docs : List (Text × Text))
    (w' : World) : Prop where
  written : w'.written = w.written ++ docs
  files : w.files.writeAll root docs = .ok w'.files
  paths : ∀ doc ∈ docs, dryRun = false ∧ ∃ names, IsOutputFile doc.1 names

namespace HasWritten

theorem refl (root : Text) (dryRun : Bool) (w : World) : HasWritten root dryRun w [] w where
  written := (List.append_nil _).symm
  files := rfl
  paths := fun _ h => absurd h List.not_mem_nil

theorem trans (h : HasWritten root dryRun w docs w₁) (h' : HasWritten root dryRun w₁ docs' w') :
    HasWritten root dryRun w (docs ++ docs') w' where
  written := by rw [h'.written, h.written, List.append_assoc]
  files := FileSystem.writeAll_append_eq_ok_iff.2 ⟨_, h.files, h'.files⟩
  paths := by
    intro doc hdoc
    rcases List.mem_append.1 hdoc with hdoc | hdoc
    · exact h.paths doc hdoc
    · exact h'.paths doc hdoc

/-- Nothing is written on a dry run. -/
theorem docs_eq_nil (h : HasWritten root true w docs w') : docs = [] := by
  cases docs with
  | nil => rfl
  | cons doc docs => exact absurd (h.paths doc List.mem_cons_self).1 (by decide)

end HasWritten

/-- Whatever the world is and whether it fails or not, the action does nothing to files but write
texts to the paths of documents and step files. -/
def OnlyWrites (root : Text) (dryRun : Bool) (action : ExceptT Failure (StateM World) α) : Prop :=
  ∀ w : World, ∃ docs, HasWritten root dryRun w docs (w.exec action).2

section Actions

variable {action : ExceptT Failure (StateM World) α}
  {next : α → ExceptT Failure (StateM World) β}

/-- What has been written when an action has been followed by another one, or has failed before. -/
theorem exists_hasWritten_bind (w : World) (action : ExceptT Failure (StateM World) α)
    (hnext : ∀ a, OnlyWrites root dryRun (next a)) :
    ∃ docs, HasWritten root dryRun (w.exec action).2 docs (w.exec (action >>= next)).2 := by
  rcases haction : w.exec action with ⟨result, w₁⟩
  cases result with
  | ok a =>
    rw [World.exec_bind_of_ok haction]
    exact hnext a w₁
  | error f =>
    rw [World.exec_bind_of_error haction]
    exact ⟨[], HasWritten.refl root dryRun w₁⟩

theorem onlyWrites_bind (h : OnlyWrites root dryRun action)
    (hnext : ∀ a, OnlyWrites root dryRun (next a)) : OnlyWrites root dryRun (action >>= next) := by
  intro w
  obtain ⟨docs, hfirst⟩ := h w
  obtain ⟨docs', hrest⟩ := exists_hasWritten_bind w action hnext
  exact ⟨docs ++ docs', hfirst.trans hrest⟩

theorem onlyWrites_pure (a : α) :
    OnlyWrites root dryRun (pure a : ExceptT Failure (StateM World) α) :=
  fun w => ⟨[], HasWritten.refl root dryRun w⟩

/-- Printing changes no file. -/
theorem onlyWrites_announce (n : Notice) :
    OnlyWrites root dryRun (announce n : ExceptT Failure (StateM World) Unit) :=
  fun _ => ⟨[], (List.append_nil _).symm, rfl, fun _ h => absurd h List.not_mem_nil⟩

theorem onlyWrites_readInput (file : Text) :
    OnlyWrites root dryRun (readInput file : ExceptT Failure (StateM World) Text) := by
  intro w
  refine ⟨[], ?_⟩
  rw [readInput, World.exec_orFail_snd, World.run_readText]
  exact HasWritten.refl root dryRun w

/-- A text is written where its path leads to, or nothing is. -/
theorem onlyWrites_writeOutput (h : IsOutputFile path names) (failure : FileError → Failure)
    (t : Text) :
    OnlyWrites root false
      (orFail failure (Workspace.writeOutput root path t) :
        ExceptT Failure (StateM World) Unit) := by
  intro w
  rw [World.exec_orFail_snd, World.run_writeOutput, World.writeOutput]
  cases hwrite : w.files.writeText root path t with
  | error e => exact ⟨[], HasWritten.refl root false w⟩
  | ok files =>
    refine ⟨[(path, t)], rfl, FileSystem.writeAll_cons_eq_ok_iff.2 ⟨files, hwrite, rfl⟩, ?_⟩
    intro doc hdoc
    rw [List.mem_singleton.1 hdoc]
    exact ⟨rfl, names, h⟩

theorem onlyWrites_produce (h : IsOutputFile path names) (failure : FileError → Failure)
    (t : Text) :
    OnlyWrites settings.outputDirectory dryRun
      (produce settings dryRun failure path t : ExceptT Failure (StateM World) Unit) := by
  cases dryRun with
  | true => exact onlyWrites_announce _
  | false => exact onlyWrites_bind (onlyWrites_writeOutput h failure t) fun _ =>
      onlyWrites_announce _

end Actions

/-! ## The steps of a run -/

/-- **Every step of a run** writes what there is for its story, as far as it can be written. -/
theorem onlyWrites_generateFile (settings : Settings) (dryRun : Bool) (s : Summary) (file : Text) :
    OnlyWrites settings.outputDirectory dryRun
      (generateFile settings dryRun s file : ExceptT Failure (StateM World) Summary) := by
  unfold generateFile
  refine onlyWrites_bind (onlyWrites_readInput file) fun t => ?_
  dsimp only
  cases houtcome : Outcome.ofText settings.pipeline t with
  | rejected report => exact onlyWrites_bind (onlyWrites_announce _) fun _ => onlyWrites_pure _
  | generated story feature steps =>
    have hfeature : (Outcome.ofText settings.pipeline t).feature? = some feature := by
      rw [houtcome]
      rfl
    have hname := Outcome.isWordName_of_feature? hfeature
    refine onlyWrites_bind (onlyWrites_produce (.feature hname) _ _) fun _ => ?_
    cases steps with
    | noSteps => exact onlyWrites_bind (onlyWrites_announce _) fun _ => onlyWrites_pure _
    | stubs stepFile =>
      have hfile : (Outcome.ofText settings.pipeline t).stepFile? = some stepFile := by
        rw [houtcome]
        rfl
      have hname' := Outcome.isWordName_of_stepFile? hfile
      exact onlyWrites_bind (onlyWrites_produce (.steps hname') _ _) fun _ => onlyWrites_pure _

/-- All steps of a run, whichever of them is the last one. -/
theorem onlyWrites_foldlM (settings : Settings) (dryRun : Bool) (files : List Text) (s : Summary) :
    OnlyWrites settings.outputDirectory dryRun
      (files.foldlM (generateFile settings dryRun) s :
        ExceptT Failure (StateM World) Summary) := by
  induction files generalizing s with
  | nil => exact onlyWrites_pure s
  | cons file files ih =>
    rw [List.foldlM_cons]
    exact onlyWrites_bind (onlyWrites_generateFile settings dryRun s file) ih

/-- A run writes to the world in which the output directory has been opened. -/
theorem exists_hasWritten_generateAll (settings : Settings) (dryRun : Bool) (files : List Text)
    (w : World) :
    ∃ docs, HasWritten settings.outputDirectory dryRun (w.exec (opening settings dryRun)).2 docs
      (w.exec (generateAll settings dryRun files)).2 := by
  rw [generateAll_eq]
  -- opening makes directories, which is no writing, and so it is left out here
  refine exists_hasWritten_bind w _ fun _ => ?_
  refine onlyWrites_bind (onlyWrites_foldlM settings dryRun files {}) fun s => ?_
  exact onlyWrites_bind (onlyWrites_announce _) fun _ => onlyWrites_pure _

/-! ## What is left as it is -/

/-- What has changed below and around the output directory `root` when the texts `docs` have been
written: every place is as it was, but for those of documents and step files, which hold what has
been written there, and for directories to write to, where nothing was before. -/
structure IsConfined (root : Text) (dryRun : Bool) (w : World) (docs : List (Text × Text))
    (w' : World) : Prop where
  written : w'.written = w.written ++ docs
  paths : ∀ doc ∈ docs, ∃ names, IsOutputFile doc.1 names
  shown : dryRun = true → docs = [] ∧ w'.files = w.files
  frame : ∀ place, w'.files.find? place = w.files.find? place ∨
    (∃ doc ∈ docs, ∃ dir names, IsOutputFile doc.1 names ∧ w'.files.locate root = .ok dir ∧
      place = dir ++ names ∧ w'.files.find? place = some (.file (.text doc.2))) ∨
    (w.files.find? place = none ∧ w'.files.find? place = some .directory ∧
      w'.files.IsOutputDirectory root place)

theorem World.exec_opening_snd (w : World) (settings : Settings) (dryRun : Bool) :
    (w.exec (opening settings dryRun)).2 =
      if dryRun then w else (w.openOutput settings.outputDirectory).2 := by
  cases dryRun with
  | true => rfl
  | false => exact exec_orFail_snd w _ _

/-- Opening the output directory writes nothing, and it makes directories only. -/
theorem isConfined_exec_opening (w : World) (settings : Settings) (dryRun : Bool) :
    IsConfined settings.outputDirectory dryRun w [] (w.exec (opening settings dryRun)).2 := by
  rw [World.exec_opening_snd]
  cases dryRun with
  | true =>
    exact ⟨(List.append_nil _).symm, fun _ h => absurd h List.not_mem_nil, fun _ => ⟨rfl, rfl⟩,
      fun _ => Or.inl rfl⟩
  | false =>
    rcases hopen : w.openOutput settings.outputDirectory with ⟨result, opened⟩
    refine ⟨?_, fun _ h => absurd h List.not_mem_nil, fun h => absurd h (by decide), ?_⟩
    · rw [List.append_nil]
      exact written_openOutput hopen
    · exact fun place => (FileSystem.find?_openOutput hopen place).imp_right Or.inr

/-- **What is left as it is** when texts have been written after nothing but directories were
made. -/
theorem HasWritten.isConfined (h : HasWritten root dryRun w₁ docs w')
    (hopened : IsConfined root dryRun w [] w₁) : IsConfined root dryRun w docs w' where
  written := by rw [h.written, hopened.written, List.append_nil]
  paths := fun doc hdoc => (h.paths doc hdoc).2
  shown := by
    rintro rfl
    have hfiles := h.files
    rw [h.docs_eq_nil] at hfiles
    have hsame : w₁.files = w'.files := Except.ok.inj hfiles
    exact ⟨h.docs_eq_nil, hsame ▸ (hopened.shown rfl).2⟩
  frame := by
    intro place
    have hsame := FileSystem.sameDirectories_of_writeAll h.files
    rcases FileSystem.find?_writeAll h.files place with heq | ⟨doc, hdoc, hbelow, hfile⟩
    · rw [heq]
      rcases hopened.frame place with heq' | ⟨doc, hdoc, -⟩ | ⟨hnone, hdirectory, houtput⟩
      · exact Or.inl heq'
      · cases hdoc
      · exact Or.inr (Or.inr ⟨hnone, hdirectory,
          (FileSystem.isOutputDirectory_iff_of_sameDirectories hsame).1 houtput⟩)
    · obtain ⟨-, names, houtput⟩ := h.paths doc hdoc
      obtain ⟨dir, hdir, hplace⟩ := houtput.exists_locate_of_placeBelow hbelow
      exact Or.inr (Or.inl ⟨doc, hdoc, dir, names, houtput, hdir, hplace, hfile⟩)

/-- **What a run does, with the names that it gives.**  The name of a document is made of words of
letters and digits, with single underscores between them; where one word or more is asked for, these
are the first runs of letters and digits in the lower-case form of the text, or `story` if there are
none, so that a name with fewer words is the beginning of one with more.  The paths of documents and
step files with such names are made of one name and of two, none of which leads to a directory that
is there already, and they are different from each other.  A run writes to such paths and to no
others, whether it comes to its end or not, and but for the directories that it makes to write to,
everything else stays as it is; a dry run changes nothing. -/
theorem isConfined_exec_generateAll :
    (∀ t n, IsWordName (suggestedFileName t n)) ∧
    (∀ t, ∃ runs,
      (∀ runs', AreRuns Char.isAlphanum (Text.lower t) runs' ↔ runs' = runs) ∧
        ∀ n, 1 ≤ n → suggestedFileName t n =
          if runs = [] then "story".toList else Text.joined ['_'] (runs.take n)) ∧
    (∀ t m n, 1 ≤ m → m ≤ n →
      suggestedFileName t m = Text.joined ['_'] (((suggestedFileName t n).splitOn '_').take m)) ∧
    (∀ path names, IsOutputFile path names →
      path.splitOn '/' = names ∧ ∀ part ∈ names, part ≠ [] ∧ part ≠ Path.here ∧ part ≠ Path.up) ∧
    (∀ name other, IsWordName name → IsWordName other →
      featurePath name ≠ stepsPath other ∧ featurePath name ≠ stepsDirectory) ∧
    ∀ (settings : Settings) (dryRun : Bool) (files : List Text) (w : World),
      ∃ docs, IsConfined settings.outputDirectory dryRun w docs
        (w.exec (generateAll settings dryRun files)).2 := by
  refine ⟨isWordName_suggestedFileName, fun t => ⟨fileNameWords t, fun runs' => areRuns_iff,
    fun n hn => suggestedFileName_eq hn⟩, fun t m n => suggestedFileName_eq_take,
    fun path names houtput => ?_, fun name other hname hother => ?_,
    fun settings dryRun files w => ?_⟩
  · have hplain := houtput.isPlain
    rw [IsPlain, houtput.splitOn_eq] at hplain
    exact ⟨houtput.splitOn_eq, hplain⟩
  · exact ⟨featurePath_ne_stepsPath hname.isFileName hother.isFileName,
      featurePath_ne_stepsDirectory name⟩
  · obtain ⟨docs, hwritten⟩ := exists_hasWritten_generateAll settings dryRun files w
    exact ⟨docs, hwritten.isConfined (isConfined_exec_opening w settings dryRun)⟩

/-- A run on the market that ends at a file which is not there has written two texts.  The name of
the first one has the words of a line with a sign that is no letter before it is in lower case. -/
theorem isConfined_market :
    let settings : Settings := { defaultLanguage := .english, fileNameWords := 6 }
    let run := market.exec (generateAll settings false ["a.txt".toList, "d.txt".toList])
    run.1 = .error (.unreadable "d.txt".toList .notFound) ∧
      run.2.written.map Prod.fst =
        ["i_want_to_bake_bread_today.feature".toList,
          "steps/i_want_to_bake_bread_today_steps.rb".toList] ∧
      IsConfined settings.outputDirectory false market run.2.written run.2 ∧
      suggestedFileName "I want 3 \u212Ag, now".toList 4 = "i_want_3_kg".toList ∧
      suggestedFileName "I want 3 \u212Ag, now".toList 2 =
        Text.joined ['_'] (("i_want_3_kg".toList.splitOn '_').take 2) := by
  intro settings run
  have hlong : suggestedFileName "I want 3 \u212Ag, now".toList 4 = "i_want_3_kg".toList := by
    decide +kernel
  obtain ⟨-, -, hprefix, -, -, hrun⟩ := isConfined_exec_generateAll
  obtain ⟨docs, hconfined⟩ :=
    hrun settings false ["a.txt".toList, "d.txt".toList] market
  have hdocs : run.2.written = docs := hconfined.written
  refine ⟨by decide +kernel, by decide +kernel, hdocs ▸ hconfined, hlong, ?_⟩
  rw [← hlong]
  exact hprefix _ 2 4 (by decide) (by decide)

end StorySpec
