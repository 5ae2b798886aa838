import Mathlib.Data.List.Forall2
import StorySpec.Proofs.Command.Generate
import StorySpec.Proofs.Command.Reading

/-!
# Dry runs

A dry run reads its stories from a file system that stays as it is, so what it prints can be told
from their texts.  A run that writes changes the file system while it reads; but it finds the same
texts in the files, unless the path of a story meets that of something it writes.  What it writes is
then what a dry run prints.

## Main definitions

* `StoryFile`: the path of a story file and the text in it.
* `Outcome.shown o file`: what a dry run prints for the story in a file.
* `Notice.StandsFor root n n'`: a notice of a dry run and the one in its place when texts are
  written below `root`.
* `IsPreview root docs shown printed`: what a dry run prints is a preview of a run.

## Main results

* `exec_generateFile_dryRun`, `exec_generateAll_dryRun`: one step of a dry run, and a whole one.
* `IsRun.eq_map_outcome`: a run that writes takes the stories that were there before it.
* `isPreview_of_exec_generateAll`: a dry run is a preview of the run that writes.
-/

namespace StorySpec

variable {settings : Settings} {w w' : World} {s : Summary} {o : Outcome} {outcomes : List Outcome}
  {root file path t : Text} {files : List Text} {docs : List (Text × Text)}

/-! ## Story files -/

/-- A story file: its path, and the text in it. -/
structure StoryFile where
  path : Text
  text : Text
  deriving DecidableEq, Repr

/-- What becomes of the story in a file. -/
def StoryFile.outcome (settings : Settings) (story : StoryFile) : Outcome :=
  Outcome.ofText settings.pipeline story.text

variable {story : StoryFile} {stories : List StoryFile}

/-- Whether a file can be read is found out by reading it. -/
theorem FileSystem.exists_readText_iff {fs : FileSystem} :
    (∃ t, fs.readText file = .ok t) ↔ (fs.readText file).isOk = true := by
  cases fs.readText file <;> simp [Except.isOk, Except.toBool]

instance {fs : FileSystem} : Decidable (∃ t, fs.readText file = .ok t) :=
  decidable_of_iff' _ FileSystem.exists_readText_iff

/-- Files that can be read are story files. -/
theorem FileSystem.exists_storyFiles {fs : FileSystem}
    (h : ∀ file ∈ files, ∃ t, fs.readText file = .ok t) :
    ∃ stories : List StoryFile, stories.map StoryFile.path = files ∧
      ∀ story ∈ stories, fs.readText story.path = .ok story.text := by
  induction files with
  | nil => exact ⟨[], rfl, fun _ h => absurd h List.not_mem_nil⟩
  | cons file files ih =>
    obtain ⟨t, hread⟩ := h file List.mem_cons_self
    obtain ⟨stories, rfl, hstories⟩ := ih fun file' h' => h file' (List.mem_cons_of_mem file h')
    exact ⟨⟨file, t⟩ :: stories, rfl, List.forall_mem_cons.2 ⟨hread, hstories⟩⟩

/-! ## What a dry run prints -/

/-- The document that a notice shows, with its path. -/
def Notice.document? : Notice → Option (Text × Text)
  | .document path t => some (path, t)
  | _ => none

/-- The path of the file that a notice says has been written. -/
def Notice.created? : Notice → Option Text
  | .created path => some path
  | _ => none

/-- What is printed for the story in a file when its documents are shown. -/
def Outcome.shown (o : Outcome) (file : Text) : List Notice :=
  match o with
  | .rejected report => [.skipped file report.messages]
  | .generated _ _ .noSteps =>
    o.documents.map (fun doc => .document doc.1 doc.2) ++ [.noSteps file]
  | .generated _ _ (.stubs _) => o.documents.map fun doc => .document doc.1 doc.2

/-- What a dry run prints for a story file. -/
def StoryFile.shown (settings : Settings) (story : StoryFile) : List Notice :=
  (story.outcome settings).shown story.path

namespace World

@[simp] theorem print_nil (w : World) : w.print [] = w := by
  simp [print]

@[simp] theorem print_print (w : World) (ns ms : List Notice) :
    (w.print ns).print ms = w.print (ns ++ ms) := by
  simp [print]

theorem exec_produce_dryRun (w : World) (failure : FileError → Failure) :
    w.exec (produce settings true failure path t) = (.ok (), w.print [.document path t]) := rfl

end World

/-- **One step of a dry run** reads a story and prints what becomes of it. -/
theorem exec_generateFile_dryRun (h : w.files.readText story.path = .ok story.text) (s : Summary) :
    w.exec (generateFile settings true s story.path) =
      (.ok (s.count (story.outcome settings)), w.print (story.shown settings)) := by
  have hinput : w.exec (readInput story.path) = (.ok story.text, w) :=
    World.exec_readInput_eq_ok_iff.2 ⟨h, rfl⟩
  unfold generateFile StoryFile.shown StoryFile.outcome
  rw [World.exec_bind_of_ok hinput]
  cases Outcome.ofText settings.pipeline story.text with
  | rejected report => rfl
  | generated made feature steps =>
    dsimp only
    rw [World.exec_bind_of_ok (World.exec_produce_dryRun w _)]
    cases steps with
    | noSteps =>
      dsimp only
      rw [World.exec_announce_bind_pure, World.print_print]
      rfl
    | stubs stepFile =>
      dsimp only
      rw [World.exec_bind_of_ok (World.exec_produce_dryRun _ _), World.print_print]
      rfl

/-- All steps of a dry run; each story is read from the file system that was there at first. -/
theorem exec_foldlM_dryRun (h : ∀ story ∈ stories, w.files.readText story.path = .ok story.text)
    (s : Summary) :
    w.exec ((stories.map StoryFile.path).foldlM (generateFile settings true) s) =
      (.ok ((stories.map (StoryFile.outcome settings)).foldl Summary.count s),
        w.print (stories.flatMap (StoryFile.shown settings))) := by
  induction stories generalizing w s with
  | nil => simp only [List.flatMap_nil, World.print_nil]; rfl
  | cons story stories ih =>
    obtain ⟨hstory, hstories⟩ := List.forall_mem_cons.1 h
    have hprinted : ∀ later ∈ stories,
        (w.print (story.shown settings)).files.readText later.path = .ok later.text := hstories
    rw [List.map_cons, List.foldlM_cons, World.exec_bind_of_ok (exec_generateFile_dryRun hstory s),
      ih hprinted, World.print_print]
    rfl

/-- The counts at the end of a run that takes some stories. -/
def summaryOf (settings : Settings) (stories : List StoryFile) : Summary :=
  (stories.map (StoryFile.outcome settings)).foldl Summary.count {}

/-- **A dry run** prints what becomes of its stories, and the counts; it changes no file. -/
theorem exec_generateAll_dryRun
    (h : ∀ story ∈ stories, w.files.readText story.path = .ok story.text) :
    w.exec (generateAll settings true (stories.map StoryFile.path)) =
      (.ok .success,
        w.print (stories.flatMap (StoryFile.shown settings) ++
          [.summary (summaryOf settings stories)])) := by
  unfold generateAll
  rw [if_pos rfl]
  dsimp only
  rw [World.exec_bind_of_ok (exec_foldlM_dryRun h {}), World.exec_announce_bind_pure,
    World.print_print]
  rfl

/-! ## Notices in place of each other -/

/-- A notice of a dry run, and the notice in its place when texts are written below `root`: a text
that would be shown is said to be written, and everything else is printed as it is. -/
inductive Notice.StandsFor (root : Text) : Notice → Notice → Prop
  | document (path t : Text) : StandsFor root (.document path t) (.created (Path.append root path))
  | skipped (file : Text) (messages : List Text) :
    StandsFor root (.skipped file messages) (.skipped file messages)
  | noSteps (file : Text) : StandsFor root (.noSteps file) (.noSteps file)
  | summary (s : Summary) : StandsFor root (.summary s) (.summary s)

/-- What a dry run prints is a preview of what a run prints that writes the texts `docs`: it shows
these texts, and its notices stand for those of the run one by one. -/
structure IsPreview (root : Text) (docs : List (Text × Text)) (shown printed : List Notice) :
    Prop where
  documents : shown.filterMap Notice.document? = docs
  created : printed.filterMap Notice.created? = docs.map fun doc => Path.append root doc.1
  standsFor : List.Forall₂ (Notice.StandsFor root) shown printed

namespace IsPreview

variable {docs' : List (Text × Text)} {shown printed shown' printed' : List Notice}

theorem append (h : IsPreview root docs shown printed) (h' : IsPreview root docs' shown' printed') :
    IsPreview root (docs ++ docs') (shown ++ shown') (printed ++ printed') where
  documents := by rw [List.filterMap_append, h.documents, h'.documents]
  created := by rw [List.filterMap_append, h.created, h'.created, List.map_append]
  standsFor := List.rel_append h.standsFor h'.standsFor

end IsPreview

/-- What a dry run prints for a story is a preview. -/
theorem Outcome.isPreview_shown (o : Outcome) (root file : Text) :
    IsPreview root o.documents (o.shown file) (o.notices root file) := by
  cases o with
  | rejected report => exact ⟨rfl, rfl, .cons (.skipped file _) .nil⟩
  | generated story feature steps =>
    cases steps with
    | noSteps => exact ⟨rfl, rfl, .cons (.document _ _) (.cons (.noSteps file) .nil)⟩
    | stubs stepFile => exact ⟨rfl, rfl, .cons (.document _ _) (.cons (.document _ _) .nil)⟩

theorem isPreview_flatMap (settings : Settings) (root : Text) (stories : List StoryFile) :
    IsPreview root
      ((stories.map (StoryFile.outcome settings)).flatMap Outcome.documents)
      (stories.flatMap (StoryFile.shown settings))
      (stories.flatMap fun story => (story.outcome settings).notices root story.path) := by
  induction stories with
  | nil => exact ⟨rfl, rfl, .nil⟩
  | cons story stories ih =>
    exact ((story.outcome settings).isPreview_shown root story.path).append ih

/-! ## Runs that write -/

namespace IsRun

/-- A run prints what its outcomes come to, one after the other. -/
theorem notices (h : IsRun settings w files outcomes w') :
    w'.notices = w.notices ++
      (files.zip outcomes).flatMap fun taken =>
        taken.2.notices settings.outputDirectory taken.1 := by
  induction h with
  | nil => simp
  | cons first rest ih => rw [ih, first.notices, List.append_assoc]; rfl

/-- **A run takes the stories that were there before it**, when no path of a story meets one that it
writes to. -/
theorem eq_map_outcome (h : IsRun settings w (stories.map StoryFile.path) outcomes w')
    (hread : ∀ story ∈ stories, w.files.readText story.path = .ok story.text)
    (hapart : ∀ story ∈ stories, ∀ doc ∈ outcomes.flatMap Outcome.documents,
      ¬ w.files.Meets settings.outputDirectory doc.1 story.path) :
    outcomes = stories.map (StoryFile.outcome settings) := by
  induction stories generalizing w outcomes with
  | nil =>
    cases h
    rfl
  | cons story stories ih =>
    cases h with
    | cons first rest =>
      rename_i w₁ o outcomes
      obtain ⟨hstory, hstories⟩ := List.forall_mem_cons.1 hread
      obtain ⟨t, ht, rfl⟩ := first.read
      obtain rfl : story.text = t := Except.ok.inj (hstory.symm.trans ht)
      have hsame := FileSystem.sameDirectories_of_writeAll first.files
      -- what is written for the first story leaves the other ones as they are
      have hlater : outcomes = stories.map (StoryFile.outcome settings) := by
        refine ih rest (fun later hmem => ?_) fun later hmem doc hdoc hmeets => ?_
        · refine (FileSystem.readText_eq_ok_iff_of_writeAll (fun doc hdoc => ?_) first.files).2
            (hstories later hmem)
          exact hapart later (List.mem_cons_of_mem story hmem) doc
            (List.mem_flatMap.2 ⟨_, List.mem_cons_self, hdoc⟩)
        · obtain ⟨o, ho, hdoc⟩ := List.mem_flatMap.1 hdoc
          exact hapart later (List.mem_cons_of_mem story hmem) doc
            (List.mem_flatMap.2 ⟨o, List.mem_cons_of_mem _ ho, hdoc⟩)
            ((FileSystem.meets_iff_of_sameDirectories hsame).2 hmeets)
      rw [hlater]
      rfl

end IsRun

theorem notices_openOutput {result : Except FileError Unit}
    (h : w.openOutput root = (result, w')) : w'.notices = w.notices := by
  unfold World.openOutput at h
  split at h
  · cases h
    rfl
  · split at h
    cases h
    rfl

/-- **A dry run is a preview of the run that writes.**  Where a run comes to its end, and the path
of no story meets one that the run writes to, a dry run prints the texts that the run writes, in
their order and with their paths; and it prints all else that the run prints, in the same places,
while every text is said to be written where the dry run shows it.  Nothing is written on the dry
run, and no directory is made. -/
theorem isPreview_of_exec_generateAll {status : Status}
    (hread : ∀ file ∈ files, ∃ t, w.files.readText file = .ok t)
    (hrun : w.exec (generateAll settings false files) = (.ok status, w'))
    (hwritten : w'.written = w.written ++ docs)
    (hapart : ∀ file ∈ files, ∀ doc ∈ docs,
      ¬ w'.files.Meets settings.outputDirectory doc.1 file) :
    ∃ dry shown printed,
      w.exec (generateAll settings true files) = (.ok status, dry) ∧
        dry.files = w.files ∧ dry.written = w.written ∧ dry.notices = w.notices ++ shown ∧
        w'.notices = w.notices ++ printed ∧
        IsPreview settings.outputDirectory docs shown printed := by
  obtain ⟨stories, rfl, hstories⟩ := FileSystem.exists_storyFiles hread
  obtain ⟨opened, last, outcomes, hopen, hgenerated, rfl, rfl⟩ :=
    exists_isRun_of_exec_generateAll hrun
  have hdocs : outcomes.flatMap Outcome.documents = docs := by
    have hlast := hgenerated.written
    rw [written_openOutput hopen] at hlast
    exact List.append_cancel_left (hlast.symm.trans hwritten)
  have hopened : ∀ story ∈ stories, opened.files.readText story.path = .ok story.text :=
    fun story hstory => (FileSystem.persistsIn_openOutput hopen).readText (hstories story hstory)
  -- paths lead to the same places before and after everything is written
  have hsame := FileSystem.sameDirectories_of_writeAll hgenerated.writeAll
  have houtcomes : outcomes = stories.map (StoryFile.outcome settings) := by
    refine hgenerated.eq_map_outcome hopened fun story hstory doc hdoc hmeets => ?_
    exact hapart story.path (List.mem_map_of_mem hstory) doc (hdocs ▸ hdoc)
      ((FileSystem.meets_iff_of_sameDirectories hsame).1 hmeets)
  have hsummary : IsPreview settings.outputDirectory [] [.summary (summaryOf settings stories)]
      [.summary (summaryOf settings stories)] := ⟨rfl, rfl, .cons (.summary _) .nil⟩
  have hpreview := (isPreview_flatMap settings settings.outputDirectory stories).append hsummary
  rw [← houtcomes, hdocs, List.append_nil] at hpreview
  refine ⟨_, _, _, exec_generateAll_dryRun hstories, rfl, rfl, rfl, ?_, hpreview⟩
  have hlast : last.notices = w.notices ++ _ := notices_openOutput hopen ▸ hgenerated.notices
  rw [World.print, hlast, houtcomes, List.append_assoc, List.zip_map', List.flatMap_map]
  rfl

/-- Three stories, of which the second one has no step with a keyword and the third one no steps at
all; that one is in the output directory. -/
def market : World where
  files := .ofFiles
    [("a.txt".toList, .text (breadStory "today".toList "Given some flour".toList)),
      ("b.txt".toList, .text (breadStory "tomorrow".toList "some rye".toList)),
      ("features/c.txt".toList, .text (breadStory "never".toList []))]

/-- The run writes to the directory of the third story, but not in its place. -/
theorem isPreview_market :
    let settings : Settings := { defaultLanguage := .english, fileNameWords := 6 }
    let files := ["a.txt".toList, "b.txt".toList, "features/c.txt".toList]
    let w' := (market.exec (generateAll settings false files)).2
    (∀ file ∈ files, ∃ t, market.files.readText file = .ok t) ∧
      market.exec (generateAll settings false files) = (.ok .success, w') ∧
      w'.written.map Prod.fst =
        ["i_want_to_bake_bread_today.feature".toList,
          "steps/i_want_to_bake_bread_today_steps.rb".toList,
          "i_want_to_bake_bread_tomorrow.feature".toList] ∧
      (∀ file ∈ files, ∀ doc ∈ w'.written,
        ¬ w'.files.Meets settings.outputDirectory doc.1 file) ∧
      ∃ dry shown printed,
        market.exec (generateAll settings true files) = (.ok .success, dry) ∧
          dry.files = market.files ∧ dry.written = market.written ∧
          dry.notices = market.notices ++ shown ∧ w'.notices = market.notices ++ printed ∧
          IsPreview settings.outputDirectory w'.written shown printed := by
  intro settings files w'
  have hread : ∀ file ∈ files, ∃ t, market.files.readText file = .ok t := by decide +kernel
  have hsuccess : (market.exec (generateAll settings false files)).1 = .ok .success := by
    decide +kernel
  have hrun : market.exec (generateAll settings false files) = (.ok .success, w') :=
    Prod.ext hsuccess rfl
  have hapart : ∀ file ∈ files, ∀ doc ∈ w'.written,
      ¬ w'.files.Meets settings.outputDirectory doc.1 file := by
    decide +kernel
  exact ⟨hread, hrun, by decide +kernel, hapart,
    isPreview_of_exec_generateAll hread hrun rfl hapart⟩

end StorySpec
