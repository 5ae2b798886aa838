import StorySpec.Proofs.Command.DryRun

/-!
# Checks and dry runs

A check judges all stories and then prints one report for each of them; a dry run judges one story
after the other and prints what becomes of it.  They judge every story alike, so that the counts at
the end of a dry run tell how a check ends.

## Main definitions

* `CheckReport.AgreesWith r shown`: the report on a story and what a dry run prints for the story
  are one judgement.
* `Summary.IsTally s reports notices`: the counts are those of reports and of printed notices.

## Main results

* `exec_checkAll`: what a check prints and how it ends.
* `StoryFile.agreesWith_shown`: a story is judged alike in both.
* `IsTally.count`, `isTally_summaryOf`: one more story is counted, and all are.
* `agreesWith_of_exec`: a check and a dry run of the same stories.
-/

namespace StorySpec

variable {settings : Settings} {w : World} {s : Summary} {files : List Text} {story : StoryFile}
  {stories : List StoryFile} {reports : List CheckReport} {notices : List Notice}

/-! ## Checks -/

/-- The report on the story in a file. -/
def StoryFile.report (settings : Settings) (story : StoryFile) : CheckReport :=
  .ofReport story.path (Story.ofText settings.defaultLanguage story.text).validate

/-- One step of a check reads a story and changes nothing. -/
theorem exec_checkFile (h : w.files.readText story.path = .ok story.text) :
    w.exec (checkFile settings story.path) = (.ok (story.report settings), w) := by
  have hinput : w.exec (readInput story.path) = (.ok story.text, w) :=
    World.exec_readInput_eq_ok_iff.2 ⟨h, rfl⟩
  unfold checkFile
  rw [World.exec_bind_of_ok hinput]
  rfl

theorem exec_mapM_checkFile
    (h : ∀ story ∈ stories, w.files.readText story.path = .ok story.text) :
    w.exec ((stories.map StoryFile.path).mapM (checkFile settings)) =
      (.ok (stories.map (StoryFile.report settings)), w) := by
  induction stories with
  | nil => rfl
  | cons story stories ih =>
    obtain ⟨hstory, hstories⟩ := List.forall_mem_cons.1 h
    rw [List.map_cons, List.mapM_cons, World.exec_bind_of_ok (exec_checkFile hstory),
      World.exec_bind_of_ok (ih hstories)]
    rfl

/-- **A check** prints the reports on its stories, and it succeeds when all of them are valid. -/
theorem exec_checkAll (h : ∀ story ∈ stories, w.files.readText story.path = .ok story.text)
    (json : Bool) :
    w.exec (checkAll settings json (stories.map StoryFile.path)) =
      (.ok (if (stories.map (StoryFile.report settings)).all CheckReport.valid then .success
          else .invalid),
        w.print [.reports (stories.map (StoryFile.report settings)) json]) := by
  unfold checkAll
  rw [World.exec_bind_of_ok (exec_mapM_checkFile h), World.exec_announce_bind_pure]

/-! ## One judgement -/

/-- The story that a notice says has been skipped, by its file, and why. -/
def Notice.skipped? : Notice → Option (Text × List Text)
  | .skipped file messages => some (file, messages)
  | _ => none

/-- Whether a notice says that there are no stubs. -/
def Notice.isNoSteps : Notice → Bool
  | .noSteps _ => true
  | _ => false

/-- The report on a story and what a dry run prints for the story are one judgement: the story is
said to be skipped exactly when the report finds faults, once and for these faults, and a document
is shown exactly when it finds none. -/
structure CheckReport.AgreesWith (r : CheckReport) (shown : List Notice) : Prop where
  skipped : shown.filterMap Notice.skipped? = if r.valid then [] else [(r.file, r.errors)]
  documents : shown.filterMap Notice.document? ≠ [] ↔ r.valid = true

namespace StoryFile

theorem valid_report (settings : Settings) (story : StoryFile) :
    (story.report settings).valid =
      (Story.ofText settings.defaultLanguage story.text).validate.isValid := by
  rw [report, CheckReport.ofReport]

/-- What a report says about a story, and what becomes of it on a dry run: it is skipped for its
faults, or its document is shown without or with a step file. -/
theorem report_cases (settings : Settings) (story : StoryFile) :
    ((story.report settings).valid = false ∧
        (∃ report, story.outcome settings = .rejected report) ∧
        story.shown settings = [.skipped story.path (story.report settings).errors]) ∨
      ((story.report settings).valid = true ∧ ∃ made feature,
        (story.outcome settings = .generated made feature .noSteps ∧
          story.shown settings =
            [.document (featurePath feature.fileName) feature.text, .noSteps story.path]) ∨
        ∃ file, story.outcome settings = .generated made feature (.stubs file) ∧
          story.shown settings =
            [.document (featurePath feature.fileName) feature.text,
              .document (stepsPath file.featureName) file.render]) := by
  have hjudged := story.valid_report settings
  rcases Bool.eq_false_or_eq_true (story.report settings).valid with hvalid | hvalid
  · rw [hvalid] at hjudged
    obtain ⟨feature, steps, houtcome⟩ : ∃ feature steps, story.outcome settings =
        .generated (Story.ofText settings.defaultLanguage story.text) feature steps :=
      ⟨_, _, Outcome.ofText_eq_generated_iff.2 ⟨rfl, hjudged.symm, rfl, rfl⟩⟩
    refine Or.inr ⟨hvalid, Story.ofText settings.defaultLanguage story.text, feature, ?_⟩
    rw [shown, houtcome]
    cases steps with
    | noSteps => exact Or.inl ⟨rfl, rfl⟩
    | stubs file => exact Or.inr ⟨file, rfl, rfl⟩
  · rw [hvalid] at hjudged
    have hfaults :
        ¬ (Story.ofText settings.defaultLanguage story.text).validate.isValid = true := by
      rw [← hjudged]
      decide
    have houtcome : story.outcome settings =
        .rejected (Story.ofText settings.defaultLanguage story.text).validate := if_neg hfaults
    refine Or.inl ⟨hvalid, ⟨_, houtcome⟩, ?_⟩
    rw [shown, houtcome, Outcome.shown, report, CheckReport.ofReport]

/-- **A story is judged alike** by a check and by a dry run. -/
theorem agreesWith_shown (settings : Settings) (story : StoryFile) :
    (story.report settings).AgreesWith (story.shown settings) := by
  rcases story.report_cases settings with
    ⟨hvalid, -, hshown⟩ | ⟨hvalid, made, feature, ⟨-, hshown⟩ | ⟨file, -, hshown⟩⟩
  all_goals
    rw [hshown]
    refine ⟨?_, ?_⟩ <;> rw [hvalid]
    · rfl
    · simp [Notice.document?]

end StoryFile

/-! ## Counts -/

/-- The counts are those of the reports on some stories and of what is printed for them. -/
structure Summary.IsTally (s : Summary) (reports : List CheckReport) (notices : List Notice) :
    Prop where
  stories : s.stories = reports.length
  skipped : s.skipped = reports.countP fun r => !r.valid
  stories_eq : s.stories = s.features + s.skipped
  features_eq : s.features = s.stepFiles + notices.countP Notice.isNoSteps

/-- **One more story** is counted. -/
theorem Summary.IsTally.count (h : s.IsTally reports notices) (settings : Settings)
    (story : StoryFile) :
    (s.count (story.outcome settings)).IsTally (reports ++ [story.report settings])
      (notices ++ story.shown settings) := by
  obtain ⟨hstories, hskipped, hsum, hfeatures⟩ := h
  rcases story.report_cases settings with
    ⟨hvalid, ⟨report, houtcome⟩, hshown⟩ |
      ⟨hvalid, made, feature, ⟨houtcome, hshown⟩ | ⟨file, houtcome, hshown⟩⟩
  all_goals
    rw [houtcome, hshown]
    constructor <;> simp [Summary.count, Notice.isNoSteps, hvalid] <;> omega

/-- All stories are counted. -/
theorem Summary.IsTally.foldl_count (h : s.IsTally reports notices) (settings : Settings)
    (stories : List StoryFile) :
    ((stories.map (StoryFile.outcome settings)).foldl Summary.count s).IsTally
      (reports ++ stories.map (StoryFile.report settings))
      (notices ++ stories.flatMap (StoryFile.shown settings)) := by
  induction stories generalizing s reports notices with
  | nil => simpa using h
  | cons story stories ih => simpa using ih (h.count settings story)

/-- The counts at the end of a dry run are those of the reports on its stories. -/
theorem isTally_summaryOf (settings : Settings) (stories : List StoryFile) :
    (summaryOf settings stories).IsTally (stories.map (StoryFile.report settings))
      (stories.flatMap (StoryFile.shown settings)) := by
  have hnone : ({} : Summary).IsTally [] [] := ⟨rfl, rfl, rfl, rfl⟩
  exact hnone.foldl_count settings stories

/-- Stories are skipped exactly when some report finds faults. -/
theorem Summary.IsTally.all_valid (h : s.IsTally reports notices) :
    reports.all CheckReport.valid = !decide (0 < s.skipped) := by
  rw [h.skipped, Bool.eq_iff_iff]
  simp

/-- **A check and a dry run judge every story alike.**  What the dry run prints comes in one part
for each file, in the order of the files, with the counts behind them; and each part agrees with the
report of the check on that file.  The check ends with a status of its own exactly when the dry run
skips a story, and the counts are those of the files, of the reports that find faults, and of the
stories without stubs. -/
theorem agreesWith_of_exec (hread : ∀ file ∈ files, ∃ t, w.files.readText file = .ok t)
    (json : Bool) :
    ∃ reports parts summary,
      w.exec (checkAll settings json files) =
          (.ok (if 0 < summary.skipped then .invalid else .success),
            w.print [.reports reports json]) ∧
        w.exec (generateAll settings true files) =
          (.ok .success, w.print (parts.flatten ++ [.summary summary])) ∧
        reports.map CheckReport.file = files ∧
        List.Forall₂ CheckReport.AgreesWith reports parts ∧
        summary.IsTally reports parts.flatten ∧ summary.stories = files.length := by
  obtain ⟨stories, rfl, hstories⟩ := FileSystem.exists_storyFiles hread
  have htally := isTally_summaryOf settings stories
  refine ⟨stories.map (StoryFile.report settings), stories.map (StoryFile.shown settings),
    summaryOf settings stories, ?_, ?_, ?_, ?_, htally, ?_⟩
  · rw [exec_checkAll hstories json, htally.all_valid]
    by_cases hskipped : 0 < (summaryOf settings stories).skipped <;> simp [hskipped]
  · exact exec_generateAll_dryRun hstories
  · rw [List.map_map]
    rfl
  · rw [List.forall₂_map_left_iff, List.forall₂_map_right_iff, List.forall₂_same]
    exact fun story _ => story.agreesWith_shown settings
  · rw [htally.stories, List.length_map, List.length_map]

/-- The market has one story that is skipped, and one without stubs. -/
theorem agreesWith_market :
    let settings : Settings := { defaultLanguage := .english }
    let files := ["a.txt".toList, "b.txt".toList, "features/c.txt".toList]
    (∀ file ∈ files, ∃ t, market.files.readText file = .ok t) ∧
      ∃ reports parts summary,
        market.exec (checkAll settings true files) =
            (.ok (if 0 < summary.skipped then .invalid else .success),
              market.print [.reports reports true]) ∧
          market.exec (generateAll settings true files) =
            (.ok .success, market.print (parts.flatten ++ [.summary summary])) ∧
          reports.map CheckReport.file = files ∧
          List.Forall₂ CheckReport.AgreesWith reports parts ∧
          summary.IsTally reports parts.flatten ∧ summary.stories = files.length := by
  intro settings files
  have hread : ∀ file ∈ files, ∃ t, market.files.readText file = .ok t := by decide +kernel
  exact ⟨hread, agreesWith_of_exec hread true⟩

end StorySpec
