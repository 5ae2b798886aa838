import StorySpec.Proofs.Command.Check

/-!
# Files that cannot be read

A command ends at the first file that it cannot read.  When documents are made, the stories before
that file are taken as if they were all, up to the counts at the end; a check has printed nothing
by then.

That nothing behind the file is read cannot be seen from what a run leaves behind.  It can be seen
in a watched world, which keeps a list of the files that are asked for and is a world otherwise.

## Main definitions

* `Watched`: a world that is watched, in which commands can be run as in any other.
* `Watched.Reads v paths watched plain`: the action `watched` reads the files `paths` and otherwise
  does what `plain` does in the world.

## Main results

* `Watched.reads_bind_of_ok`, `Watched.reads_bind_of_error`: what one action after another reads.
* `Watched.reads_generateFile`, `Watched.reads_foldlM`: every step of a run reads its own story.
* `exec_generateAll_of_unreadable`, `exec_checkAll_of_unreadable`: the two commands.
* `exec_of_unreadable`: what a command leaves behind that ends at a file.
-/

namespace StorySpec

variable {α β : Type} {settings : Settings} {dryRun : Bool} {w w' w₁ : World} {file path t : Text}
  {before after files : List Text} {s s' : Summary} {status : Status} {e : FileError} {f : Failure}

/-! ## Steps that fail -/

theorem World.exec_readInput_of_unreadable (h : w.files.readText file = .error e) :
    w.exec (readInput file) = (.error (.unreadable file e), w) := by
  rw [exec_readInput, h]

theorem exec_generateFile_of_unreadable (h : w.files.readText file = .error e) (dryRun : Bool)
    (s : Summary) :
    w.exec (generateFile settings dryRun s file) = (.error (.unreadable file e), w) :=
  World.exec_bind_of_error (World.exec_readInput_of_unreadable h)

theorem exec_checkFile_of_unreadable (h : w.files.readText file = .error e) :
    w.exec (checkFile settings file) = (.error (.unreadable file e), w) :=
  World.exec_bind_of_error (World.exec_readInput_of_unreadable h)

/-! ## Watched worlds -/

/-- A world that is watched. -/
structure Watched where
  world : World
  /-- The files that have been asked for, in order, whether they could be read or not. -/
  reads : List Text := []

namespace Watched

variable {v : Watched} {paths paths' : List Text} {a : α}
  {watched : ExceptT Failure (StateM Watched) α} {plain : ExceptT Failure (StateM World) α}
  {next : α → ExceptT Failure (StateM Watched) β} {next' : α → ExceptT Failure (StateM World) β}

/-- An action on the world, which reads no file. -/
def onWorld (action : StateM World α) : StateM Watched α := fun v =>
  ((action.run v.world).1, { v with world := (action.run v.world).2 })

instance : Workspace (StateM Watched) where
  readText path := fun v => (v.world.files.readText path, { v with reads := v.reads ++ [path] })
  openOutput root := onWorld (Workspace.openOutput root)
  writeOutput root path t := onWorld (Workspace.writeOutput root path t)
  announce n := onWorld (Workspace.announce n)

/-- The result of an action in a watched world, and the watched world after it. -/
def exec (v : Watched) (action : ExceptT Failure (StateM Watched) α) :
    Except Failure α × Watched :=
  action.run.run v

theorem exec_bind (v : Watched) (action : ExceptT Failure (StateM Watched) α)
    (next : α → ExceptT Failure (StateM Watched) β) :
    v.exec (action >>= next) =
      match v.exec action with
      | (.ok a, v₁) => v₁.exec (next a)
      | (.error failure, v₁) => (.error failure, v₁) := by
  change (match v.exec action with
    | (result, v₁) => v₁.exec (ExceptT.mk (ExceptT.bindCont next result))) = _
  rcases v.exec action with ⟨result, v₁⟩
  cases result <;> rfl

/-- An action that does not fail. -/
theorem exec_lift (v : Watched) (action : StateM Watched α) :
    v.exec (liftM action) = (.ok (action.run v).1, (action.run v).2) := rfl

/-- An action reads the files `paths` in a watched world, and otherwise it does what another one
does in the world. -/
def Reads (v : Watched) (paths : List Text) (watched : ExceptT Failure (StateM Watched) α)
    (plain : ExceptT Failure (StateM World) α) : Prop :=
  v.exec watched =
    ((v.world.exec plain).1, { world := (v.world.exec plain).2, reads := v.reads ++ paths })

theorem Reads.exec_eq (h : v.Reads paths watched plain) {result : Except Failure α}
    (hplain : v.world.exec plain = (result, w')) :
    v.exec watched = (result, ⟨w', v.reads ++ paths⟩) := by
  rw [h, hplain]

/-! ### One action after another -/

/-- What an action that comes to an end reads, and then the one after it. -/
theorem reads_bind_of_ok (h : v.Reads paths watched plain)
    (hok : v.world.exec plain = (.ok a, w₁))
    (hnext : Watched.Reads ⟨w₁, v.reads ++ paths⟩ paths' (next a) (next' a)) :
    v.Reads (paths ++ paths') (watched >>= next) (plain >>= next') := by
  unfold Reads
  rw [exec_bind, h.exec_eq hok, World.exec_bind_of_ok hok]
  dsimp only
  rw [hnext, List.append_assoc]

/-- Nothing is read after an action that fails. -/
theorem reads_bind_of_error (h : v.Reads paths watched plain)
    (herror : v.world.exec plain = (.error f, w₁)) :
    v.Reads paths (watched >>= next) (plain >>= next') := by
  unfold Reads
  rw [exec_bind, h.exec_eq herror, World.exec_bind_of_error herror]

/-- What an action reads whose next one reads nothing. -/
theorem reads_bind (h : v.Reads paths watched plain)
    (hnext : ∀ a w₁, Watched.Reads ⟨w₁, v.reads ++ paths⟩ [] (next a) (next' a)) :
    v.Reads paths (watched >>= next) (plain >>= next') := by
  rcases hplain : v.world.exec plain with ⟨result, w₁⟩
  cases result with
  | error f => exact reads_bind_of_error h hplain
  | ok a => simpa using reads_bind_of_ok h hplain (hnext a w₁)

/-! ### The steps of commands -/

theorem reads_pure (v : Watched) (a : α) : v.Reads [] (pure a) (pure a) := by
  rw [Reads, List.append_nil]
  rfl

theorem reads_announce (v : Watched) (n : Notice) : v.Reads [] (announce n) (announce n) := by
  rw [Reads, List.append_nil]
  rfl

/-- An action of the workspace whose error is a failure. -/
theorem reads_orFail {action : StateM Watched (Except FileError α)}
    {action' : StateM World (Except FileError α)} (failure : FileError → Failure)
    (h : action.run v =
      ((action'.run v.world).1, ⟨(action'.run v.world).2, v.reads ++ paths⟩)) :
    v.Reads paths (orFail failure action) (orFail failure action') := by
  rw [Reads, orFail, orFail, exec_bind, exec_lift, h, World.exec_bind, World.exec_lift]
  rcases action'.run v.world with ⟨result, w₁⟩
  cases result <;> rfl

theorem reads_orFail_onWorld (v : Watched) (failure : FileError → Failure)
    (action : StateM World (Except FileError α)) :
    v.Reads [] (orFail failure (onWorld action)) (orFail failure action) :=
  reads_orFail failure (by rw [List.append_nil]; rfl)

theorem reads_readInput (v : Watched) (file : Text) :
    v.Reads [file] (readInput file) (readInput file) :=
  reads_orFail _ rfl

theorem reads_produce (v : Watched) (failure : FileError → Failure) (path t : Text) :
    v.Reads [] (produce settings dryRun failure path t)
      (produce settings dryRun failure path t) := by
  cases dryRun with
  | true => exact v.reads_announce _
  | false => exact reads_bind (v.reads_orFail_onWorld failure _) fun _ _ => reads_announce _ _

/-- **Every step of a run** reads its own story and no other file, whatever becomes of it. -/
theorem reads_generateFile (v : Watched) (s : Summary) (file : Text) :
    v.Reads [file] (generateFile settings dryRun s file)
      (generateFile settings dryRun s file) := by
  unfold generateFile
  refine reads_bind (v.reads_readInput file) fun t w₁ => ?_
  cases Outcome.ofText settings.pipeline t with
  | rejected report => exact reads_bind (reads_announce _ _) fun _ _ => reads_pure _ _
  | generated story feature steps =>
    refine reads_bind (reads_produce _ _ _ _) fun _ _ => ?_
    cases steps with
    | noSteps => exact reads_bind (reads_announce _ _) fun _ _ => reads_pure _ _
    | stubs stepFile => exact reads_bind (reads_produce _ _ _ _) fun _ _ => reads_pure _ _

/-- All steps of a run read the stories in order. -/
theorem reads_foldlM
    (h : v.world.exec (files.foldlM (generateFile settings dryRun) s) = (.ok s', w')) :
    v.Reads files (files.foldlM (generateFile settings dryRun) s)
      (files.foldlM (generateFile settings dryRun) s) := by
  induction files generalizing v s with
  | nil => exact v.reads_pure s
  | cons file files ih =>
    rw [List.foldlM_cons] at h
    obtain ⟨counted, w₁, hfirst, hrest⟩ := World.exec_bind_eq_ok_iff.1 h
    exact reads_bind_of_ok (v.reads_generateFile s file) hfirst
      (ih (v := ⟨w₁, v.reads ++ [file]⟩) hrest)

end Watched

/-! ## Runs that make documents -/

section Generate

variable {m : Type → Type} [Monad m] [Workspace m]

/-- The output directory is opened, except for a dry run. -/
def opening (settings : Settings) (dryRun : Bool) : ExceptT Failure m Unit :=
  if dryRun then pure ()
  else orFail (.unopened settings.outputDirectory) (Workspace.openOutput settings.outputDirectory)

/-- A run opens the output directory, takes the stories and prints the counts. -/
theorem generateAll_eq [LawfulMonad m] (settings : Settings) (dryRun : Bool) (files : List Text) :
    (generateAll settings dryRun files : ExceptT Failure m Status) =
      opening settings dryRun >>= fun _ =>
        files.foldlM (generateFile settings dryRun) {} >>= fun s =>
          announce (.summary s) >>= fun _ => pure .success := by
  cases dryRun with
  | true =>
    rw [opening, if_pos rfl, pure_bind]
    rfl
  | false => rfl

end Generate

theorem Watched.reads_opening (v : Watched) :
    v.Reads [] (opening settings dryRun) (opening settings dryRun) := by
  cases dryRun with
  | true => exact v.reads_pure ()
  | false => exact v.reads_orFail_onWorld _ _

/-- A run that comes to its end has taken all stories, and printed the counts in the end. -/
theorem exists_exec_foldlM_of_exec_generateAll
    (h : w.exec (generateAll settings dryRun files) = (.ok status, w')) :
    ∃ opened last s, w.exec (opening settings dryRun) = (.ok (), opened) ∧
      opened.exec (files.foldlM (generateFile settings dryRun) {}) = (.ok s, last) ∧
      w' = last.print [.summary s] := by
  rw [generateAll_eq] at h
  obtain ⟨⟨⟩, opened, hopen, hrest⟩ := World.exec_bind_eq_ok_iff.1 h
  obtain ⟨s, last, hfold, hend⟩ := World.exec_bind_eq_ok_iff.1 hrest
  rw [World.exec_announce_bind_pure] at hend
  cases hend
  exact ⟨opened, last, s, hopen, hfold, rfl⟩

/-- **A run that makes documents** and comes to a file that cannot be read.  It fails there, in the
world in which it has taken the stories before, and it has read these and nothing else. -/
theorem exec_generateAll_of_unreadable {opened last : World}
    (hopen : w.exec (opening settings dryRun) = (.ok (), opened))
    (hbefore : opened.exec (before.foldlM (generateFile settings dryRun) {}) = (.ok s, last))
    (hread : last.files.readText file = .error e) (after : List Text) :
    w.exec (generateAll settings dryRun (before ++ file :: after)) =
        (.error (.unreadable file e), last) ∧
      Watched.Reads ⟨w, []⟩ (before ++ [file])
        (generateAll settings dryRun (before ++ file :: after))
        (generateAll settings dryRun (before ++ file :: after)) := by
  have hfails : last.exec ((file :: after).foldlM (generateFile settings dryRun) s) =
      (.error (.unreadable file e), last) :=
    World.exec_bind_of_error (exec_generateFile_of_unreadable hread dryRun s)
  have hfold : opened.exec ((before ++ file :: after).foldlM (generateFile settings dryRun) {}) =
      (.error (.unreadable file e), last) := by
    rw [List.foldlM_append, World.exec_bind_of_ok hbefore, hfails]
  have hreads : Watched.Reads ⟨opened, []⟩ (before ++ [file])
      ((before ++ file :: after).foldlM (generateFile settings dryRun) {})
      ((before ++ file :: after).foldlM (generateFile settings dryRun) {}) := by
    rw [List.foldlM_append, List.foldlM_append]
    refine Watched.reads_bind_of_ok (Watched.reads_foldlM (v := ⟨opened, []⟩) hbefore) hbefore ?_
    exact Watched.reads_bind_of_error (Watched.reads_generateFile _ s file)
      (exec_generateFile_of_unreadable hread dryRun s)
  rw [generateAll_eq, generateAll_eq]
  refine ⟨?_, ?_⟩
  · rw [World.exec_bind_of_ok hopen, World.exec_bind_of_error hfold]
  · rw [← List.nil_append (before ++ [file])]
    exact Watched.reads_bind_of_ok (Watched.reads_opening ⟨w, []⟩) hopen
      (Watched.reads_bind_of_error hreads hfold)

/-! ## Checks -/

/-- **A check** that comes to a file that cannot be read fails there and changes nothing. -/
theorem exec_checkAll_of_unreadable (hbefore : ∀ file ∈ before, ∃ t, w.files.readText file = .ok t)
    (hread : w.files.readText file = .error e) (json : Bool) (after : List Text) :
    w.exec (checkAll settings json (before ++ file :: after)) =
      (.error (.unreadable file e), w) := by
  obtain ⟨stories, rfl, hstories⟩ := FileSystem.exists_storyFiles hbefore
  apply World.exec_bind_of_error
  rw [List.mapM_append, World.exec_bind_of_ok (exec_mapM_checkFile hstories), List.mapM_cons]
  exact World.exec_bind_of_error
    (World.exec_bind_of_error (exec_checkFile_of_unreadable hread))

/-- Of the files that cannot be read, one is the first. -/
theorem FileSystem.exists_first_unreadable {fs : FileSystem} (h : file ∈ files)
    (hread : fs.readText file = .error e) :
    ∃ before first after e', files = before ++ first :: after ∧
      (∀ file ∈ before, ∃ t, fs.readText file = .ok t) ∧ fs.readText first = .error e' := by
  induction files with
  | nil => cases h
  | cons head files ih =>
    cases hhead : fs.readText head with
    | error e' => exact ⟨[], head, files, e', rfl, fun _ h => absurd h List.not_mem_nil, hhead⟩
    | ok t =>
      have hlater : file ∈ files := by
        refine (List.mem_cons.1 h).resolve_left ?_
        rintro rfl
        cases hread.symm.trans hhead
      obtain ⟨before, first, after, e', rfl, hbefore, hfirst⟩ := ih hlater
      exact ⟨head :: before, first, after, e', rfl,
        List.forall_mem_cons.2 ⟨⟨t, hhead⟩, hbefore⟩, hfirst⟩

/-! ## Both commands -/

/-- **A command ends at the first file that it cannot read.**  When documents are made, be they
written or only shown, the run fails at the file that cannot be read when its turn comes; the files
and all that is printed are those of the run on the stories before, but for the counts that this one
prints at its end, and no file behind the one that cannot be read is read.  A check fails at the
first such file and prints nothing, and nothing changes. -/
theorem exec_of_unreadable (w : World) (settings : Settings) :
    (∀ (dryRun : Bool) (before after : List Text) (file : Text) (e : FileError) (status : Status)
      (finished : World),
      w.exec (generateAll settings dryRun before) = (.ok status, finished) →
      finished.files.readText file = .error e →
      ∃ last s,
        w.exec (generateAll settings dryRun (before ++ file :: after)) =
            (.error (.unreadable file e), last) ∧
          last.files = finished.files ∧ last.written = finished.written ∧
          finished.notices = last.notices ++ [.summary s] ∧
          finished.stdout = last.stdout ++ Text.unlines [s.message] ∧
          Watched.exec ⟨w, []⟩ (generateAll settings dryRun (before ++ file :: after)) =
            (.error (.unreadable file e), ⟨last, before ++ [file]⟩)) ∧
    (∀ (json : Bool) (files : List Text) (file : Text) (e : FileError),
      file ∈ files → w.files.readText file = .error e →
      ∃ before first after e', files = before ++ first :: after ∧
        (∀ file ∈ before, ∃ t, w.files.readText file = .ok t) ∧
        w.files.readText first = .error e' ∧
        w.exec (checkAll settings json files) = (.error (.unreadable first e'), w)) ∧
    ∀ (file : Text) (e : FileError),
      (Failure.unreadable file e).messages = ["failed to read ".toList ++ file, e.message] := by
  refine ⟨fun dryRun before after file e status finished hbefore hread => ?_,
    fun json files file e hmem hread => ?_, fun _ _ => rfl⟩
  · obtain ⟨opened, last, s, hopen, hfold, rfl⟩ := exists_exec_foldlM_of_exec_generateAll hbefore
    obtain ⟨hexec, hreads⟩ := exec_generateAll_of_unreadable hopen hfold hread after
    refine ⟨last, s, hexec, rfl, rfl, rfl, ?_, hreads.exec_eq hexec⟩
    simp [World.stdout, World.print, Notice.text]
  · obtain ⟨before, first, after, e', rfl, hreadable, hfirst⟩ :=
      FileSystem.exists_first_unreadable hmem hread
    exact ⟨before, first, after, e', rfl, hreadable, hfirst,
      exec_checkAll_of_unreadable hreadable hfirst json after⟩

/-- The three stories of the market are taken before a file that is not there, and one after it. -/
theorem exec_of_unreadable_market :
    let settings : Settings := { defaultLanguage := .english, fileNameWords := 6 }
    let before := ["a.txt".toList, "b.txt".toList, "features/c.txt".toList]
    let finished := (market.exec (generateAll settings false before)).2
    market.exec (generateAll settings false before) = (.ok .success, finished) ∧
      finished.files.readText "d.txt".toList = .error .notFound ∧
      market.files.readText "d.txt".toList = .error .notFound ∧
      (∃ last s,
        market.exec (generateAll settings false (before ++ ["d.txt".toList, "a.txt".toList])) =
            (.error (.unreadable "d.txt".toList .notFound), last) ∧
          last.files = finished.files ∧ last.written = finished.written ∧
          finished.notices = last.notices ++ [.summary s] ∧
          finished.stdout = last.stdout ++ Text.unlines [s.message] ∧
          Watched.exec ⟨market, []⟩
              (generateAll settings false (before ++ ["d.txt".toList, "a.txt".toList])) =
            (.error (.unreadable "d.txt".toList .notFound), ⟨last, before ++ ["d.txt".toList]⟩)) ∧
      ∃ before first after e',
        ["b.txt".toList, "d.txt".toList, "e.txt".toList] = before ++ first :: after ∧
          (∀ file ∈ before, ∃ t, market.files.readText file = .ok t) ∧
          market.files.readText first = .error e' ∧
          market.exec (checkAll settings true ["b.txt".toList, "d.txt".toList, "e.txt".toList]) =
            (.error (.unreadable first e'), market) := by
  intro settings before finished
  have hsuccess : (market.exec (generateAll settings false before)).1 = .ok .success := by
    decide +kernel
  have hbefore : market.exec (generateAll settings false before) = (.ok .success, finished) :=
    Prod.ext hsuccess rfl
  have hread : finished.files.readText "d.txt".toList = .error .notFound := by decide +kernel
  have hmissing : market.files.readText "d.txt".toList = .error .notFound := by decide +kernel
  obtain ⟨hgenerate, hcheck, -⟩ := exec_of_unreadable market settings
  exact ⟨hbefore, hread, hmissing,
    hgenerate false before ["a.txt".toList] "d.txt".toList .notFound .success finished hbefore
      hread,
    hcheck true _ "d.txt".toList .notFound (by decide) hmissing⟩

end StorySpec
