import Mathlib.Data.List.DropRight
import StorySpec.Command.Workspace
import StorySpec.Proofs.Command.FileSystem

/-!
# Reading while directories and files are written

A directory is made only where nothing is, so that everything which is in a file system persists in
the one with more directories, and a file that could be read before can be read afterwards.  A text
that is written replaces what a file held, and then only the files at other places are read as
before.

## Main definitions

* `FileSystem.PersistsIn fs fs'`: what is in `fs` is in `fs'`, too.
* `FileSystem.AddsDirectories fs start names fs'`: `fs'` has more directories, to which the first
  few of the names lead.
* `FileSystem.IsOutputDirectory fs root place`: a directory that is made for output below `root`.
* `FileSystem.Meets fs root path file`: the path `file` leads to the place that `path` leads to from
  the end of `root`.

## Main results

* `PersistsIn.readText`: files that persist are read as before.
* `addsDirectories_makeAll`: a directory is made with those around it, and nothing else.
* `find?_openOutput`, `persistsIn_openOutput`: everything persists when the output directory is
  opened, and nothing but directories is made.
* `readText_eq_ok_iff_of_writeAll`: a file is read as before when its path meets none of those that
  texts are written to.
-/

namespace StorySpec

namespace FileSystem

variable {fs fs' fs'' : FileSystem} {place target start : Place} {names names' : List Text}
  {root path file t : Text} {docs : List (Text × Text)}

/-! ## What persists -/

/-- What is in the first file system is in the second one, too. -/
def PersistsIn (fs fs' : FileSystem) : Prop :=
  ∀ place entry, fs.find? place = some entry → fs'.find? place = some entry

/-- Something new at a place where nothing is leaves everything else where it is. -/
theorem persistsIn_insert (h : fs.find? place = none) (entry : Entry) :
    fs.PersistsIn (fs.insert place entry) := by
  intro other found hfound
  have hne : other ≠ place := by
    rintro rfl
    rw [h] at hfound
    cases hfound
  rw [find?_insert_of_ne hne, hfound]

/-- Names go on leading to the places that they led to. -/
theorem PersistsIn.follow (h : fs.PersistsIn fs') (hfollow : fs.follow place names = .ok target) :
    fs'.follow place names = .ok target := by
  induction names generalizing place with
  | nil => exact hfollow
  | cons name names ih =>
    obtain ⟨hdirectory, hwidth, hrest⟩ := follow_cons_eq_ok_iff.1 hfollow
    exact follow_cons_eq_ok_iff.2 ⟨h _ _ hdirectory, hwidth, ih hrest⟩

theorem PersistsIn.locate (h : fs.PersistsIn fs') (hlocate : fs.locate path = .ok place) :
    fs'.locate path = .ok place := by
  obtain ⟨herror, hne, hfollow⟩ := locateFrom_eq_ok_iff.1 hlocate
  exact locateFrom_eq_ok_iff.2 ⟨herror, hne, h.follow hfollow⟩

/-- A text is read from the file that a path leads to. -/
theorem readText_eq_ok_iff :
    fs.readText path = .ok t ↔
      ∃ place, fs.locate path = .ok place ∧ fs.find? place = some (.file (.text t)) := by
  unfold readText
  cases fs.locate path with
  | error e => simp [bind, Except.bind]
  | ok place =>
    simp only [bind, Except.bind, Except.ok.injEq, exists_eq_left']
    split <;> simp_all

/-- **Files that persist** are read as before. -/
theorem PersistsIn.readText (h : fs.PersistsIn fs') (hread : fs.readText path = .ok t) :
    fs'.readText path = .ok t := by
  obtain ⟨place, hlocate, hfile⟩ := readText_eq_ok_iff.1 hread
  exact readText_eq_ok_iff.2 ⟨place, h.locate hlocate, h _ _ hfile⟩

/-! ## Making directories -/

/-- Where the two differ, nothing is in the first file system, and the second one has a directory to
which the first few of some names lead. -/
def AddsDirectories (fs : FileSystem) (start : Place) (names : List Text) (fs' : FileSystem) :
    Prop :=
  ∀ place, fs'.find? place = fs.find? place ∨
    fs.find? place = none ∧ fs'.find? place = some .directory ∧
      ∃ front, front <+: names ∧ fs'.follow start front = .ok place

/-- What is at no place where something is added persists. -/
theorem persistsIn_of_find?_eq (h : ∀ place, fs'.find? place = fs.find? place ∨
    fs.find? place = none) : fs.PersistsIn fs' := by
  intro place entry hentry
  rcases h place with heq | hnone
  · rw [heq, hentry]
  · rw [hnone] at hentry
    cases hentry

namespace AddsDirectories

theorem refl (fs : FileSystem) (start : Place) (names : List Text) :
    fs.AddsDirectories start names fs :=
  fun _ => Or.inl rfl

theorem persistsIn (h : fs.AddsDirectories start names fs') : fs.PersistsIn fs' :=
  persistsIn_of_find?_eq fun place => (h place).imp_right And.left

theorem mono (h : fs.AddsDirectories start names fs') (hnames : names <+: names') :
    fs.AddsDirectories start names' fs' := by
  intro place
  rcases h place with heq | ⟨hnone, hdirectory, front, hfront, hfollow⟩
  · exact Or.inl heq
  · exact Or.inr ⟨hnone, hdirectory, front, hfront.trans hnames, hfollow⟩

theorem trans (h : fs.AddsDirectories start names fs')
    (h' : fs'.AddsDirectories start names fs'') : fs.AddsDirectories start names fs'' := by
  intro place
  rcases h' place with heq' | ⟨hnone', hdirectory', hfront'⟩
  · rcases h place with heq | ⟨hnone, hdirectory, front, hfront, hfollow⟩
    · exact Or.inl (heq'.trans heq)
    · exact Or.inr ⟨hnone, heq'.trans hdirectory, front, hfront, h'.persistsIn.follow hfollow⟩
  · rcases h place with heq | ⟨-, hdirectory, -⟩
    · exact Or.inr ⟨heq ▸ hnone', hdirectory', hfront'⟩
    · rw [hnone'] at hdirectory
      cases hdirectory

end AddsDirectories

theorem addsDirectories_makeDirectory (h : fs.makeDirectory start names = .ok fs') :
    fs.AddsDirectories start names fs' := by
  unfold makeDirectory at h
  cases hfollow : fs.follow start names with
  | error e =>
    rw [hfollow] at h
    cases h
  | ok target =>
    simp only [hfollow, bind, Except.bind] at h
    split at h
    · cases h
    · rename_i hnone
      cases h
      intro place
      by_cases hplace : place = target
      · subst hplace
        have hdirectory : fs.find? place ≠ some .directory := by simp [hnone]
        have hnew := find?_insert_self (isAround_eq_false_of_find? hdirectory) fs .directory
        exact Or.inr ⟨hnone, hnew, names, List.prefix_rfl,
          (persistsIn_insert hnone .directory).follow hfollow⟩
      · exact Or.inl (find?_insert_of_ne hplace fs .directory)

theorem addsDirectories_ensureDirectory (fs : FileSystem) (start : Place) (names : List Text) :
    fs.AddsDirectories start names (fs.ensureDirectory start names).1 := by
  unfold ensureDirectory
  split
  · exact addsDirectories_makeDirectory ‹_›
  · split <;> exact AddsDirectories.refl fs start names

/-- The names of the directory around are the first of the names. -/
theorem parent_isPrefix (names : List Text) : Path.parent names <+: names := by
  have hdrop : ∀ path : List Text, Path.dropHere path <+: path := List.rdropWhile_prefix _
  exact (hdrop _).trans ((List.dropLast_prefix _).trans (hdrop names))

/-- A directory is made with those around it; where that fails, some of them may have been made. -/
theorem addsDirectories_makeAll (fs : FileSystem) (start : Place) (names : List Text) :
    fs.AddsDirectories start names (fs.makeAll start names).1 := by
  fun_induction makeAll fs start names with
  | case1 => exact AddsDirectories.refl _ _ _
  | case2 names hne hnone outer e houter ih =>
    rw [houter] at ih
    exact ih.mono (parent_isPrefix names)
  | case3 names hne hnone outer houter ih =>
    rw [houter] at ih
    exact (ih.mono (parent_isPrefix names)).trans
      (addsDirectories_ensureDirectory outer start names)
  | case4 names hne hother => exact addsDirectories_ensureDirectory fs start names

theorem addsDirectories_makeDirectories (fs : FileSystem) (path : Text) :
    fs.AddsDirectories (Path.start path) (Path.names path) (fs.makeDirectories path).1 := by
  unfold makeDirectories
  split
  · exact AddsDirectories.refl fs _ _
  · exact addsDirectories_makeAll fs _ _

/-- The output directory with those around it, and the directory for step files in it. -/
def IsOutputDirectory (fs : FileSystem) (root : Text) (place : Place) : Prop :=
  (∃ front, front <+: Path.names root ∧ fs.follow (Path.start root) front = .ok place) ∨
    ∃ dir, fs.locate root = .ok dir ∧ place = dir ++ [stepsDirectory]

theorem PersistsIn.isOutputDirectory (h : fs.PersistsIn fs')
    (hdirectory : fs.IsOutputDirectory root place) : fs'.IsOutputDirectory root place := by
  rcases hdirectory with ⟨front, hfront, hfollow⟩ | ⟨dir, hdir, hplace⟩
  · exact Or.inl ⟨front, hfront, h.follow hfollow⟩
  · exact Or.inr ⟨dir, h.locate hdir, hplace⟩

theorem isOutputDirectory_iff_of_sameDirectories (h : SameDirectories fs fs') :
    fs.IsOutputDirectory root place ↔ fs'.IsOutputDirectory root place := by
  simp only [IsOutputDirectory, locate, locateFrom_eq_ok_iff_of_sameDirectories h,
    follow_eq_ok_iff_of_sameDirectories h]

/-- The directory for step files is the only one that is made in the output directory. -/
theorem find?_makeSubdirectory (fs : FileSystem) (root : Text) (place : Place) :
    (fs.makeSubdirectory root stepsDirectory).1.find? place = fs.find? place ∨
      fs.find? place = none ∧
        (fs.makeSubdirectory root stepsDirectory).1.find? place = some .directory ∧
        ∃ dir, fs.locate root = .ok dir ∧ place = dir ++ [stepsDirectory] := by
  unfold makeSubdirectory
  split
  · exact Or.inl rfl
  · rename_i dir hdir
    split
    · rename_i hroot
      rcases addsDirectories_makeAll fs dir [stepsDirectory] place with
        heq | ⟨hnone, hdirectory, front, hfront, hfollow⟩
      · exact Or.inl heq
      · refine Or.inr ⟨hnone, hdirectory, dir, hdir, ?_⟩
        rcases List.prefix_cons_iff.1 hfront with rfl | ⟨rest, rfl, hrest⟩
        · cases hfollow
          rw [hroot] at hnone
          cases hnone
        · obtain rfl := List.prefix_nil.1 hrest
          exact eq_append_of_follow (by decide) hfollow
    · exact Or.inl rfl
    · exact Or.inl rfl

/-- **Opening the output directory** changes nothing but that directories are made, even where it
fails. -/
theorem find?_openOutput {w w' : World} {result : Except FileError Unit}
    (h : w.openOutput root = (result, w')) (place : Place) :
    w'.files.find? place = w.files.find? place ∨
      w.files.find? place = none ∧ w'.files.find? place = some .directory ∧
        w'.files.IsOutputDirectory root place := by
  have houter := addsDirectories_makeDirectories w.files root
  unfold World.openOutput at h
  split at h
  · rename_i files e hmade
    cases h
    rw [hmade] at houter
    exact (houter place).imp_right fun hnew => ⟨hnew.1, hnew.2.1, Or.inl hnew.2.2⟩
  · rename_i files hmade
    rw [hmade] at houter
    have hinner := find?_makeSubdirectory files root
    split at h
    rename_i files' result' hmade'
    cases h
    rw [hmade'] at hinner
    have hpersists : files.PersistsIn files' :=
      persistsIn_of_find?_eq fun place => (hinner place).imp_right And.left
    rcases hinner place with heq | ⟨hnone, hdirectory, dir, hdir, rfl⟩
    · rcases houter place with heq' | ⟨hnone, hdirectory, hfront⟩
      · exact Or.inl (heq.trans heq')
      · exact Or.inr ⟨hnone, heq.trans hdirectory, hpersists.isOutputDirectory (Or.inl hfront)⟩
    · rcases houter (dir ++ [stepsDirectory]) with heq' | ⟨-, hdirectory', -⟩
      · exact Or.inr ⟨heq' ▸ hnone, hdirectory, Or.inr ⟨dir, hpersists.locate hdir, rfl⟩⟩
      · rw [hnone] at hdirectory'
        cases hdirectory'

/-- **Everything persists** when the output directory is opened. -/
theorem persistsIn_openOutput {w w' : World} {result : Except FileError Unit}
    (h : w.openOutput root = (result, w')) : w.files.PersistsIn w'.files :=
  persistsIn_of_find?_eq fun place => (find?_openOutput h place).imp_right And.left

/-! ## Writing elsewhere -/

/-- The path `file` leads to the place that `path` leads to from the directory at the end of
`root`. -/
def Meets (fs : FileSystem) (root path file : Text) : Prop :=
  ∃ place, fs.locate file = .ok place ∧ fs.placeBelow root path = .ok place

theorem meets_iff :
    fs.Meets root path file ↔
      ∃ place ∈ (fs.locate file).toOption, (fs.placeBelow root path).toOption = some place := by
  rw [Meets]
  cases fs.locate file <;> cases fs.placeBelow root path <;> simp [Except.toOption]

instance : Decidable (fs.Meets root path file) :=
  decidable_of_iff' _ meets_iff

theorem meets_iff_of_sameDirectories (h : SameDirectories fs fs') :
    fs.Meets root path file ↔ fs'.Meets root path file := by
  simp only [Meets, locate, locateFrom_eq_ok_iff_of_sameDirectories h,
    placeBelow_eq_ok_iff_of_sameDirectories h]

/-- **A file is read as before** when its path meets none of those that texts are written to. -/
theorem readText_eq_ok_iff_of_writeAll (hapart : ∀ doc ∈ docs, ¬ fs.Meets root doc.1 file)
    (h : fs.writeAll root docs = .ok fs') :
    fs'.readText file = .ok t ↔ fs.readText file = .ok t := by
  have hsame := sameDirectories_of_writeAll h
  simp only [readText_eq_ok_iff, locate, locateFrom_eq_ok_iff_of_sameDirectories hsame.symm]
  refine exists_congr fun place => and_congr_right fun hplace => ?_
  rcases find?_writeAll h place with heq | ⟨doc, hdoc, htarget, -⟩
  · rw [heq]
  · have hbelow := (placeBelow_eq_ok_iff_of_sameDirectories hsame).2 htarget
    exact absurd ⟨place, hplace, hbelow⟩ (hapart doc hdoc)

end FileSystem

end StorySpec
