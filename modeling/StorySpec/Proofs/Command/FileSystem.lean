import Mathlib.Data.List.Basic
import StorySpec.Command.FileSystem

/-!
# Writing below a directory

A text is written to a place where no directory is, so that the directories of a file system stay
what they are, and paths go on leading to the places that they led to.  A file is then what the last
text written to it has made of it: texts that are written to other paths leave it alone, as long as
the paths are plain, that is, as long as no two of them lead to one place.

## Main definitions

* `Path.IsPlain path`: a path of names, none of which stands for a directory that is there already.
* `FileSystem.placeBelow fs root path`: the place that a path leads to from the end of `root`.
* `FileSystem.Holds fs root path t`: the file that a path leads to holds the text `t`.
* `FileSystem.SameDirectories fs fs'`: the same places are directories.
* `FileSystem.writeAll fs root docs`: the file system with texts in files below a directory.

## Main results

* `follow_eq_ok_iff_of_sameDirectories`: names lead to the same places among the same directories.
* `Holds.writeText`: a text in a file stays when one is written to another plain path.
* `find?_writeAll`: where a file system differs after some texts have been written.
* `holds_of_writeAll`: the last text that is written to a plain path is the one that stays.
-/

namespace StorySpec

/-! ## Plain paths -/

namespace Path

/-- A path that consists of names with single slashes between them, of which none leads to the
directory itself or to the one around it. -/
def IsPlain (path : Text) : Prop :=
  ∀ name ∈ path.splitOn '/', name ≠ [] ∧ name ≠ here ∧ name ≠ up

variable {path other : Text}

/-- The names to follow in a plain path are what stands between its slashes. -/
theorem IsPlain.steps_eq (h : IsPlain path) : steps path = path.splitOn '/' := by
  have hnames : names path = path.splitOn '/' :=
    List.filter_eq_self.2 fun name hname => by simpa using (h name hname).1
  have hlast : path.getLast? ≠ some '/' := by
    intro hslash
    obtain ⟨front, rfl⟩ := List.getLast?_eq_some_iff.1 hslash
    have hnil : [] ∈ (front ++ ['/']).splitOn '/' := by
      rw [List.splitOn, List.splitOnP_append_cons front [] (by decide)]
      simp
    exact (h [] hnil).1 rfl
  rw [steps, if_neg hlast, hnames]

/-- A plain path is known from the names to follow in it. -/
theorem IsPlain.eq_of_steps_eq (h : IsPlain path) (h' : IsPlain other)
    (heq : steps path = steps other) : path = other := by
  rw [h.steps_eq, h'.steps_eq] at heq
  calc path = ['/'].intercalate (path.splitOn '/') := (List.intercalate_splitOn '/').symm
    _ = ['/'].intercalate (other.splitOn '/') := by rw [heq]
    _ = other := List.intercalate_splitOn '/'

theorem IsPlain.of_mem_steps (h : IsPlain path) {name : Text} (hname : name ∈ steps path) :
    name ≠ here ∧ name ≠ up := by
  rw [h.steps_eq] at hname
  exact (h name hname).2

end Path

namespace FileSystem

open StorySpec.Path (IsPlain)

variable {fs fs' : FileSystem} {place dir : Place} {root path other t u : Text} {entry : Entry}

/-! ## Entries -/

theorem lookup_filter_ne {entries : List (Place × Entry)} {place other : Place}
    (h : other ≠ place) :
    (entries.filter (·.1 != place)).lookup other = entries.lookup other := by
  induction entries with
  | nil => rfl
  | cons e entries ih =>
    obtain ⟨p, entry⟩ := e
    by_cases hp : p = place
    · subst hp
      rw [List.filter_cons_of_neg (by simp), ih, List.lookup_cons, beq_false_of_ne h]
    · rw [List.filter_cons_of_pos (by simpa using hp), List.lookup_cons, List.lookup_cons, ih]

theorem find?_insert_self (h : place.isAround = false) (fs : FileSystem) (entry : Entry) :
    (fs.insert place entry).find? place = some entry := by
  have hnone : (fs.entries.filter (·.1 != place)).lookup place = none := by
    apply List.lookup_eq_none_iff.2
    intro e he
    simpa [bne_comm] using (List.mem_filter.1 he).2
  simp [find?, insert, h, List.lookup_append, hnone]

theorem find?_insert_of_ne {other : Place} (h : other ≠ place) (fs : FileSystem) (entry : Entry) :
    (fs.insert place entry).find? other = fs.find? other := by
  have hnew : [(place, entry)].lookup other = none :=
    List.lookup_eq_none_iff.2 (by simpa using h)
  simp [find?, insert, List.lookup_append, lookup_filter_ne h, hnew]

theorem isAround_eq_false_of_find? (h : fs.find? place ≠ some .directory) :
    place.isAround = false := by
  by_contra haround
  exact h (if_pos (by simpa using haround))

/-! ## Directories -/

/-- The same places are directories. -/
def SameDirectories (fs fs' : FileSystem) : Prop :=
  ∀ place, fs.find? place = some .directory ↔ fs'.find? place = some .directory

theorem SameDirectories.symm (h : SameDirectories fs fs') : SameDirectories fs' fs :=
  fun place => (h place).symm

/-- A file in a place where no directory is changes no directory. -/
theorem sameDirectories_insert_file (h : fs.find? place ≠ some .directory) (content : Content) :
    SameDirectories fs (fs.insert place (.file content)) := by
  intro other
  by_cases hother : other = place
  · subst hother
    rw [find?_insert_self (isAround_eq_false_of_find? h)]
    simp [h]
  · rw [find?_insert_of_ne hother]

theorem follow_cons_eq_ok_iff {name : Text} {names : List Text} {target : Place} :
    fs.follow place (name :: names) = .ok target ↔
      fs.find? place = some .directory ∧ name.width ≤ 255 ∧
        fs.follow (place.child name) names = .ok target := by
  rw [follow]
  split
  · simp_all
  · simp_all
  · rename_i hdirectory
    by_cases hwidth : 255 < name.width
    · simp [hwidth, Nat.not_le.2 hwidth]
    · simp [hwidth, hdirectory, Nat.le_of_not_lt hwidth]

/-- **Names lead to the same places** among the same directories. -/
theorem follow_eq_ok_iff_of_sameDirectories (h : SameDirectories fs fs') {names : List Text}
    {place target : Place} :
    fs.follow place names = .ok target ↔ fs'.follow place names = .ok target := by
  induction names generalizing place with
  | nil => exact Iff.rfl
  | cons name names ih => rw [follow_cons_eq_ok_iff, follow_cons_eq_ok_iff, h place, ih]

/-- Names that stand for no directory that is there already lead to the place made of them. -/
theorem eq_append_of_follow {names : List Text} {place target : Place}
    (hnames : ∀ name ∈ names, name ≠ Path.here ∧ name ≠ Path.up)
    (h : fs.follow place names = .ok target) : target = place ++ names := by
  induction names generalizing place with
  | nil => simpa [follow] using h.symm
  | cons name names ih =>
    obtain ⟨-, -, hrest⟩ := follow_cons_eq_ok_iff.1 h
    obtain ⟨hhere, hup⟩ := hnames name List.mem_cons_self
    have htarget := ih (fun name' hname' => hnames name' (List.mem_cons_of_mem name hname')) hrest
    rw [htarget, Place.child, if_neg hhere, if_neg hup, List.append_assoc, List.singleton_append]

/-! ## Places below a directory -/

/-- The place that a path leads to from the directory at the end of `root`. -/
def placeBelow (fs : FileSystem) (root path : Text) : Except FileError Place := do
  fs.locateFrom (← fs.locate root) path

theorem locateFrom_eq_ok_iff :
    fs.locateFrom dir path = .ok place ↔
      pathError? path = none ∧ path ≠ [] ∧ fs.follow dir (Path.steps path) = .ok place := by
  rw [locateFrom]
  split
  · simp_all
  · by_cases hpath : path = [] <;> simp_all

theorem placeBelow_eq_ok_iff :
    fs.placeBelow root path = .ok place ↔
      ∃ dir, fs.locate root = .ok dir ∧ fs.locateFrom dir path = .ok place := by
  rw [placeBelow]
  cases fs.locate root <;> simp [bind, Except.bind]

theorem locateFrom_eq_ok_iff_of_sameDirectories (h : SameDirectories fs fs') :
    fs.locateFrom dir path = .ok place ↔ fs'.locateFrom dir path = .ok place := by
  rw [locateFrom_eq_ok_iff, locateFrom_eq_ok_iff, follow_eq_ok_iff_of_sameDirectories h]

theorem placeBelow_eq_ok_iff_of_sameDirectories (h : SameDirectories fs fs') :
    fs.placeBelow root path = .ok place ↔ fs'.placeBelow root path = .ok place := by
  simp only [placeBelow_eq_ok_iff, locate, locateFrom_eq_ok_iff_of_sameDirectories h]

/-- Two plain paths that lead to one place are one path. -/
theorem eq_of_placeBelow_eq (hpath : IsPlain path) (hother : IsPlain other)
    (h : fs.placeBelow root path = .ok place) (h' : fs.placeBelow root other = .ok place) :
    path = other := by
  obtain ⟨dir, hdir, hplace⟩ := placeBelow_eq_ok_iff.1 h
  obtain ⟨dir', hdir', hplace'⟩ := placeBelow_eq_ok_iff.1 h'
  obtain rfl : dir = dir' := Except.ok.inj (hdir.symm.trans hdir')
  have hsteps := eq_append_of_follow (fun _ => hpath.of_mem_steps)
    (locateFrom_eq_ok_iff.1 hplace).2.2
  have hsteps' := eq_append_of_follow (fun _ => hother.of_mem_steps)
    (locateFrom_eq_ok_iff.1 hplace').2.2
  exact hpath.eq_of_steps_eq hother (List.append_cancel_left (hsteps.symm.trans hsteps'))

/-! ## Writing -/

/-- The file that a path leads to from the directory at the end of `root` holds the text `t`. -/
def Holds (fs : FileSystem) (root path t : Text) : Prop :=
  ∃ place, fs.placeBelow root path = .ok place ∧ fs.find? place = some (.file (.text t))

theorem holds_iff :
    fs.Holds root path t ↔
      (fs.placeBelow root path).toOption.bind fs.find? = some (.file (.text t)) := by
  rw [Holds]
  cases fs.placeBelow root path <;> simp [Except.toOption]

instance : Decidable (fs.Holds root path t) :=
  decidable_of_iff' _ holds_iff

theorem writeText_eq_ok_iff :
    fs.writeText root path t = .ok fs' ↔
      ∃ place, fs.placeBelow root path = .ok place ∧ fs.find? place ≠ some .directory ∧
        fs' = fs.insert place (.file (.text t)) := by
  unfold writeText placeBelow
  cases fs.locate root with
  | error e => simp [bind, Except.bind]
  | ok base =>
    simp only [bind, Except.bind]
    cases fs.locateFrom base path with
    | error e => simp
    | ok place =>
      simp only [Except.ok.injEq, exists_eq_left']
      split
      · simp_all
      · rename_i hdirectory
        exact ⟨fun h => ⟨hdirectory, (Except.ok.inj h).symm⟩, fun h => by rw [h.2]⟩

theorem sameDirectories_of_writeText (h : fs.writeText root path t = .ok fs') :
    SameDirectories fs fs' := by
  obtain ⟨place, -, hdirectory, rfl⟩ := writeText_eq_ok_iff.1 h
  exact sameDirectories_insert_file hdirectory _

/-- A text that has been written is there. -/
theorem holds_of_writeText (h : fs.writeText root path t = .ok fs') : fs'.Holds root path t := by
  have hsame := sameDirectories_of_writeText h
  obtain ⟨place, hplace, hdirectory, rfl⟩ := writeText_eq_ok_iff.1 h
  refine ⟨place, (placeBelow_eq_ok_iff_of_sameDirectories hsame).1 hplace, ?_⟩
  exact find?_insert_self (isAround_eq_false_of_find? hdirectory) _ _

/-- **A text stays** when one is written to another plain path. -/
theorem Holds.writeText (hholds : fs.Holds root path t) (hpath : IsPlain path)
    (hother : IsPlain other) (hne : path ≠ other) (h : fs.writeText root other u = .ok fs') :
    fs'.Holds root path t := by
  have hsame := sameDirectories_of_writeText h
  obtain ⟨place, hplace, hfile⟩ := hholds
  obtain ⟨target, htarget, -, rfl⟩ := writeText_eq_ok_iff.1 h
  refine ⟨place, (placeBelow_eq_ok_iff_of_sameDirectories hsame).1 hplace, ?_⟩
  have hplaces : place ≠ target := by
    rintro rfl
    exact hne (eq_of_placeBelow_eq hpath hother hplace htarget)
  rw [find?_insert_of_ne hplaces, hfile]

/-! ## Writing several texts -/

/-- The file system with texts in files below a directory, written one after the other. -/
def writeAll (fs : FileSystem) (root : Text) (docs : List (Text × Text)) :
    Except FileError FileSystem :=
  docs.foldlM (fun fs doc => fs.writeText root doc.1 doc.2) fs

variable {docs : List (Text × Text)}

theorem writeAll_append_eq_ok_iff {before after : List (Text × Text)} :
    fs.writeAll root (before ++ after) = .ok fs' ↔
      ∃ mid, fs.writeAll root before = .ok mid ∧ mid.writeAll root after = .ok fs' := by
  rw [writeAll, List.foldlM_append]
  change (fs.writeAll root before).bind (·.writeAll root after) = _ ↔ _
  cases fs.writeAll root before <;> simp [Except.bind]

theorem writeAll_cons_eq_ok_iff {doc : Text × Text} :
    fs.writeAll root (doc :: docs) = .ok fs' ↔
      ∃ mid, fs.writeText root doc.1 doc.2 = .ok mid ∧ mid.writeAll root docs = .ok fs' := by
  rw [writeAll, List.foldlM_cons]
  change (fs.writeText root doc.1 doc.2).bind (·.writeAll root docs) = _ ↔ _
  cases fs.writeText root doc.1 doc.2 <;> simp [Except.bind]

theorem sameDirectories_of_writeAll (h : fs.writeAll root docs = .ok fs') :
    SameDirectories fs fs' := by
  induction docs generalizing fs with
  | nil =>
    cases h
    exact fun _ => Iff.rfl
  | cons doc docs ih =>
    obtain ⟨mid, hwrite, hrest⟩ := writeAll_cons_eq_ok_iff.1 h
    exact fun place => (sameDirectories_of_writeText hwrite place).trans (ih hrest place)

/-- **A place changes** only where the path of a text leads to it, and then it holds such a text. -/
theorem find?_writeAll (h : fs.writeAll root docs = .ok fs') (place : Place) :
    fs'.find? place = fs.find? place ∨
      ∃ doc ∈ docs, fs'.placeBelow root doc.1 = .ok place ∧
        fs'.find? place = some (.file (.text doc.2)) := by
  induction docs generalizing fs with
  | nil =>
    cases h
    exact Or.inl rfl
  | cons doc docs ih =>
    obtain ⟨mid, hwrite, hrest⟩ := writeAll_cons_eq_ok_iff.1 h
    rcases ih hrest with heq | ⟨later, hlater, hwritten⟩
    · have hsame := sameDirectories_of_writeAll h
      obtain ⟨target, htarget, hdirectory, rfl⟩ := writeText_eq_ok_iff.1 hwrite
      by_cases hplace : place = target
      · subst hplace
        refine Or.inr ⟨doc, List.mem_cons_self, ?_, ?_⟩
        · exact (placeBelow_eq_ok_iff_of_sameDirectories hsame).1 htarget
        · rw [heq, find?_insert_self (isAround_eq_false_of_find? hdirectory)]
      · exact Or.inl (heq.trans (find?_insert_of_ne hplace fs _))
    · exact Or.inr ⟨later, List.mem_cons_of_mem doc hlater, hwritten⟩

theorem Holds.writeAll (hholds : fs.Holds root path t) (hpath : IsPlain path)
    (hdocs : ∀ doc ∈ docs, IsPlain doc.1 ∧ path ≠ doc.1) (h : fs.writeAll root docs = .ok fs') :
    fs'.Holds root path t := by
  induction docs generalizing fs with
  | nil =>
    cases h
    exact hholds
  | cons doc docs ih =>
    obtain ⟨mid, hwrite, hrest⟩ := writeAll_cons_eq_ok_iff.1 h
    obtain ⟨hplain, hne⟩ := hdocs doc List.mem_cons_self
    exact ih (hholds.writeText hpath hplain hne hwrite)
      (fun doc' hdoc' => hdocs doc' (List.mem_cons_of_mem doc hdoc')) hrest

/-- **The last text that is written** to a plain path is the one that stays. -/
theorem holds_of_writeAll {before after : List (Text × Text)} (hpath : IsPlain path)
    (hafter : ∀ doc ∈ after, IsPlain doc.1 ∧ path ≠ doc.1)
    (h : fs.writeAll root (before ++ (path, t) :: after) = .ok fs') : fs'.Holds root path t := by
  obtain ⟨mid, -, hrest⟩ := writeAll_append_eq_ok_iff.1 h
  obtain ⟨written, hwrite, hafterwards⟩ := writeAll_cons_eq_ok_iff.1 hrest
  exact (holds_of_writeText hwrite).writeAll hpath hafter hafterwards

end FileSystem

end StorySpec
