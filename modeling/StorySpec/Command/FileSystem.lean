import StorySpec.Text

/-!
# File systems

A file system as commands see it: directories, and files that hold texts or other bytes, found by
paths.  A path is followed name by name, and every name but the last has to lead to a directory.

A *place* is where a path leads: a list of names from the working directory, or from the root of
everything for an absolute path.  Outside of the working directory only the directories around it
are known to be there.

## Main definitions

* `FileError`: why a file or directory cannot be used.
* `FileSystem`: what is at each place.
* `FileSystem.follow fs place names`: the place that names lead to.
* `FileSystem.readText fs path`: the text of a file.
* `FileSystem.makeDirectories fs path`: makes a directory and those around it.
* `FileSystem.writeText fs root path t`: the file system with a text in a file below a directory.
-/

namespace StorySpec

/-- Why a file or directory cannot be used. -/
inductive FileError where
  /-- There is nothing. -/
  | notFound
  /-- There is something already. -/
  | alreadyExists
  /-- A file is taken for a directory. -/
  | notDirectory
  /-- A directory is taken for a file. -/
  | isDirectory
  /-- A name has more than 255 bytes, or a path more than 4095. -/
  | nameTooLong
  /-- The path holds a null character. -/
  | nullInPath
  /-- The bytes of the file are no text. -/
  | notText
  /-- Anything else, in the words of the system. -/
  | other (message : Text)
  deriving DecidableEq, Repr

/-- The wording of the error. -/
def FileError.message : FileError → Text
  | .notFound => "No such file or directory (os error 2)".toList
  | .alreadyExists => "File exists (os error 17)".toList
  | .notDirectory => "Not a directory (os error 20)".toList
  | .isDirectory => "Is a directory (os error 21)".toList
  | .nameTooLong => "File name too long (os error 36)".toList
  | .nullInPath => "file name contained an unexpected NUL byte".toList
  | .notText => "stream did not contain valid UTF-8".toList
  | .other message => message

/-- What a file holds. -/
inductive Content where
  /-- A text. -/
  | text (t : Text)
  /-- Bytes that are no text in UTF-8. -/
  | bytes (b : List UInt8)
  deriving DecidableEq, Repr

/-- What a file of the given bytes holds. -/
def Content.ofBytes (b : ByteArray) : Content :=
  match String.fromUTF8? b with
  | some s => .text s.toList
  | none => .bytes b.toList

/-- What is at a place. -/
inductive Entry where
  | directory
  | file (content : Content)
  deriving DecidableEq, Repr

/-- The names that lead to somewhere: from the working directory, or from the root of everything
when the first name is a slash. -/
abbrev Place := List Text

/-! ## Paths -/

namespace Path

/-- The name of the directory itself. -/
def here : Text := ['.']

/-- The name of the directory around. -/
def up : Text := ['.', '.']

/-- The names in a path. -/
def names (path : Text) : List Text :=
  (path.splitOn '/').filter (· != [])

/-- The names to follow in a path; a slash at its end asks for a directory. -/
def steps (path : Text) : List Text :=
  if path.getLast? = some '/' then names path ++ [here] else names path

/-- Where a path starts from. -/
def start (path : Text) : Place :=
  if path.head? = some '/' then [['/']] else []

/-- A path continued by another one, which replaces it if it starts from the root. -/
def append (path other : Text) : Text :=
  if other.head? = some '/' ∨ path = [] then other
  else if path.getLast? = some '/' then path ++ other
  else path ++ '/' :: other

/-- The last name in a path. -/
def fileName (path : Text) : Text :=
  ((path.splitOn '/').getLast?).getD []

/-- A file name up to its last dot.  A dot at the beginning does not count. -/
def stem (name : Text) : Text :=
  match (name.reverse.dropWhile (· != '.')).drop 1 with
  | [] => name
  | before => before.reverse

/-- The names without the names of the directory itself at their end. -/
def dropHere (path : List Text) : List Text :=
  (path.reverse.dropWhile (· == here)).reverse

/-- The names of the directory around. -/
def parent (path : List Text) : List Text :=
  dropHere (dropHere path).dropLast

theorem length_dropHere_le (path : List Text) : (dropHere path).length ≤ path.length := by
  simpa [dropHere] using (List.dropWhile_sublist (· == here) (l := path.reverse)).length_le

theorem length_parent_lt {path : List Text} (h : path ≠ []) :
    (parent path).length < path.length := by
  have h₁ := length_dropHere_le path
  have h₂ := length_dropHere_le (dropHere path).dropLast
  have h₃ : (dropHere path).dropLast.length = (dropHere path).length - 1 := List.length_dropLast
  have h₄ := List.length_pos_iff.2 h
  unfold parent
  omega

end Path

namespace Place

/-- The directory around a place. -/
def around : Place → Place
  | [['/']] => [['/']]
  | place =>
    if place.getLast? = some Path.up ∨ place = [] then place ++ [Path.up] else place.dropLast

/-- The place that a name leads to. -/
def child (place : Place) (name : Text) : Place :=
  if name = Path.here then place
  else if name = Path.up then place.around
  else place ++ [name]

/-- Whether a place is the working directory, a directory around it, or the root. -/
def isAround (place : Place) : Bool :=
  place == [['/']] || place.all (· == Path.up)

end Place

/-! ## File systems -/

/-- A file system: what is at each place, apart from the directories that are always there. -/
structure FileSystem where
  /-- The places where something is, each at most once. -/
  entries : List (Place × Entry) := []
  deriving DecidableEq, Repr

namespace FileSystem

/-- What is at a place. -/
def find? (fs : FileSystem) (place : Place) : Option Entry :=
  if place.isAround then some .directory else fs.entries.lookup place

/-- The file system with something new at a place. -/
def insert (fs : FileSystem) (place : Place) (entry : Entry) : FileSystem where
  entries := fs.entries.filter (·.1 != place) ++ [(place, entry)]

/-- The place that names lead to.  What is there need not be known, but whatever they lead through
has to be a directory. -/
def follow (fs : FileSystem) (place : Place) : List Text → Except FileError Place
  | [] => .ok place
  | name :: rest =>
    match fs.find? place with
    | none => .error .notFound
    | some (.file _) => .error .notDirectory
    | some .directory =>
      if 255 < name.width then .error .nameTooLong else fs.follow (place.child name) rest

/-- Why a path cannot be looked up, whatever there is: it holds a null character, or it has 4096
bytes or more. -/
def pathError? (path : Text) : Option FileError :=
  if '\x00' ∈ path then some .nullInPath
  else if 4096 ≤ path.width then some .nameTooLong
  else none

/-- The place that a path leads to from a place. -/
def locateFrom (fs : FileSystem) (place : Place) (path : Text) : Except FileError Place :=
  match pathError? path with
  | some e => .error e
  | none => if path = [] then .error .notFound else fs.follow place (Path.steps path)

/-- The place that a path leads to. -/
def locate (fs : FileSystem) (path : Text) : Except FileError Place :=
  fs.locateFrom (Path.start path) path

/-! ## Reading and writing -/

/-- The text of a file. -/
def readText (fs : FileSystem) (path : Text) : Except FileError Text := do
  match fs.find? (← fs.locate path) with
  | none => .error .notFound
  | some .directory => .error .isDirectory
  | some (.file (.bytes _)) => .error .notText
  | some (.file (.text t)) => .ok t

/-- The file system with a text in a file, which replaces what the file held.  The path of the file
is followed from the directory at the end of `root`, and each of the two paths is looked up by
itself, so that only together they may be longer than one path can be. -/
def writeText (fs : FileSystem) (root path t : Text) : Except FileError FileSystem := do
  let place ← fs.locateFrom (← fs.locate root) path
  match fs.find? place with
  | some .directory => .error .isDirectory
  | _ => .ok (fs.insert place (.file (.text t)))

/-! ## Directories -/

/-- Whether names lead to a directory. -/
def isDirectory (fs : FileSystem) (place : Place) (path : List Text) : Bool :=
  match fs.follow place path with
  | .ok target => fs.find? target == some .directory
  | .error _ => false

/-- Makes a directory where names lead to, if nothing is there. -/
def makeDirectory (fs : FileSystem) (place : Place) (path : List Text) :
    Except FileError FileSystem := do
  let target ← fs.follow place path
  match fs.find? target with
  | some _ => .error .alreadyExists
  | none => .ok (fs.insert target .directory)

/-- Makes a directory where names lead to, unless there is a directory already. -/
def ensureDirectory (fs : FileSystem) (place : Place) (path : List Text) :
    FileSystem × Except FileError Unit :=
  match fs.makeDirectory place path with
  | .ok made => (made, .ok ())
  | .error e => if fs.isDirectory place path then (fs, .ok ()) else (fs, .error e)

/-- Makes a directory where names lead to, and those that it needs around it, unless there is a
directory already.  Where that fails, what has been made stays. -/
def makeAll (fs : FileSystem) (place : Place) (path : List Text) :
    FileSystem × Except FileError Unit :=
  if _h : path = [] then (fs, .ok ())
  else
    match fs.makeDirectory place path with
    | .error .notFound =>
      match fs.makeAll place (Path.parent path) with
      | (outer, .error e) => (outer, .error e)
      | (outer, .ok ()) => outer.ensureDirectory place path
    | _ => fs.ensureDirectory place path
termination_by path.length
decreasing_by exact Path.length_parent_lt _h

/-- Makes a directory at the end of a path, and those around it. -/
def makeDirectories (fs : FileSystem) (path : Text) : FileSystem × Except FileError Unit :=
  match pathError? path with
  | some e => (fs, .error e)
  | none => fs.makeAll (Path.start path) (Path.names path)

/-- Makes a directory of the given name in the directory at the end of a path. -/
def makeSubdirectory (fs : FileSystem) (path name : Text) : FileSystem × Except FileError Unit :=
  match fs.locate path with
  | .error e => (fs, .error e)
  | .ok place =>
    match fs.find? place with
    | some .directory => fs.makeAll place [name]
    | some (.file _) => (fs, .error .notDirectory)
    | none => (fs, .error .notFound)

/-- The file system with the given files and the directories around them. -/
def ofFiles (files : List (Text × Content)) : FileSystem :=
  files.foldl (fun fs file =>
    let names := Path.names file.1
    (fs.makeAll [] names.dropLast).1.insert names (.file file.2)) {}

end FileSystem

end StorySpec
