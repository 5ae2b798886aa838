import StorySpec.Command.FileSystem
import StorySpec.Command.Notice

/-!
# Workspaces

Commands read texts, make the output directory, write texts and print notices.  A workspace is
where they do so: a file system that is a value, or the one of the machine.

## Main definitions

* `Workspace m`: the four actions, in the monad `m`.
* `World`: a file system as a value, together with what has been written and printed.
* `World.stdout w`: the printed text.
-/

namespace StorySpec

/-- The directory for step files, in the output directory. -/
def stepsDirectory : Text :=
  "steps".toList

/-- Where commands read, write and print. -/
class Workspace (m : Type → Type) where
  /-- The text of a file. -/
  readText (path : Text) : m (Except FileError Text)
  /-- Makes the output directory and the directory for step files in it. -/
  openOutput (root : Text) : m (Except FileError Unit)
  /-- Writes a text into a file below the output directory, in place of what the file held. -/
  writeOutput (root path t : Text) : m (Except FileError Unit)
  announce (n : Notice) : m Unit

/-- A file system as a value, together with what has been written and printed. -/
structure World where
  files : FileSystem
  /-- The texts that have been written, with the paths below the output directory. -/
  written : List (Text × Text) := []
  /-- The notices that have been printed. -/
  notices : List Notice := []
  deriving DecidableEq, Repr

namespace World

/-- The printed text. -/
def stdout (w : World) : Text :=
  w.notices.flatMap Notice.text

/-- The world after the output directory has been opened, and whether that has been possible. -/
def openOutput (w : World) (root : Text) : Except FileError Unit × World :=
  match w.files.makeDirectories root with
  | (files, .error e) => (.error e, { w with files })
  | (files, .ok ()) =>
    match files.makeSubdirectory root stepsDirectory with
    | (files, result) => (result, { w with files })

/-- The world after a text has been written, and whether that has been possible. -/
def writeOutput (w : World) (root path t : Text) : Except FileError Unit × World :=
  match w.files.writeText root path t with
  | .ok files => (.ok (), { w with files, written := w.written ++ [(path, t)] })
  | .error e => (.error e, w)

end World

instance : Workspace (StateM World) where
  readText path := fun w => (w.files.readText path, w)
  openOutput root := fun w => w.openOutput root
  writeOutput root path t := fun w => w.writeOutput root path t
  announce n := fun w => ((), { w with notices := w.notices ++ [n] })

end StorySpec
