import StorySpec.Command.Run

/-!
# What commands do to a world

A command that runs in a world that is a value ends with a result and with another world.  It comes
to its end when each of its actions does, every action in the world that the one before it has left
behind.

## Main definitions

* `World.exec w action`: the result of an action in the world `w`, and the world after it.
* `World.print w notices`: the world with more notices.

## Main results

* `exec_bind`, `exec_bind_eq_ok_iff`: one action after another.
* `exec_orFail`: an action whose error is a failure.
* `exec_readInput_eq_ok_iff`, `exec_produce_eq_ok_iff`: the actions that commands are made of.
-/

namespace StorySpec

namespace World

variable {α β : Type} {w w' : World} {settings : Settings} {file path t : Text}

/-- The result of an action in a world, and the world after it. -/
def exec (w : World) (action : ExceptT Failure (StateM World) α) : Except Failure α × World :=
  action.run.run w

/-- The world with more notices printed. -/
def print (w : World) (notices : List Notice) : World :=
  { w with notices := w.notices ++ notices }

/-- One action after another. -/
theorem exec_bind (w : World) (action : ExceptT Failure (StateM World) α)
    (next : α → ExceptT Failure (StateM World) β) :
    w.exec (action >>= next) =
      match w.exec action with
      | (.ok a, w₁) => w₁.exec (next a)
      | (.error failure, w₁) => (.error failure, w₁) := by
  change (match w.exec action with
    | (result, w₁) => w₁.exec (ExceptT.mk (ExceptT.bindCont next result))) = _
  rcases w.exec action with ⟨result, w₁⟩
  cases result <;> rfl

/-- An action that comes to an end, and the one after it. -/
theorem exec_bind_of_ok {action : ExceptT Failure (StateM World) α}
    {next : α → ExceptT Failure (StateM World) β} {a : α} (h : w.exec action = (.ok a, w')) :
    w.exec (action >>= next) = w'.exec (next a) := by
  rw [exec_bind, h]

/-- There is no action after one that fails. -/
theorem exec_bind_of_error {action : ExceptT Failure (StateM World) α}
    {next : α → ExceptT Failure (StateM World) β} {f : Failure}
    (h : w.exec action = (.error f, w')) : w.exec (action >>= next) = (.error f, w') := by
  rw [exec_bind, h]

/-- An action that does not fail. -/
theorem exec_lift (w : World) (action : StateM World α) :
    w.exec (liftM action) = (.ok (action.run w).1, (action.run w).2) := rfl

/-- Two actions come to an end when the first does, and the second in the world after it. -/
theorem exec_bind_eq_ok_iff {action : ExceptT Failure (StateM World) α}
    {next : α → ExceptT Failure (StateM World) β} {b : β} :
    w.exec (action >>= next) = (.ok b, w') ↔
      ∃ a w₁, w.exec action = (.ok a, w₁) ∧ w₁.exec (next a) = (.ok b, w') := by
  rw [exec_bind]
  rcases w.exec action with ⟨result, w₁⟩
  cases result with
  | error failure => simp
  | ok a =>
    constructor
    · intro h
      exact ⟨a, w₁, rfl, h⟩
    · rintro ⟨_, _, ⟨rfl, rfl⟩, h⟩
      exact h

@[simp] theorem exec_announce (w : World) (n : Notice) :
    w.exec (announce n) = (.ok (), w.print [n]) := rfl

/-- A notice is printed before there is a result. -/
theorem exec_announce_bind_pure (w : World) (n : Notice) (a : α) :
    w.exec (announce n >>= fun _ => pure a) = (.ok a, w.print [n]) := rfl

/-- An action whose error is a failure. -/
theorem exec_orFail (w : World) (failure : FileError → Failure)
    (action : StateM World (Except FileError α)) :
    w.exec (orFail failure action) =
      match action.run w with
      | (.ok a, w₁) => (.ok a, w₁)
      | (.error e, w₁) => (.error (failure e), w₁) := by
  rw [orFail, exec_bind, exec_lift]
  rcases action.run w with ⟨result, w₁⟩
  cases result <;> rfl

/-- An action of the workspace leaves the same world behind when its error is a failure. -/
theorem exec_orFail_snd (w : World) (failure : FileError → Failure)
    (action : StateM World (Except FileError α)) :
    (w.exec (orFail failure action)).2 = (action.run w).2 := by
  rw [exec_orFail]
  rcases action.run w with ⟨result, w₁⟩
  cases result <;> rfl

/-! ## The actions of the workspace -/

theorem run_readText (w : World) (path : Text) :
    (Workspace.readText path : StateM World (Except FileError Text)).run w =
      (w.files.readText path, w) := rfl

theorem run_openOutput (w : World) (root : Text) :
    (Workspace.openOutput root : StateM World (Except FileError Unit)).run w =
      w.openOutput root := rfl

theorem run_writeOutput (w : World) (root path t : Text) :
    (Workspace.writeOutput root path t : StateM World (Except FileError Unit)).run w =
      w.writeOutput root path t := rfl

/-! ## The steps of commands -/

/-- Reading a file changes nothing. -/
theorem exec_readInput (w : World) (file : Text) :
    w.exec (readInput file) =
      match w.files.readText file with
      | .ok t => (.ok t, w)
      | .error e => (.error (.unreadable file e), w) := by
  rw [readInput, exec_orFail, run_readText]
  cases w.files.readText file <;> rfl

theorem exec_readInput_eq_ok_iff :
    w.exec (readInput file) = (.ok t, w') ↔ w.files.readText file = .ok t ∧ w' = w := by
  rw [exec_readInput]
  cases w.files.readText file <;> simp [eq_comm]

theorem exec_openOutput_eq_ok_iff {failure : FileError → Failure} {root : Text} :
    w.exec (orFail failure (Workspace.openOutput root)) = (.ok (), w') ↔
      w.openOutput root = (.ok (), w') := by
  rw [exec_orFail, run_openOutput]
  rcases w.openOutput root with ⟨result, opened⟩
  cases result <;> simp

/-- A text that is produced is written, and said to be. -/
theorem exec_produce_eq_ok_iff {failure : FileError → Failure} :
    w.exec (produce settings false failure path t) = (.ok (), w') ↔
      ∃ files, w.files.writeText settings.outputDirectory path t = .ok files ∧
        w' = { w with
          files
          written := w.written ++ [(path, t)]
          notices := w.notices ++ [.created (Path.append settings.outputDirectory path)] } := by
  rw [produce, if_neg (by decide), exec_bind, exec_orFail, run_writeOutput, writeOutput]
  cases w.files.writeText settings.outputDirectory path t <;> simp [print, eq_comm]

end World

end StorySpec
