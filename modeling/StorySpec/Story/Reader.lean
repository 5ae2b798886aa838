import StorySpec.Language.Opener
import StorySpec.Story.BlockOpener

/-!
# Reading stories

A story is read line by line.  Blank lines count for the line numbers only, and all others are
kept trimmed.  The first line may be a language directive.  Up to the first block opener, a line
fills the first header field that it fits and that is still empty; after it, every line belongs to
the group opened last, as a step or, once examples have been opened, as an example.

Reading never fails: what is missing or out of place is left to the validation of the story.

## Main definitions

* `Mode`: what lines are taken for, and `Mode.after opener`, the mode that an opener starts.
* `numberedLines t`: the lines of `t` that are not blank, trimmed and with their numbers.
* `Reader`: a story that is being read.
* `Story.ofText default t`: the story in `t`, whose language is `default` without a directive.
-/

namespace StorySpec

/-- What the lines between two block openers are taken for. -/
inductive Mode where
  | steps
  | examples
  deriving DecidableEq, Repr

/-- The mode that a block opener starts. -/
def Mode.after : BlockOpener → Mode
  | .group _ _ => .steps
  | .examples => .examples

/-- The lines of a text that are not blank, trimmed and with their numbers, which begin at 1. -/
def numberedLines (t : Text) : List (Nat × Text) :=
  (((Text.lines t).zipIdx 1).map fun (line, number) => (number, Text.trim line)).filter
    fun numbered => numbered.2 != []

/-- The list with its last element changed. -/
def modifyLast {α : Type} (f : α → α) : List α → List α
  | [] => []
  | [a] => [f a]
  | a :: b :: l => a :: modifyLast f (b :: l)

namespace Story

/-- The story with a header line in the first field that it fits and that is still empty. -/
def captureHeader (s : Story) (line : Text) : Story :=
  let openers := s.language.openers
  let fits (field : Text) (candidates : List Text) : Bool :=
    field == [] && (stripOpener line candidates).isSome
  if fits s.role openers.role then { s with role := line }
  else if fits s.want openers.want then { s with want := line }
  else if fits s.goal openers.goal then { s with goal := line }
  else s

/-- The story with a block opened on the given line. -/
def openBlock (s : Story) (number : Nat) : BlockOpener → Story
  | .group kind tag => { s with groups := s.groups ++ [{ kind, tag }] }
  | .examples =>
    if s.groups = [] then { s with orphanExamples := s.orphanExamples ++ [number] }
    else { s with groups := modifyLast (fun g => { g with declaresExamples := true }) s.groups }

/-- The story with a line that opens no block.  Before the first group it is a header line, unless
examples have been opened there. -/
def addLine (s : Story) (mode : Mode) (line : Text) : Story :=
  if s.groups = [] then
    match mode with
    | .steps => s.captureHeader line
    | .examples => s
  else
    match mode with
    | .steps =>
      { s with groups := modifyLast (fun g => { g with steps := g.steps ++ [line] }) s.groups }
    | .examples =>
      { s with
        groups := modifyLast (fun g => { g with examples := g.examples ++ [line] }) s.groups }

end Story

/-- A story that is being read. -/
structure Reader where
  story : Story
  /-- What the next line is taken for if it opens no block. -/
  mode : Mode := .steps
  deriving DecidableEq, Repr

/-- The reader after one more line. -/
def Reader.read (r : Reader) (numbered : Nat × Text) : Reader :=
  match BlockOpener.ofLine? numbered.2 with
  | some opener => { story := r.story.openBlock numbered.1 opener, mode := .after opener }
  | none => { r with story := r.story.addLine r.mode numbered.2 }

/-- The language of a story with the given lines, and the lines without the directive.  A directive
that names no supported language leaves the default. -/
def takeDirective (default : Language) : List (Nat × Text) → Language × List (Nat × Text)
  | [] => (default, [])
  | (number, line) :: rest =>
    match directiveCode? line with
    | none => (default, (number, line) :: rest)
    | some code =>
      match Language.ofCode code with
      | .ok l => (l, rest)
      | .error _ => (default, rest)

/-- The story in a text. -/
def Story.ofText (default : Language) (t : Text) : Story :=
  let (language, lines) := takeDirective default (numberedLines t)
  (lines.foldl Reader.read { story := { language } }).story

end StorySpec
