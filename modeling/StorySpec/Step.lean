import StorySpec.Keyword

/-!
# Step lines

A step line is a keyword and a text, with blanks between them.

## Main definitions

* `StepLine`: the parts of a step line.
* `StepLine.ofText? t`: the parts of the line `t`, when its first word is a keyword.
* `StepLine.write s l`: the step with its keyword in the language `l`.
* `translateStep t l`: the line `t` with its keyword, if it has one, in the language `l`.
* `stepText t`: what the line `t` says apart from its keyword.

## Main results

* `translateStep_of_none`: a line without keyword stays as it is.
-/

namespace StorySpec

/-- A line that opens with a keyword. -/
structure StepLine where
  slot : Slot
  /-- The language that the keyword is written in. -/
  language : Language
  /-- The keyword as it is written. -/
  word : Text
  /-- What follows the keyword and the blanks after it. -/
  text : Text
  deriving DecidableEq, Repr

namespace StepLine

/-- The parts of a line: its first word, which has to be a keyword, and what follows. -/
def ofText? (t : Text) : Option StepLine :=
  let line := Text.trim t
  let word := line.takeWhile fun c => !isBlank c
  let text := Text.trimStart (line.dropWhile fun c => !isBlank c)
  (Keyword.recognise? word).map fun (language, slot) => { slot, language, word, text }

/-- The step with its keyword in the language `l`, alone when the step has no text. -/
def write (s : StepLine) (l : Language) : Text :=
  if s.text = [] then s.slot.word l else s.slot.word l ++ ' ' :: s.text

end StepLine

/-- The line with its keyword in the language `l`; a line without keyword stays as it is. -/
def translateStep (t : Text) (l : Language) : Text :=
  match StepLine.ofText? t with
  | some s => s.write l
  | none => t

/-- What a line says apart from its keyword. -/
def stepText (t : Text) : Text :=
  match StepLine.ofText? t with
  | some s => s.text
  | none => Text.trim t

/-- A line without keyword stays as it is. -/
theorem translateStep_of_none {t : Text} {l : Language} (h : StepLine.ofText? t = none) :
    translateStep t l = t := by
  simp [translateStep, h]

theorem translateStep_of_some {t : Text} {l : Language} {s : StepLine}
    (h : StepLine.ofText? t = some s) : translateStep t l = s.write l := by
  simp [translateStep, h]

end StorySpec
