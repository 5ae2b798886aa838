import StorySpec.Language

/-!
# Step keywords

A step opens with a word that says which part it plays.  The part is the same in every language;
the word is not.  Words of both languages are known everywhere, in any case.

## Main definitions

* `Slot`: the part that a step plays.
* `Slot.word s l`: the word for `s` in the language `l`.
* `Keyword.recognise? w`: the language and the slot that the word `w` stands for.
* `Keyword.translate w l`, `Keyword.counterpart w`: the same keyword in the language `l`, or in the
  other language than its own.

## Main results

* `recognise?_word`: the word for a slot in a language stands for that slot in that language.
-/

namespace StorySpec

/-- The part that a step plays in its scenario. -/
inductive Slot where
  /-- What holds beforehand (`Given`). -/
  | setup
  /-- What is done (`When`). -/
  | action
  /-- What is then expected (`Then`). -/
  | outcome
  /-- More of what the step before says (`And`). -/
  | addition
  /-- What stands against the step before (`But`). -/
  | contrast
  deriving DecidableEq, Repr

/-- A word that is no step keyword. -/
structure InvalidKeyword where
  /-- The word, trimmed. -/
  word : Text
  deriving DecidableEq, Repr

/-- The wording of the error. -/
def InvalidKeyword.message (e : InvalidKeyword) : Text :=
  "invalid step keyword: ".toList ++ e.word

namespace Slot

/-- The slots, in the order in which their words are listed. -/
def all : List Slot :=
  [.setup, .action, .outcome, .addition, .contrast]

/-- The word for a slot. -/
def word : Slot → Language → Text
  | .setup, .portuguese => "Dado".toList
  | .action, .portuguese => "Quando".toList
  | .outcome, .portuguese => "Então".toList
  | .addition, .portuguese => "E".toList
  | .contrast, .portuguese => "Mas".toList
  | .setup, .english => "Given".toList
  | .action, .english => "When".toList
  | .outcome, .english => "Then".toList
  | .addition, .english => "And".toList
  | .contrast, .english => "But".toList

end Slot

namespace Keyword

/-- The keywords of a language, in the order of their slots. -/
def ofLanguage (l : Language) : List Text :=
  Slot.all.map (Slot.word · l)

/-- Every pair of a language and a slot. -/
def table : List (Language × Slot) :=
  Language.all.flatMap fun l => Slot.all.map fun s => (l, s)

/-- The language and the slot of a word; case does not matter. -/
def recognise? (w : Text) : Option (Language × Slot) :=
  table.find? fun entry => Text.lower (entry.2.word entry.1) == Text.lower w

/-- The keyword spelled in the language `l`; other words stay as they are. -/
def translate (w : Text) (l : Language) : Text :=
  match recognise? w with
  | some (_, s) => s.word l
  | none => w

/-- The keyword spelled in the other language than its own; other words stay as they are. -/
def counterpart (w : Text) : Text :=
  match recognise? w with
  | some (l, s) => s.word l.other
  | none => w

/-- The word for a slot in a language stands for that slot in that language. -/
@[simp] theorem recognise?_word (s : Slot) (l : Language) :
    recognise? (s.word l) = some (l, s) := by
  cases l <;> cases s <;> decide +kernel

@[simp] theorem counterpart_word (s : Slot) (l : Language) :
    counterpart (s.word l) = s.word l.other := by
  simp [counterpart]

end Keyword

/-- The slot that a word stands for, blanks around the word aside. -/
def Slot.ofWord (w : Text) : Except InvalidKeyword Slot :=
  match Keyword.recognise? (Text.trim w) with
  | some (_, s) => .ok s
  | none => .error ⟨Text.trim w⟩

end StorySpec
