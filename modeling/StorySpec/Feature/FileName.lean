import StorySpec.Text.LowerCase

/-!
# File names

The name of a document is made of the first words of what the story wants.

## Main definitions

* `fileNameWords t`: the runs of ASCII letters and digits of `t` in lower case.
* `suggestedFileName t n`: the first `n` of them with underscores between them.
-/

namespace StorySpec

/-- How many words a file name has when no number is given. -/
def defaultFileNameWords : Nat := 5

/-- The name of a document whose story offers no word. -/
def fallbackFileName : Text :=
  "story".toList

/-- The runs of ASCII letters and digits of a text in lower case. -/
def fileNameWords (t : Text) : List Text :=
  ((Text.lower t).splitOnP fun c => !c.isAlphanum).filter (· != [])

/-- The first `n` words of a text with underscores between them, or the fallback if that is
empty. -/
def suggestedFileName (t : Text) (n : Nat) : Text :=
  match (fileNameWords t).take n with
  | [] => fallbackFileName
  | words => Text.joined ['_'] words

end StorySpec
