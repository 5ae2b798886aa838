import StorySpec.Text
import StorySpec.Text.LowerCase.Table

/-!
# Lower case

The full lower-case form of a text.  Every character is replaced by its own lower-case form, which
is one character except for `İ`, and the capital sigma depends on its place: it becomes `ς` at the
end of a word and `σ` elsewhere.

A sigma ends a word when, case-ignorable characters passed over, a cased letter comes before it
and none comes after it.

## Main definitions

* `lowerChar c`: the lower-case form of a character outside any context.
* `Text.lower t`: the lower-case form of a text.
* `Text.lowerAscii t`, `Text.upperAscii t`: the text with only its ASCII letters changed.
* `Text.eqIgnoringAsciiCase s t`: equality up to the case of ASCII letters.

## Main results

* `lower_of_ascii`: on ASCII alone, the two lower-case forms agree.
-/

namespace StorySpec

/-- Whether a code point lies in one of the ranges, ends included. -/
def inRanges (ranges : List (Nat × Nat)) (n : Nat) : Bool :=
  ranges.any fun range => range.1 ≤ n && n ≤ range.2

/-- The lower-case form of a character outside any context. -/
def lowerChar (c : Char) : Text :=
  let n := c.toNat
  if n < 0x80 then [c.toLower]
  else if n = 0x130 then ['i', Char.ofNat 0x307]
  else match caseRuns.find? fun run => run.first ≤ n && n ≤ run.last &&
      (n - run.first) % run.step == 0 with
    | some run => [Char.ofNat (n + run.shift).toNat]
    | none => [c]

/-- Whether the first character of `t` that is not case-ignorable is a cased letter. -/
def startsCased (t : Text) : Bool :=
  match t.find? fun c => !inRanges caseIgnorable c.toNat with
  | some c => inRanges casedLetters c.toNat
  | none => false

namespace Text

/-- The lower-case form of `t`, when the characters `before` it were, the nearest first. -/
def lowerAfter (before : Text) : Text → Text
  | [] => []
  | c :: t =>
    let here :=
      if c = 'Σ' then
        if startsCased before && !startsCased t then ['ς'] else ['σ']
      else lowerChar c
    here ++ lowerAfter (c :: before) t

/-- The lower-case form of a text. -/
def lower (t : Text) : Text :=
  lowerAfter [] t

/-- The text with its ASCII letters in lower case. -/
def lowerAscii (t : Text) : Text :=
  t.map Char.toLower

/-- The text with its ASCII letters in upper case. -/
def upperAscii (t : Text) : Text :=
  t.map Char.toUpper

/-- Whether two texts differ at most in the case of ASCII letters. -/
def eqIgnoringAsciiCase (s t : Text) : Bool :=
  lowerAscii s == lowerAscii t

@[simp] theorem lower_nil : lower [] = [] := rfl

theorem lowerAfter_of_ascii {before t : Text} (h : ∀ c ∈ t, c.toNat < 0x80) :
    lowerAfter before t = lowerAscii t := by
  induction t generalizing before with
  | nil => rfl
  | cons c t ih =>
    have hc : c.toNat < 0x80 := h c List.mem_cons_self
    have hsigma : c ≠ 'Σ' := by rintro rfl; exact absurd hc (by decide)
    simp [lowerAfter, lowerAscii, hsigma, lowerChar, hc,
      ih fun d hd => h d (List.mem_cons_of_mem _ hd)]

/-- On ASCII alone, the full lower-case form changes the ASCII letters only. -/
theorem lower_of_ascii {t : Text} (h : ∀ c ∈ t, c.toNat < 0x80) : lower t = lowerAscii t :=
  lowerAfter_of_ascii h

example : lower "ΣΑΣ ÉTÉ İK".toList = "σας été i̇k".toList := by decide +kernel

end Text

end StorySpec
