import StorySpec.ParamType
import StorySpec.Text.Digit

/-!
# Matchers

The four written forms of a step parameter.  A matcher looks at the beginning of a text only.

## Main definitions

* `Matcher`: the four forms, and `Matcher.precedence`, the order in which they are tried.
* `Matcher.read? m t`: the parameter of form `m` at the beginning of `t`, and what follows it.
* `Matcher.source m raw`: a parameter written in the form `m`.

## Main results

* `read?_eq_some`: a matched text is the written form of the value that is read, followed by the
  rest.
-/

namespace StorySpec

/-- The written forms of a step parameter. -/
inductive Matcher where
  /-- A name in angle brackets in quotes: `"<name>"`. -/
  | quotedPlaceholder
  /-- A name in angle brackets: `<name>`. -/
  | barePlaceholder
  /-- A text in quotes, without angle brackets: `"text"`. -/
  | quotedLiteral
  /-- A numeral in ASCII digits: `12` or `12.5`. -/
  | number
  deriving DecidableEq, Repr

/-- A parameter at the beginning of a text. -/
structure Match where
  /-- The value, without quotes and brackets. -/
  raw : Text
  /-- What follows the parameter. -/
  rest : Text
  deriving DecidableEq, Repr

namespace Matcher

/-- The matchers in the order in which they are tried.  Placeholders come first, so that a
placeholder in quotes is not taken for a quoted text. -/
def precedence : List Matcher :=
  [.quotedPlaceholder, .barePlaceholder, .quotedLiteral, .number]

/-- The type that a parameter of this form has when no table says otherwise. -/
def candidateType : Matcher → ParamType
  | .quotedPlaceholder => .string
  | .barePlaceholder => .int
  | .quotedLiteral => .string
  | .number => .int

/-- Whether the value names a column. -/
def isPlaceholder : Matcher → Bool
  | .quotedPlaceholder => true
  | .barePlaceholder => true
  | .quotedLiteral => false
  | .number => false

/-- A value written as a parameter. -/
def source : Matcher → Text → Text
  | .quotedPlaceholder, raw => '"' :: '<' :: raw ++ ['>', '"']
  | .barePlaceholder, raw => '<' :: raw ++ ['>']
  | .quotedLiteral, raw => '"' :: raw ++ ['"']
  | .number, raw => raw

/-! ## Reading -/

/-- A name in angle brackets, up to the first closing bracket. -/
def readBare? : Text → Option Match
  | '<' :: t =>
    match t.takeWhile (· != '>'), t.dropWhile (· != '>') with
    | c :: name, _ :: rest => some ⟨c :: name, rest⟩
    | _, _ => none
  | _ => none

/-- A name in angle brackets, directly inside quotes. -/
def readQuoted? : Text → Option Match
  | '"' :: t =>
    match readBare? t with
    | some ⟨name, '"' :: rest⟩ => some ⟨name, rest⟩
    | _ => none
  | _ => none

/-- Whether a character ends a quoted text: a quote closes it, and an angle bracket spoils it. -/
def isLiteralEnd (c : Char) : Bool :=
  c == '"' || c == '<' || c == '>'

/-- A text in quotes. -/
def readLiteral? : Text → Option Match
  | '"' :: t =>
    match t.takeWhile (!isLiteralEnd ·), t.dropWhile (!isLiteralEnd ·) with
    | c :: value, '"' :: rest => some ⟨c :: value, rest⟩
    | _, _ => none
  | _ => none

/-- A point with digits after it; the value is the digits. -/
def readFraction? : Text → Option Match
  | '.' :: t =>
    if t.takeWhile isAsciiDigit = [] then none
    else some ⟨t.takeWhile isAsciiDigit, t.dropWhile isAsciiDigit⟩
  | _ => none

/-- A numeral: digits, and a fraction where there is one. -/
def readNumber? (t : Text) : Option Match :=
  let whole := t.takeWhile isAsciiDigit
  let rest := t.dropWhile isAsciiDigit
  if whole = [] then none
  else match readFraction? rest with
    | some ⟨fraction, rest'⟩ => some ⟨whole ++ '.' :: fraction, rest'⟩
    | none => some ⟨whole, rest⟩

/-- The parameter of the given form at the beginning of a text. -/
def read? : Matcher → Text → Option Match
  | .quotedPlaceholder => readQuoted?
  | .barePlaceholder => readBare?
  | .quotedLiteral => readLiteral?
  | .number => readNumber?

/-! ## What is read is there -/

theorem readBare?_eq_some {t : Text} {m : Match} (h : readBare? t = some m) :
    t = source .barePlaceholder m.raw ++ m.rest ∧ m.raw ≠ [] := by
  unfold readBare? at h
  split at h
  · rename_i t
    split at h
    · rename_i c name d rest htake hdrop
      obtain rfl : d = '>' := by
        have := List.head?_dropWhile_not (p := (· != '>')) t
        rw [hdrop] at this
        simpa using this
      have ht : t = t.takeWhile (· != '>') ++ t.dropWhile (· != '>') :=
        List.takeWhile_append_dropWhile.symm
      cases h
      rw [htake, hdrop] at ht
      exact ⟨by simp [source, ht], by simp⟩
    · cases h
  · cases h

theorem readQuoted?_eq_some {t : Text} {m : Match} (h : readQuoted? t = some m) :
    t = source .quotedPlaceholder m.raw ++ m.rest ∧ m.raw ≠ [] := by
  unfold readQuoted? at h
  split at h
  · split at h
    · rename_i name rest hbare
      obtain ⟨ht, hne⟩ := readBare?_eq_some hbare
      cases h
      exact ⟨by simp [source, ht], hne⟩
    · cases h
  · cases h

theorem readLiteral?_eq_some {t : Text} {m : Match} (h : readLiteral? t = some m) :
    t = source .quotedLiteral m.raw ++ m.rest ∧ m.raw ≠ [] := by
  unfold readLiteral? at h
  split at h
  · rename_i t
    split at h
    · rename_i c value rest htake hdrop
      have ht : t = t.takeWhile (!isLiteralEnd ·) ++ t.dropWhile (!isLiteralEnd ·) :=
        List.takeWhile_append_dropWhile.symm
      cases h
      rw [htake, hdrop] at ht
      exact ⟨by simp [source, ht], by simp⟩
    · cases h
  · cases h

theorem readFraction?_eq_some {t : Text} {m : Match} (h : readFraction? t = some m) :
    t = '.' :: m.raw ++ m.rest ∧ m.raw ≠ [] := by
  unfold readFraction? at h
  split at h
  · rename_i t
    split at h
    · cases h
    · rename_i hne
      cases h
      exact ⟨by simp [List.takeWhile_append_dropWhile], hne⟩
  · cases h

theorem readNumber?_eq_some {t : Text} {m : Match} (h : readNumber? t = some m) :
    t = source .number m.raw ++ m.rest ∧ m.raw ≠ [] := by
  have ht : t = t.takeWhile isAsciiDigit ++ t.dropWhile isAsciiDigit :=
    List.takeWhile_append_dropWhile.symm
  simp only [readNumber?] at h
  split at h
  · cases h
  · rename_i hwhole
    split at h
    · rename_i fraction rest' hfraction
      obtain ⟨hrest, -⟩ := readFraction?_eq_some hfraction
      cases h
      rw [hrest] at ht
      exact ⟨by simpa [source] using ht, by simp⟩
    · cases h
      exact ⟨ht, hwhole⟩

/-- **What is read is there**: a matched text is the written form of a value that is not empty,
followed by the rest. -/
theorem read?_eq_some {m : Matcher} {t : Text} {found : Match} (h : m.read? t = some found) :
    t = m.source found.raw ++ found.rest ∧ found.raw ≠ [] := by
  cases m with
  | quotedPlaceholder => exact readQuoted?_eq_some h
  | barePlaceholder => exact readBare?_eq_some h
  | quotedLiteral => exact readLiteral?_eq_some h
  | number => exact readNumber?_eq_some h

theorem length_source_pos (m : Matcher) {raw : Text} (h : raw ≠ []) :
    0 < (m.source raw).length := by
  cases m <;> simp [source, List.length_pos_iff, h]

end Matcher

end StorySpec
