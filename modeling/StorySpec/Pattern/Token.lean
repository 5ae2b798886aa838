import StorySpec.Pattern.Matcher

/-!
# Tokens of a step

The text of a step is a sequence of parameters and of literal texts between them.  At each place
the first matcher that matches takes its parameter; where none does, one character is literal.

## Main definitions

* `Param`, `Token`: a parameter, and a piece of a step's text.
* `firstParam? t`: the parameter at the beginning of `t`, and what follows it.
* `tokenize t`: the tokens of `t`.
* `Token.source tok`: a token as it is written.

## Main results

* `source_tokenize`: the written forms of the tokens, one after the other, are the text.
* `exists_firstParam?_of_mem_tokenize`: every parameter among the tokens was read somewhere.
-/

namespace StorySpec

/-- A parameter in the text of a step. -/
structure Param where
  /-- The value, without quotes and brackets. -/
  raw : Text
  /-- The form it is written in. -/
  matcher : Matcher
  type : ParamType
  deriving DecidableEq, Repr

/-- A piece of the text of a step. -/
inductive Token where
  /-- Text that belongs to no parameter. -/
  | literal (text : Text)
  | param (p : Param)
  deriving DecidableEq, Repr

/-- The parameter at the beginning of a text, read by the first matcher that matches there, and
what follows it. -/
def firstParam? (t : Text) : Option (Param × Text) :=
  Matcher.precedence.findSome? fun m =>
    (m.read? t).map fun found => (⟨found.raw, m, m.candidateType⟩, found.rest)

theorem firstParam?_eq_some {t rest : Text} {p : Param} (h : firstParam? t = some (p, rest)) :
    t = p.matcher.source p.raw ++ rest ∧ p.raw ≠ [] := by
  obtain ⟨m, -, h⟩ := List.exists_of_findSome?_eq_some h
  obtain ⟨found, hfound, h⟩ := Option.map_eq_some_iff.1 h
  cases h
  exact Matcher.read?_eq_some hfound

theorem length_lt_of_firstParam? {t rest : Text} {p : Param}
    (h : firstParam? t = some (p, rest)) : rest.length < t.length := by
  obtain ⟨ht, hne⟩ := firstParam?_eq_some h
  have := p.matcher.length_source_pos hne
  have := congrArg List.length ht
  simp only [List.length_append] at this
  omega

/-- The tokens with a literal character before them; it joins a literal text that is there. -/
def consChar (c : Char) : List Token → List Token
  | .literal text :: tokens => .literal (c :: text) :: tokens
  | tokens => .literal [c] :: tokens

/-- The tokens of a text, from left to right. -/
def tokenize : Text → List Token
  | [] => []
  | c :: t =>
    match _h : firstParam? (c :: t) with
    | some (p, rest) => .param p :: tokenize rest
    | none => consChar c (tokenize t)
termination_by t => t.length
decreasing_by
  · exact length_lt_of_firstParam? _h
  · simp

namespace Token

/-- A token as it is written. -/
def source : Token → Text
  | .literal text => text
  | .param p => p.matcher.source p.raw

end Token

@[simp] theorem tokenize_nil : tokenize [] = [] := by
  rw [tokenize]

theorem source_consChar (c : Char) (tokens : List Token) :
    (consChar c tokens).flatMap Token.source = c :: tokens.flatMap Token.source := by
  cases tokens with
  | nil => rfl
  | cons token tokens => cases token <;> rfl

/-- **Nothing is lost**: the written forms of the tokens are the text. -/
theorem source_tokenize (t : Text) : (tokenize t).flatMap Token.source = t := by
  fun_induction tokenize t with
  | case1 => rfl
  | case2 c t p rest h ih =>
    rw [List.flatMap_cons, ih, (firstParam?_eq_some h).1]
    rfl
  | case3 c t h ih => rw [source_consChar, ih]

theorem param_mem_of_mem_consChar {c : Char} {p : Param} {tokens : List Token}
    (h : .param p ∈ consChar c tokens) : .param p ∈ tokens := by
  cases tokens with
  | nil => simp [consChar] at h
  | cons token tokens => cases token <;> simpa [consChar] using h

/-- Every parameter among the tokens was read at the beginning of some text. -/
theorem exists_firstParam?_of_mem_tokenize {t : Text} {p : Param} (h : .param p ∈ tokenize t) :
    ∃ u rest, firstParam? u = some (p, rest) := by
  fun_induction tokenize t with
  | case1 => cases h
  | case2 c t q rest hfirst ih =>
    rcases List.mem_cons.1 h with heq | h
    · cases heq
      exact ⟨_, rest, hfirst⟩
    · exact ih h
  | case3 c t hfirst ih => exact ih (param_mem_of_mem_consChar h)

example : tokenize "a \"<x> y\" 1.5".toList =
    [.literal "a \"".toList, .param ⟨"x".toList, .barePlaceholder, .int⟩, .literal " y\" ".toList,
      .param ⟨"1.5".toList, .number, .int⟩] := by
  decide +kernel

end StorySpec
