import StorySpec.Gherkin.Parser
import StorySpec.Proofs.Pattern.Skeleton

/-!
# Patterns read back

A pattern stands in double quotes.  The quote that ends it is the one that was put behind it, and
nothing before that quote can begin code; what both readers of the pattern then make of it is the
skeleton of the step, piece by piece.

## Main definitions

* `doubleQuoted`: the body of a text in double quotes, as it is written.
* `readPattern? p`: the pieces that the pattern `p` is read as.

## Main results

* `unquote?_eq_some_iff`: the outer reader understands what is quoted, and nothing else.
* `doubleQuoted_of_unquote?`: what it understands ends at the first quote behind it.
* `pattern_reads_as_skeleton`: a pattern is read as the skeleton of its step, and of no other.
-/

namespace StorySpec

open Gherkin (Parser)

variable {t u e rest : Text} {table table' : Option Table}

/-! ## Bodies in double quotes -/

/-- The body of a text in double quotes, as it is written, up to the quote that ends it.  A
backslash belongs to the character after it.  A number sign on its own is refused: it could begin
code. -/
def doubleQuoted : Parser Text
  | [] => none
  | '"' :: t => some ([], t)
  | '\\' :: c :: t => (doubleQuoted t).map fun x => ('\\' :: c :: x.1, x.2)
  | c :: t => if needsQuoting c then none else (doubleQuoted t).map fun x => (c :: x.1, x.2)

theorem doubleQuoted_quoted_append (c : Char) (t : Text) :
    doubleQuoted (quoted c ++ t) = (doubleQuoted t).map fun x => (quoted c ++ x.1, x.2) := by
  by_cases h : needsQuoting c = true
  · simp [quoted, doubleQuoted, h]
  · have hquote : c ≠ '"' := by rintro rfl; exact h rfl
    have hslash : c ≠ '\\' := by rintro rfl; exact h rfl
    rw [quoted, if_neg h, List.singleton_append,
      doubleQuoted.eq_4 c t hquote fun _ _ hc _ => hslash hc, if_neg h]
    rfl

theorem doubleQuoted_flatMap_quoted (e rest : Text) :
    doubleQuoted (e.flatMap quoted ++ '"' :: rest) = some (e.flatMap quoted, rest) := by
  induction e with
  | nil => rfl
  | cons c e ih =>
    rw [List.flatMap_cons, List.append_assoc, doubleQuoted_quoted_append, ih]
    rfl

/-- **The outer reader** understands what is quoted, and nothing else. -/
theorem unquote?_eq_some_iff : unquote? t = some e ↔ t = e.flatMap quoted := by
  constructor
  · intro h
    fun_induction unquote? t generalizing e with
    | case1 =>
      cases h
      rfl
    | case2 c t hc ih =>
      obtain ⟨e', he', rfl⟩ := Option.map_eq_some_iff.1 h
      simp [quoted, hc, ← ih he']
    | case3 => cases h
    | case4 => cases h
    | case5 c t _ hc ih =>
      obtain ⟨e', he', rfl⟩ := Option.map_eq_some_iff.1 h
      simp [quoted, hc, ← ih he']
  · rintro rfl
    exact unquote?_flatMap_quoted e

/-- What the outer reader understands ends at the first quote behind it. -/
theorem doubleQuoted_of_unquote? (h : unquote? t = some e) (rest : Text) :
    doubleQuoted (t ++ '"' :: rest) = some (t, rest) := by
  rw [unquote?_eq_some_iff.1 h]
  exact doubleQuoted_flatMap_quoted e rest

/-! ## Patterns -/

/-- The pieces that both readers make of a pattern, one after the other.  Outside literals a
parenthesis or a slash has none, and a brace only as the beginning of a parameter. -/
def readPattern? (p : Text) : Option (List Piece) :=
  ((unquote? p).bind readExpression?).map assemble

namespace StepPattern

theorem readPattern?_ofText (t : Text) (table : Option Table) :
    readPattern? (ofText t table).pattern = some (skeleton t table) := by
  rw [readPattern?, unquote?_pattern, Option.map_some, assemble_skeleton]

theorem exists_unquote?_pattern (t : Text) (table : Option Table) :
    ∃ e, unquote? (ofText t table).pattern = some e :=
  ⟨_, unquote?_eq_some_iff.2 (pattern_ofText_eq_quoted t table)⟩

/-- **A pattern is read** as the skeleton of its step, and of no other: in double quotes it ends
where it was meant to, both readers find the literal texts of the tokens in their places and the
types of the parameters between them, and no two skeletons share a pattern. -/
theorem pattern_reads_as_skeleton (t : Text) (table : Option Table) :
    (∀ rest, doubleQuoted ((ofText t table).pattern ++ '"' :: rest) =
      some ((ofText t table).pattern, rest)) ∧
    readPattern? (ofText t table).pattern = some ((tokens t table).map Token.piece) ∧
    ((tokens t table).map Token.piece).filterMap Piece.type? =
      (ofText t table).params.map Param.type ∧
    ∀ (u : Text) (table' : Option Table),
      (ofText t table).pattern = (ofText u table').pattern ↔
        (tokens t table).map Token.piece = (tokens u table').map Token.piece := by
  obtain ⟨e, he⟩ := exists_unquote?_pattern t table
  exact ⟨doubleQuoted_of_unquote? he, readPattern?_ofText t table, (types_ofText t table).symm,
    fun _ _ => pattern_eq_iff⟩

end StepPattern

end StorySpec
