import Mathlib.Data.List.TakeWhile
import StorySpec.Pattern

/-!
# Reading patterns

A pattern is written for two readers, and each of them undoes what was written for it.  The outer
one reads the body of a text in double quotes, where a backslash takes away the meaning of the
character after it.  The inner one reads an expression, where a backslash does the same and a name
in braces stands for a parameter.

## Main definitions

* `Symbol`: what the inner reader finds at one place, a literal character or a parameter.
* `Symbol.expression s`, `quoted c`: a symbol in an expression, and a character in double quotes.
* `unquote? t`: the text that `t` means as the body of a text in double quotes.
* `readExpression? t`: the symbols of an expression.

## Main results

* `unquote?_flatMap_quoted`, `readExpression?_flatMap_expression`: both readers undo the writing.
* `flatMap_escaped_eq`: a literal text is written for the inner reader first, and what comes of it
  for the outer one.
-/

namespace StorySpec

/-! ## The outer reader -/

/-- Whether a character has a meaning in double quotes. -/
def needsQuoting (c : Char) : Bool :=
  c == '"' || c == '#' || c == '\\'

/-- A character in double quotes. -/
def quoted (c : Char) : Text :=
  if needsQuoting c then ['\\', c] else [c]

/-- The text that a body in double quotes means.  There is none when a quote would end it early,
when a number sign could begin an interpolation, or when a backslash has nothing to act on. -/
def unquote? : Text → Option Text
  | [] => some []
  | '\\' :: c :: t => if needsQuoting c then (unquote? t).map (c :: ·) else none
  | c :: t => if needsQuoting c then none else (unquote? t).map (c :: ·)

theorem unquote?_quoted_append (c : Char) (t : Text) :
    unquote? (quoted c ++ t) = (unquote? t).map (c :: ·) := by
  by_cases h : needsQuoting c = true
  · simp [quoted, unquote?, h]
  · have hc : c ≠ '\\' := by rintro rfl; exact h rfl
    simp [quoted, unquote?, h, hc]

/-- **The outer reader** undoes the quoting of any text. -/
theorem unquote?_flatMap_quoted (t : Text) : unquote? (t.flatMap quoted) = some t := by
  induction t with
  | nil => rfl
  | cons c t ih => rw [List.flatMap_cons, unquote?_quoted_append, ih]; rfl

/-! ## The inner reader -/

/-- What stands at one place of an expression. -/
inductive Symbol where
  /-- A character that stands for itself. -/
  | literal (c : Char)
  | param (type : ParamType)
  deriving DecidableEq, Repr

/-- Whether a character has a meaning in an expression. -/
def needsEscape (c : Char) : Bool :=
  c == '(' || c == '\x7b' || c == '/' || c == '\\'

/-- A symbol in an expression. -/
def Symbol.expression : Symbol → Text
  | .literal c => if needsEscape c then ['\\', c] else [c]
  | .param type => type.marker

/-- The parameter type with a given name. -/
def ParamType.ofName? (name : Text) : Option ParamType :=
  ParamType.all.find? (·.name == name)

/-- The symbol at the beginning of an expression, and what follows it. -/
def readSymbol? : Text → Option (Symbol × Text)
  | [] => none
  | '\\' :: c :: t => some (.literal c, t)
  | '\x7b' :: t =>
    match t.dropWhile (· != '\x7d') with
    | [] => none
    | _ :: rest =>
      (ParamType.ofName? (t.takeWhile (· != '\x7d'))).map fun type => (.param type, rest)
  | c :: t => if needsEscape c then none else some (.literal c, t)

theorem length_lt_of_readSymbol? {t rest : Text} {s : Symbol}
    (h : readSymbol? t = some (s, rest)) : rest.length < t.length := by
  unfold readSymbol? at h
  split at h
  · cases h
  · cases h
    simp only [List.length_cons]
    omega
  · rename_i t
    split at h
    · cases h
    · rename_i d rest' hdrop
      obtain ⟨type, -, hpair⟩ := Option.map_eq_some_iff.1 h
      cases hpair
      have := (List.dropWhile_sublist (· != '\x7d') (l := t)).length_le
      rw [hdrop] at this
      simp only [List.length_cons] at this ⊢
      omega
  · split at h
    · cases h
    · cases h
      simp

/-- The symbols of an expression; there are none when a part of it has no meaning. -/
def readExpression? : Text → Option (List Symbol)
  | [] => some []
  | c :: t =>
    match _h : readSymbol? (c :: t) with
    | none => none
    | some (s, rest) => (readExpression? rest).map (s :: ·)
termination_by t => t.length
decreasing_by exact length_lt_of_readSymbol? _h

theorem ParamType.ofName?_name (type : ParamType) : ofName? type.name = some type := by
  cases type <;> rfl

theorem ParamType.closing_not_mem_name (type : ParamType) : '\x7d' ∉ type.name := by
  cases type <;> decide

theorem readSymbol?_expression_append (s : Symbol) (t : Text) :
    readSymbol? (s.expression ++ t) = some (s, t) := by
  cases s with
  | literal c =>
    by_cases h : needsEscape c = true
    · simp [Symbol.expression, readSymbol?, h]
    · have hslash : c ≠ '\\' := by rintro rfl; exact h rfl
      have hbrace : c ≠ '\x7b' := by rintro rfl; exact h rfl
      simp only [Symbol.expression, h, Bool.false_eq_true, if_false, List.singleton_append]
      unfold readSymbol?
      split <;> simp_all
  | param type =>
    -- the name ends at the first closing brace, since it holds none
    have hname : ∀ c ∈ type.name, (c != '\x7d') = true := by
      intro c hc
      rw [bne_iff_ne]
      rintro rfl
      exact type.closing_not_mem_name hc
    have hmarker : (Symbol.param type).expression ++ t =
        '\x7b' :: (type.name ++ '\x7d' :: t) := by
      simp [Symbol.expression, ParamType.marker]
    rw [hmarker, readSymbol?, List.takeWhile_append_of_pos hname,
      List.dropWhile_append_of_pos hname]
    simp [ParamType.ofName?_name]

theorem Symbol.expression_ne_nil (s : Symbol) : s.expression ≠ [] := by
  cases s with
  | literal c => by_cases h : needsEscape c = true <;> simp [Symbol.expression, h]
  | param type => simp [Symbol.expression, ParamType.marker]

/-- **The inner reader** finds the symbols that an expression was written from. -/
theorem readExpression?_flatMap_expression (symbols : List Symbol) :
    readExpression? (symbols.flatMap Symbol.expression) = some symbols := by
  induction symbols with
  | nil => rw [List.flatMap_nil, readExpression?]
  | cons s symbols ih =>
    obtain ⟨c, t, hcons⟩ :=
      List.exists_cons_of_ne_nil (l := (s :: symbols).flatMap Symbol.expression)
        (by simp [s.expression_ne_nil])
    -- reading unfolds at a first character, and every symbol is written with at least one
    have hread := readSymbol?_expression_append s (symbols.flatMap Symbol.expression)
    rw [List.flatMap_cons] at hcons
    rw [hcons] at hread
    rw [List.flatMap_cons, hcons, readExpression?]
    split
    · rename_i hnone
      rw [hread] at hnone
      cases hnone
    · rename_i s' rest hsome
      rw [hread] at hsome
      cases hsome
      rw [ih]
      rfl

/-! ## Patterns -/

/-- A literal character is written for the inner reader first, and what comes of it for the outer
one. -/
theorem escaped_eq (c : Char) : escaped c = ((Symbol.literal c).expression).flatMap quoted := by
  -- the six characters with a meaning for one of the readers, and all others
  by_cases h : c ∈ ['(', '\x7b', '/', '\\', '"', '#']
  · simp only [List.mem_cons, List.not_mem_nil, or_false] at h
    rcases h with rfl | rfl | rfl | rfl | rfl | rfl <;> decide
  · simp only [List.mem_cons, List.not_mem_nil, or_false, not_or] at h
    obtain ⟨h₁, h₂, h₃, h₄, h₅, h₆⟩ := h
    simp [escaped, Symbol.expression, needsEscape, quoted, needsQuoting, h₁, h₂, h₃, h₄, h₅, h₆]

theorem flatMap_escaped_eq (t : Text) :
    t.flatMap escaped = ((t.map Symbol.literal).flatMap Symbol.expression).flatMap quoted := by
  induction t with
  | nil => rfl
  | cons c t ih => simp only [List.flatMap_cons, List.map_cons, List.flatMap_append, escaped_eq, ih]

/-- A marker means the same in double quotes and outside of them. -/
theorem marker_eq_flatMap_quoted (type : ParamType) : type.marker = type.marker.flatMap quoted := by
  cases type <;> decide

end StorySpec
