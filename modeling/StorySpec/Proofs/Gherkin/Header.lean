import StorySpec.Proofs.Gherkin.Steps
import StorySpec.Proofs.Gherkin.Tags

/-!
# Headers in Gherkin documents

Scenarios and examples begin alike: with tags, if there are any, and with a title, which is a word,
a colon and what follows on the line.  Where there is neither a tag nor a word with a colon, none
of them begins.

## Main definitions

* `Dialect.titleMarks d`: how titles begin.
* `Dialect.partMarks d`: how lines begin that are no steps but other parts of a document.
* `header ws`: the parser of tags and of a title that one of the words `ws` marks.

## Main results

* `title_line`, `title_empty`: titles, and a colon without one.
* `header_tagged`, `header_of_not_titled`: headers behind a line of tags, and places without any.
* `scenarioMarked_eq`, `examples_eq`: scenarios and examples are headers with something behind.
-/

namespace StorySpec.Gherkin

open StorySpec.Gherkin.Parser

variable {d : Dialect} {n : Nat} {t u v : Text} {names ws : List Text}

/-! ## Titles -/

/-- How the titles of scenarios, of examples and of rules begin. -/
def Dialect.titleMarks (d : Dialect) : List Text :=
  (d.scenario ++ d.outline ++ d.examples ++ d.rule).map (· ++ [':'])

/-- How lines begin that are no steps but other parts of a document: tags, arguments of steps, and
titles. -/
def Dialect.partMarks (d : Dialect) : List Text :=
  ['@'] :: (argumentMarks ++ d.titleMarks)

/-- One of the words `ws` and the title behind it. -/
def titled (ws : List Text) : Parser Text := do
  let _ ← keyword ws
  title

/-- The tags and the title before a part that one of the words `ws` marks. -/
def header (ws : List Text) : Parser (List Text × Text) := do
  spaces
  let labels ← tags
  spaces
  let name ← titled ws
  return (labels, name)

theorem title_line {name : Text} (h : IsLine name) (hne : name ≠ []) (u : Text) :
    title (':' :: ' ' :: (name ++ '\n' :: u)) = some (name, settle u) := by
  have hstart : ∀ c ∈ (name ++ '\n' :: u).head?, isSpace c = false := by
    obtain ⟨c, r, rfl⟩ := List.exists_cons_of_ne_nil hne
    intro x hx
    cases hx
    have hblank := (Text.trim_eq_self_iff.1 h.trim).1 c rfl
    cases hspace : isSpace c with
    | false => rfl
    | true => rw [isBlank_of_isSpace hspace] at hblank; cases hblank
  rw [title, bind_apply, word_singleton_cons, Option.bind_some, bind_apply, spaces_space,
    spaces_of_head hstart, Option.bind_some, bind_apply,
    optional_of_some (restOfLine_append h.isTail hne u), Option.bind_some, bind_apply,
    spaces_of_head (by simp [isSpace]), Option.bind_some, bind_apply, blockEnd_newline,
    Option.bind_some, pure_apply, Option.getD_some,
    Text.trimEnd_eq_self_iff.2 h.isTail.last]

theorem title_empty (u : Text) : title (':' :: '\n' :: u) = some ([], settle u) := by
  have hrest : restOfLine ('\n' :: u) = none := rfl
  rw [title, bind_apply, word_singleton_cons, Option.bind_some, bind_apply,
    spaces_of_head (by simp [isSpace]), Option.bind_some, bind_apply, optional_of_none hrest,
    Option.bind_some, bind_apply, spaces_of_head (by simp [isSpace]), Option.bind_some, bind_apply,
    blockEnd_newline]
  rfl

/-- A word is followed by no title where it is followed by no colon. -/
theorem titled_of_not_beginsWith (ht : Settled t)
    (h : beginsWith (ws.map (· ++ [':'])) t = false) : titled ws t = none := by
  rw [titled, bind_apply, ht.keyword]
  cases hfound : oneOf ws t with
  | none => rfl
  | some x =>
    obtain ⟨w, r⟩ := x
    obtain ⟨hw, rfl⟩ := eq_append_of_oneOf hfound
    -- the word that is found is one of `ws`, and with a colon behind it the text would begin so
    have hcolon : r.head? ≠ some ':' := by
      intro hhead
      obtain ⟨r, rfl⟩ := List.head?_eq_some_iff.1 hhead
      refine List.any_eq_false.1 h (w ++ [':']) (List.mem_map.2 ⟨w, hw, rfl⟩) ?_
      exact List.isPrefixOf_iff_prefix.2 ⟨r, by simp⟩
    rw [Option.bind_some, title, bind_apply, word_singleton_eq_none hcolon]
    rfl

/-- No part begins where there is neither a tag nor a word with a colon. -/
theorem header_of_not_titled (ht : Settled t) (hat : t.head? ≠ some '@')
    (h : beginsWith (ws.map (· ++ [':'])) t = false) : header ws t = none := by
  rw [header, bind_apply, ht.spaces, Option.bind_some, bind_apply, tags_of_head ht hat,
    Option.bind_some, bind_apply, ht.spaces, Option.bind_some, bind_apply,
    titled_of_not_beginsWith ht h]
  rfl

section Tagged

variable (hne : names ≠ []) (hnames : ∀ name ∈ names, IsTagName name) (hv : Settled v)
  (hat : v.head? ≠ some '@')

include hne hnames hv hat

theorem header_tagged (ws : List Text) (n : Nat) :
    header ws (tagLine names ++ '\n' :: (List.replicate n ' ' ++ v)) =
      (titled ws v).map fun x => ((names, x.1), x.2) := by
  have hstart : ∀ c ∈ (tagLine names ++ '\n' :: (List.replicate n ' ' ++ v)).head?,
      isSpace c = false := by
    obtain ⟨r, hr⟩ := exists_tagLine_append hne ('\n' :: (List.replicate n ' ' ++ v))
    rw [hr]
    exact (settled_at r).not_isSpace
  rw [header, bind_apply, spaces_of_head hstart, Option.bind_some, bind_apply,
    tags_line hne hnames hv hat, Option.bind_some, bind_apply, hv.spaces_replicate_space,
    Option.bind_some, bind_apply]
  cases titled ws v <;> rfl

end Tagged

/-! ## Parts that begin with a header -/

/-- The scenario under a header. -/
def scenarioBody (d : Dialect) (labels : List Text) (name : Text) : Parser Scenario := do
  description d.scenarioWords
  let found ← steps d
  let tables ← many (examples d)
  return { name, tags := labels, steps := found, examples := tables }

theorem scenarioMarked_eq (ht : Settled t) :
    scenarioMarked d ws t = (do let x ← header ws; scenarioBody d x.1 x.2) t := by
  rw [scenarioMarked, bind_apply, ht.skipMany_comment]
  simp only [Option.bind_some, header, titled, scenarioBody, bind_assoc, pure_bind]

/-- The examples under a header. -/
def examplesBody (d : Dialect) : Parser Examples := do
  description (d.scenarioWords ++ [['|']])
  let found ← optional table
  return { table := found }

theorem examples_eq (ht : Settled t) :
    examples d t = (do let _ ← header d.examples; examplesBody d) t := by
  rw [examples, bind_apply, ht.skipMany_comment]
  simp only [Option.bind_some, header, titled, examplesBody, bind_assoc, pure_bind]

end StorySpec.Gherkin
