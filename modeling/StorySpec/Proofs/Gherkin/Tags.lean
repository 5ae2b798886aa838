import StorySpec.Proofs.Gherkin.Layout

/-!
# Tags in Gherkin documents

The tags of a scenario stand on a line of their own, each with its at sign.  They may go on over
several lines, so the line ends with them only because no tag begins the next one.

## Main definitions

* `IsTagName name`: the text `name` may be the name of a tag.
* `tagLine names`: the line of some tags.

## Main results

* `tag_append`: the name of a tag ends at a blank.
* `tags_line`: the line of the tags is read.
-/

namespace StorySpec.Gherkin

open StorySpec.Gherkin.Parser

variable {n : Nat} {t v : Text} {names : List Text}

/-! ## Single tags -/

/-- A text that may be the name of a tag. -/
structure IsTagName (name : Text) : Prop where
  ne_nil : name ≠ []
  chars : ∀ c ∈ name, isBlank c = false ∧ c ≠ '@'

/-- Whether a character may stand in the name of a tag. -/
def isTagNameChar (c : Char) : Bool :=
  !isBlank c && c != '@'

theorem settled_at (u : Text) : Settled ('@' :: u) := by
  intro c hc
  cases hc
  decide

theorem tag_append {name : Text} (h : IsTagName name) {b : Char} (hb : isBlank b = true)
    (u : Text) : tag ('@' :: (name ++ b :: u)) = some (name, b :: u) := by
  obtain ⟨c, cs, rfl⟩ := List.exists_cons_of_ne_nil h.ne_nil
  have hchars : ∀ x ∈ c :: cs, isTagNameChar x = true := by
    intro x hx
    simp [isTagNameChar, h.chars x hx]
  have hfirst : satisfy isTagNameChar (c :: (cs ++ b :: u)) = some (c, cs ++ b :: u) := by
    rw [satisfy, if_pos (hchars c List.mem_cons_self)]
  have hothers : run isTagNameChar (cs ++ b :: u) = some (cs, b :: u) := by
    apply run_append fun x hx => hchars x (List.mem_cons_of_mem c hx)
    simp [isTagNameChar, hb]
  rw [tag, bind_apply, word_singleton_cons, Option.bind_some, List.cons_append]
  change (satisfy isTagNameChar >>= fun first =>
    run isTagNameChar >>= fun rest => pure (first :: rest)) (c :: (cs ++ b :: u)) = _
  rw [bind_apply, hfirst, Option.bind_some, bind_apply, hothers]
  rfl

theorem tag_of_head (h : t.head? ≠ some '@') : tag t = none := by
  rw [tag, bind_apply, word_singleton_eq_none h]
  rfl

theorem tags_of_head (ht : Settled t) (h : t.head? ≠ some '@') : tags t = some ([], t) := by
  rw [tags, bind_apply, sepBy_of_none (tag_of_head h), Option.bind_some, bind_apply, ht.spaces,
    Option.bind_some, bind_apply, ht.skipMany_lineEnd]
  rfl

/-! ## Lines of tags -/

/-- A tag, and what may stand before it. -/
def nextTag : Parser Text := do
  gap
  tag

/-- Behind a tag there is a space before the next one, or the end of the line. -/
theorem exists_blank_behind_tags (names : List Text) (u : Text) :
    ∃ b rest, isBlank b = true ∧
      names.flatMap (fun name => ' ' :: '@' :: name) ++ '\n' :: u = b :: rest := by
  cases names with
  | nil => exact ⟨'\n', u, isBlank_newline, rfl⟩
  | cons name names => exact ⟨' ', _, isBlank_space, rfl⟩

/-- The tags of a line are all taken, and so is the end of the line. -/
theorem many_nextTag (hnames : ∀ name ∈ names, IsTagName name) (hv : Settled v)
    (hat : v.head? ≠ some '@') (n : Nat) :
    many nextTag (names.flatMap (fun name => ' ' :: '@' :: name) ++
        '\n' :: (List.replicate n ' ' ++ v)) =
      some (names, '\n' :: (List.replicate n ' ' ++ v)) := by
  -- on the names: before each of them is one space, and behind the last one the end of the line
  induction names with
  | nil =>
    refine many_of_none ?_
    rw [nextTag, bind_apply, List.flatMap_nil, List.nil_append, gap_newline,
      hv.gap_replicate_space]
    exact tag_of_head hat
  | cons name names ih =>
    obtain ⟨b, rest, hb, hrest⟩ := exists_blank_behind_tags names
      (List.replicate n ' ' ++ v)
    have hnext : nextTag (' ' :: '@' :: (name ++ b :: rest)) = some (name, b :: rest) := by
      rw [nextTag, bind_apply, gap_space, (settled_at _).gap]
      exact tag_append (hnames name List.mem_cons_self) hb rest
    have hothers := ih fun other hother => hnames other (List.mem_cons_of_mem name hother)
    rw [hrest] at hothers
    have hshape : (name :: names).flatMap (fun name => ' ' :: '@' :: name) ++
        '\n' :: (List.replicate n ' ' ++ v) = ' ' :: '@' :: (name ++ b :: rest) := by
      rw [List.flatMap_cons, List.append_assoc, hrest]
      rfl
    rw [hshape, many_cons hnext (by simp; omega), hothers]
    rfl

/-- The line of some tags. -/
def tagLine (names : List Text) : Text :=
  Text.joined [' '] (names.map ('@' :: ·))

theorem tagLine_cons (name : Text) (names : List Text) :
    tagLine (name :: names) = '@' :: name ++ names.flatMap (fun name => ' ' :: '@' :: name) := by
  induction names generalizing name with
  | nil => simp [tagLine]
  | cons other names ih =>
    have hrest := ih other
    rw [tagLine, List.map_cons] at hrest
    rw [tagLine, List.map_cons, List.map_cons, Text.joined_cons_cons, hrest]
    simp

/-- The line of some tags begins with an at sign. -/
theorem exists_tagLine_append (hne : names ≠ []) (u : Text) :
    ∃ r, tagLine names ++ u = '@' :: r := by
  obtain ⟨name, others, rfl⟩ := List.exists_cons_of_ne_nil hne
  rw [tagLine_cons]
  exact ⟨_, rfl⟩

/-- **The line of the tags** is read, and its end is taken with it. -/
theorem tags_line (hne : names ≠ []) (hnames : ∀ name ∈ names, IsTagName name) (hv : Settled v)
    (hat : v.head? ≠ some '@') (n : Nat) :
    tags (tagLine names ++ '\n' :: (List.replicate n ' ' ++ v)) =
      some (names, List.replicate n ' ' ++ v) := by
  obtain ⟨name, others, rfl⟩ := List.exists_cons_of_ne_nil hne
  obtain ⟨b, rest, hb, hrest⟩ := exists_blank_behind_tags others
    (List.replicate n ' ' ++ v)
  have hfirst : tag (tagLine (name :: others) ++ '\n' :: (List.replicate n ' ' ++ v)) =
      some (name, b :: rest) := by
    rw [tagLine_cons, List.append_assoc, hrest, List.cons_append]
    exact tag_append (hnames name List.mem_cons_self) hb rest
  have hmany := many_nextTag (fun other hother => hnames other (List.mem_cons_of_mem name hother))
    hv hat n
  rw [hrest] at hmany
  have hfound : sepBy tag gap (tagLine (name :: others) ++ '\n' :: (List.replicate n ' ' ++ v)) =
      some (name :: others, '\n' :: (List.replicate n ' ' ++ v)) := by
    have hsame : (do let _ ← gap; tag) = nextTag := rfl
    rw [sepBy_cons hfirst, hsame, hmany]
    rfl
  have hlines : skipMany lineEnd ('\n' :: (List.replicate n ' ' ++ v)) =
      some ((), List.replicate n ' ' ++ v) :=
    (skipMany_cons (lineEnd_newline _) (by simp)).trans
      (skipMany_of_none (hv.lineEnd_replicate_space n))
  rw [tags, bind_apply, hfound, Option.bind_some, bind_apply, spaces_of_head (by simp [isSpace]),
    Option.bind_some, bind_apply, hlines]
  rfl

end StorySpec.Gherkin
