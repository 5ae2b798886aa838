import StorySpec.Feature
import StorySpec.Gherkin.Grammar
import StorySpec.Proofs.Gherkin.Parser
import StorySpec.Proofs.Text.Line

/-!
# The layout of Gherkin documents

Where a line ends, the grammar takes the blank lines and the comments after it and the indentation
of the line that follows.  So it goes from one line that says something to the next, and it does
not matter how the lines are indented.

## Main definitions

* `settle t`: what is left of a text after the blanks, line ends and comments at its start.
* `Settled t`: there are none at the start of `t`.
* `isSilent l`: the line `l` is blank or a comment; `loud ls`: the lines that are not.
* `block n ls u`: lines that are indented by `n`, before the text `u`.

## Main results

* `blockEnd_newline`: the end of a line leads to the settled text.
* `settle_block_cons_of_silent`, `settle_block_cons_of_loud`: settling before a block of lines
  drops silent ones and goes to the start of the first other one.
-/

namespace StorySpec.Gherkin

open StorySpec.Gherkin.Parser

variable {n : Nat} {l t u : Text} {ls ws : List Text}

/-! ## Settled texts -/

/-- A text that begins with no blank and no comment. -/
def Settled (t : Text) : Prop :=
  ∀ c ∈ t.head?, isBlank c = false ∧ c ≠ '#'

theorem settled_nil : Settled [] := nofun

theorem isBlank_of_isSpace {c : Char} (h : isSpace c = true) : isBlank c = true := by
  rcases Bool.or_eq_true_iff.1 h with h | h <;> rw [beq_iff_eq.1 h] <;> decide

theorem spaces_of_head (h : ∀ c ∈ t.head?, isSpace c = false) : spaces t = some ((), t) := by
  have hnil : ∀ c ∈ ([] : Text), isSpace c = true := nofun
  have hrun : run isSpace t = some ([], t) := run_append hnil h
  rw [spaces, map_apply, hrun]
  rfl

theorem newline_of_head (h : ∀ c ∈ t.head?, c ≠ '\n' ∧ c ≠ '\r') : newline t = none := by
  have hline : word ['\n'] t = none := word_singleton_eq_none fun heq => (h _ heq).1 rfl
  have hreturn : word ['\r'] t = none := word_singleton_eq_none fun heq => (h _ heq).2 rfl
  rw [newline, orElse_of_none, hline]
  rw [bind_apply, hreturn]
  rfl

theorem remark_of_head (h : ∀ c ∈ t.head?, isSpace c = false ∧ c ≠ '#') : remark t = none := by
  have hmark : word ['#'] t = none := word_singleton_eq_none fun heq => (h _ heq).2 rfl
  rw [remark, bind_apply, spaces_of_head fun c hc => (h c hc).1, Option.bind_some, bind_apply,
    hmark]
  rfl

@[simp] theorem newline_cons (u : Text) : newline ('\n' :: u) = some ((), u) := by
  rw [newline, orElse_of_none, word_singleton_cons]
  rw [bind_apply, word_singleton_eq_none (by simp)]
  rfl

@[simp] theorem lineEnd_newline (u : Text) : lineEnd ('\n' :: u) = some ((), u) := by
  have hremark : remark ('\n' :: u) = none := remark_of_head (by simp [isSpace])
  rw [lineEnd, bind_apply, optional_of_none hremark, Option.bind_some, newline_cons]

namespace Settled

variable (h : Settled t)

include h

theorem not_isSpace : ∀ c ∈ t.head?, isSpace c = false := by
  intro c hc
  cases hspace : isSpace c with
  | false => rfl
  | true => rw [← (h c hc).1, isBlank_of_isSpace hspace]

theorem spaces : spaces t = some ((), t) :=
  spaces_of_head h.not_isSpace

theorem newline : newline t = none := by
  refine newline_of_head fun c hc => ⟨?_, ?_⟩
  · rintro rfl
    exact absurd (h _ hc).1 (by decide)
  · rintro rfl
    exact absurd (h _ hc).1 (by decide)

theorem remark : remark t = none :=
  remark_of_head fun c hc => ⟨h.not_isSpace c hc, (h c hc).2⟩

theorem lineEnd : lineEnd t = none := by
  rw [Gherkin.lineEnd, bind_apply, optional_of_none h.remark, Option.bind_some, h.newline]

theorem satisfy_isSpace : satisfy isSpace t = none := by
  cases t with
  | nil => rfl
  | cons c t => simp [satisfy, h.not_isSpace c rfl]

theorem skipMany_lineEnd : skipMany Gherkin.lineEnd t = some ((), t) :=
  skipMany_of_none h.lineEnd

theorem skipMany_comment : skipMany comment t = some ((), t) := by
  refine skipMany_of_none ?_
  rw [comment, bind_apply, h.remark]
  rfl

theorem gap : gap t = some ((), t) := by
  refine skipMany_of_none ?_
  rw [orElse_of_none, h.lineEnd]
  rw [map_apply, h.satisfy_isSpace]
  rfl

/-- Where a text is settled, a keyword has to begin at once. -/
theorem keyword (ws : List Text) : keyword ws t = oneOf ws t := by
  rw [Gherkin.keyword, bind_apply, h.skipMany_comment]
  rfl

end Settled

/-! ## Settling -/

/-- A line end, a comment included, or a space. -/
def blank : Parser Unit :=
  lineEnd <|> (fun _ => ()) <$> satisfy isSpace

theorem gap_newline (u : Text) : gap ('\n' :: u) = gap u := by
  refine skipMany_cons (a := ()) ?_ (by simp)
  rw [orElse_of_none, lineEnd_newline]
  rfl

theorem gap_space (u : Text) : gap (' ' :: u) = gap u :=
  skipMany_cons (a := ()) (orElse_of_some rfl) (by simp)

theorem Settled.gap_replicate_space (h : Settled t) (n : Nat) :
    Gherkin.gap (List.replicate n ' ' ++ t) = some ((), t) := by
  induction n with
  | zero => exact h.gap
  | succ n ih => rwa [List.replicate_succ, List.cons_append, gap_space]

/-- What is left of a text after the blanks, line ends and comments at its start. -/
def settle (t : Text) : Text :=
  (repeatFrom (fun _ => (fun a => (a, ())) <$> blank) () t).2

theorem skipMany_blank (t : Text) : skipMany blank t = some ((), settle t) := rfl

theorem length_settle_le (t : Text) : (settle t).length ≤ t.length :=
  length_rest_repeatFrom_le _ _ _

/-- A line and its end are longer than what is settled behind them. -/
theorem length_settle_lt_line (l u : Text) : (settle u).length < (l ++ '\n' :: u).length := by
  have hle := length_settle_le u
  rw [List.length_append, List.length_cons]
  omega

theorem settle_eq_of_blank (h : blank t = some ((), u)) (hlt : u.length < t.length) :
    settle t = settle u := by
  have hskip := skipMany_cons h hlt
  rw [skipMany_blank, skipMany_blank] at hskip
  simpa using hskip

theorem Settled.settle (h : Settled t) : settle t = t := by
  have hblank : blank t = none := by
    rw [blank, orElse_of_none h.lineEnd, map_apply, h.satisfy_isSpace]
    rfl
  have hskip := skipMany_of_none hblank
  rw [skipMany_blank] at hskip
  simpa using hskip

@[simp] theorem settle_nil : settle [] = [] :=
  settled_nil.settle

@[simp] theorem settle_newline (u : Text) : settle ('\n' :: u) = settle u :=
  settle_eq_of_blank (orElse_of_some (lineEnd_newline u)) (by simp)

theorem spaces_space (u : Text) : spaces (' ' :: u) = spaces u := by
  simp [spaces, map_apply, run, isSpace]

theorem dropWhile_isSpace_replicate (n : Nat) (t : Text) :
    (List.replicate n ' ' ++ t).dropWhile isSpace = t.dropWhile isSpace := by
  induction n with
  | zero => rfl
  | succ n ih => simpa [List.replicate_succ, isSpace] using ih

/-- Spaces lead to no line end unless a line break or a comment comes after them. -/
theorem lineEnd_replicate_space (n : Nat) (h : ∀ c ∈ t.head?, isSpace c = false ∧ c ≠ '#') :
    lineEnd (List.replicate (n + 1) ' ' ++ t) = none := by
  have hmark : word ['#'] t = none := word_singleton_eq_none fun heq => (h _ heq).2 rfl
  have hremark : remark (List.replicate (n + 1) ' ' ++ t) = none := by
    have hdrop : t.dropWhile isSpace = t := by
      cases t with
      | nil => rfl
      | cons c t => simp [(h c rfl).1]
    rw [remark, bind_apply, spaces, map_apply]
    simp only [run, dropWhile_isSpace_replicate, Option.map_some, Option.bind_some]
    rw [hdrop, bind_apply, hmark]
    rfl
  -- without a comment the spaces are not taken, so they stand where the line break has to be
  rw [lineEnd, bind_apply, optional_of_none hremark, Option.bind_some]
  exact newline_of_head (by simp [List.replicate_succ])

/-- Spaces before a text that does not begin with a comment are dropped. -/
theorem settle_replicate_space (n : Nat) (h : ∀ c ∈ t.head?, isSpace c = false ∧ c ≠ '#') :
    settle (List.replicate n ' ' ++ t) = settle t := by
  induction n with
  | zero => rfl
  | succ n ih =>
    have hblank : blank (List.replicate (n + 1) ' ' ++ t) =
        some ((), List.replicate n ' ' ++ t) := by
      rw [blank, orElse_of_none (lineEnd_replicate_space n h), map_apply]
      rfl
    rw [settle_eq_of_blank hblank (by simp), ih]

theorem Settled.head (h : Settled t) : ∀ c ∈ t.head?, isSpace c = false ∧ c ≠ '#' :=
  fun c hc => ⟨h.not_isSpace c hc, (h c hc).2⟩

theorem Settled.lineEnd_replicate_space (h : Settled t) (n : Nat) :
    Gherkin.lineEnd (List.replicate n ' ' ++ t) = none := by
  cases n with
  | zero => exact h.lineEnd
  | succ n => exact Gherkin.lineEnd_replicate_space n h.head

theorem Settled.spaces_replicate_space (h : Settled t) (n : Nat) :
    Gherkin.spaces (List.replicate n ' ' ++ t) = some ((), t) := by
  have hdrop := h.spaces
  rw [Gherkin.spaces, map_apply, run] at hdrop ⊢
  rw [dropWhile_isSpace_replicate]
  exact hdrop

/-! ## Lines -/

/-- Whether a line is blank or a comment. -/
def isSilent (l : Text) : Bool :=
  l.head?.all (· == '#')

/-- The end of a line is split from what follows. -/
theorem splitLine_append (h : IsTail t) (u : Text) :
    splitLine (t ++ '\n' :: u) = (t, '\n' :: u) := by
  induction t with
  | nil => rfl
  | cons c t ih =>
    obtain ⟨hc, hmem⟩ := List.ne_and_not_mem_of_not_mem_cons h.noBreak
    rw [List.cons_append, splitLine, ih (h.of_suffix (List.suffix_cons c t))]
    · exact hc.symm
    · -- a carriage return before the line break would be a blank at the end of the line
      rintro t' rfl ht'
      cases t with
      | nil => exact absurd (h.last '\r' rfl) (by decide)
      | cons d t =>
        rw [List.cons_append, List.cons.injEq] at ht'
        exact (List.ne_and_not_mem_of_not_mem_cons hmem).1 ht'.1.symm

theorem restOfLine_append (h : IsTail t) (hne : t ≠ []) (u : Text) :
    restOfLine (t ++ '\n' :: u) = some (t, '\n' :: u) := by
  simp [restOfLine, splitLine_append h u, hne]

/-- A line that is not silent is settled. -/
theorem settled_of_loud (hl : IsLine l) (hloud : isSilent l = false) (u : Text) :
    Settled (l ++ u) := by
  cases l with
  | nil => cases hloud
  | cons c l =>
    intro d hd
    cases hd
    exact ⟨(Text.trim_eq_self_iff.1 hl.trim).1 c rfl, by simpa [isSilent] using hloud⟩

theorem ne_nil_of_loud (h : isSilent l = false) : l ≠ [] := by
  rintro rfl
  cases h

/-- A comment behind spaces is taken with the end of its line. -/
theorem lineEnd_remark (n : Nat) (hl : IsLine l) (h : l.head? = some '#') (u : Text) :
    lineEnd (List.replicate n ' ' ++ (l ++ '\n' :: u)) = some ((), u) := by
  have hremark : remark (List.replicate n ' ' ++ (l ++ '\n' :: u)) = some ((), '\n' :: u) := by
    obtain ⟨l, rfl⟩ : ∃ r, l = '#' :: r := by
      cases l with
      | nil => cases h
      | cons c l => cases h; exact ⟨l, rfl⟩
    have hsplit := splitLine_append (hl.isTail.of_suffix (List.suffix_cons '#' l)) u
    rw [remark, bind_apply, spaces, map_apply]
    simp only [run, dropWhile_isSpace_replicate, Option.map_some, Option.bind_some]
    rw [List.cons_append, List.dropWhile_cons_of_neg (by simp [isSpace]), bind_apply,
      word_singleton_cons, Option.bind_some, hsplit]
  rw [lineEnd, bind_apply, optional_of_some hremark, Option.bind_some, newline_cons]

/-- **The end of a line** leads to the settled text. -/
theorem blockEnd_newline (u : Text) : blockEnd ('\n' :: u) = some ((), settle u) := by
  refine orElse_of_some ?_
  have hblank : blank ('\n' :: u) = some ((), u) := orElse_of_some (lineEnd_newline u)
  change (blank >>= fun _ => skipMany blank) ('\n' :: u) = _
  rw [bind_apply, hblank, Option.bind_some, skipMany_blank]

/-! ## Blocks of lines -/

/-- Lines that are indented by `n`, before the text `u`. -/
def block (n : Nat) (ls : List Text) (u : Text) : Text :=
  Text.unlines (ls.map (indented n)) ++ u

@[simp] theorem block_nil (n : Nat) (u : Text) : block n [] u = u := rfl

theorem block_cons (n : Nat) (l : Text) (ls : List Text) (u : Text) :
    block n (l :: ls) u = List.replicate n ' ' ++ (l ++ '\n' :: block n ls u) := by
  simp [block, indented]

theorem length_le_length_block (n : Nat) (ls : List Text) (u : Text) :
    u.length ≤ (block n ls u).length := by
  simp [block]

theorem length_block_le_of_suffix {rest : List Text} (n : Nat) (h : rest <:+ ls) (u : Text) :
    (block n rest u).length ≤ (block n ls u).length := by
  obtain ⟨front, rfl⟩ := h
  simp [block]

/-- **Silent lines** are passed over. -/
theorem settle_block_cons_of_silent (n : Nat) (hl : IsLine l) (h : isSilent l = true)
    (ls : List Text) (u : Text) : settle (block n (l :: ls) u) = settle (block n ls u) := by
  rw [block_cons]
  cases l with
  | nil =>
    rw [List.nil_append, settle_replicate_space n (by simp [isSpace]), settle_newline]
  | cons c l =>
    -- the spaces before a comment belong to it, so they cannot be dropped first
    obtain rfl : c = '#' := by simpa [isSilent] using h
    refine settle_eq_of_blank (orElse_of_some (lineEnd_remark n hl rfl _)) ?_
    simp
    omega

/-- **Other lines** are led to. -/
theorem settle_block_cons_of_loud (n : Nat) (hl : IsLine l) (h : isSilent l = false)
    (ls : List Text) (u : Text) :
    settle (block n (l :: ls) u) = l ++ '\n' :: block n ls u := by
  have hsettled := settled_of_loud hl h ('\n' :: block n ls u)
  rw [block_cons, settle_replicate_space n hsettled.head, hsettled.settle]

theorem settled_settle_block (n : Nat) (hls : ∀ l ∈ ls, IsLine l) (hu : Settled (settle u)) :
    Settled (settle (block n ls u)) := by
  induction ls with
  | nil => exact hu
  | cons l ls ih =>
    have hl := hls l List.mem_cons_self
    cases h : isSilent l with
    | true =>
      rw [settle_block_cons_of_silent n hl h]
      exact ih fun m hm => hls m (List.mem_cons_of_mem l hm)
    | false =>
      rw [settle_block_cons_of_loud n hl h]
      exact settled_of_loud hl h _

/-- The lines of a block that are not silent. -/
def loud (ls : List Text) : List Text :=
  ls.filter (!isSilent ·)

theorem loud_cons_of_silent (h : isSilent l = true) (ls : List Text) :
    loud (l :: ls) = loud ls := by
  simp [loud, h]

theorem loud_cons_of_loud (h : isSilent l = false) (ls : List Text) :
    loud (l :: ls) = l :: loud ls := by
  simp [loud, h]

/-- Settling before a block leads behind it, if all of its lines are silent, or to the first of its
other lines. -/
theorem settle_block_cases (n : Nat) (hls : ∀ l ∈ ls, IsLine l) (u : Text) :
    (loud ls = [] ∧ settle (block n ls u) = settle u) ∨
      ∃ l rest, l :: rest <:+ ls ∧ isSilent l = false ∧ loud ls = l :: loud rest ∧
        settle (block n ls u) = l ++ '\n' :: block n rest u := by
  -- on the lines: a silent one is passed over, and the first other one is where settling ends
  induction ls with
  | nil => exact Or.inl ⟨rfl, rfl⟩
  | cons l ls ih =>
    have hl := hls l List.mem_cons_self
    cases h : isSilent l with
    | true =>
      rw [settle_block_cons_of_silent n hl h, loud_cons_of_silent h]
      rcases ih fun m hm => hls m (List.mem_cons_of_mem l hm) with hall | ⟨m, rest, hrest, hm⟩
      · exact Or.inl hall
      · exact Or.inr ⟨m, rest, hrest.trans (List.suffix_cons _ _), hm⟩
    | false =>
      exact Or.inr ⟨l, ls, List.suffix_refl _, h, loud_cons_of_loud h ls,
        settle_block_cons_of_loud n hl h ls u⟩

/-- Settling before a block of silent lines leads behind it. -/
theorem settle_block_of_loud_eq_nil (n : Nat) (hls : ∀ l ∈ ls, IsLine l) (h : loud ls = [])
    (u : Text) : settle (block n ls u) = settle u := by
  rcases settle_block_cases n hls u with ⟨-, heq⟩ | ⟨l, rest, -, -, hloud, -⟩
  · exact heq
  · rw [h] at hloud
    cases hloud

/-! ## Words at the start of a line -/

/-- A word without line breaks begins a line and what follows it if it begins the line. -/
theorem isPrefixOf?_append {w : Text} (hw : '\n' ∉ w) (l u : Text) :
    w.isPrefixOf? (l ++ '\n' :: u) = (w.isPrefixOf? l).map (· ++ '\n' :: u) := by
  induction w generalizing l with
  | nil => rfl
  | cons c w ih =>
    obtain ⟨hc, hrest⟩ := List.ne_and_not_mem_of_not_mem_cons hw
    cases l with
    | nil => simp [List.isPrefixOf?, hc.symm]
    | cons d l =>
      simp only [List.cons_append, List.isPrefixOf?]
      split
      · exact ih hrest l
      · rfl

theorem oneOf_append (hws : ∀ w ∈ ws, '\n' ∉ w) (l u : Text) :
    oneOf ws (l ++ '\n' :: u) = (oneOf ws l).map fun x => (x.1, x.2 ++ '\n' :: u) := by
  induction ws with
  | nil => rfl
  | cons w ws ih =>
    have hrest := ih fun v hv => hws v (List.mem_cons_of_mem w hv)
    simp only [oneOf] at hrest ⊢
    rw [List.findSome?_cons, List.findSome?_cons, isPrefixOf?_append (hws w List.mem_cons_self),
      hrest]
    cases w.isPrefixOf? l <;> rfl

/-- Whether a line begins with one of the words `ws`. -/
def beginsWith (ws : List Text) (l : Text) : Bool :=
  ws.any (·.isPrefixOf l)

theorem oneOf_eq_none_iff : oneOf ws t = none ↔ beginsWith ws t = false := by
  rw [oneOf, List.findSome?_eq_none_iff, beginsWith, List.any_eq_false]
  refine forall₂_congr fun w _ => ?_
  rw [Option.map_eq_none_iff, List.isPrefixOf_iff_prefix]
  constructor
  · rintro hnone ⟨r, rfl⟩
    rw [List.isPrefixOf?_eq_some_iff_append_eq.2 rfl] at hnone
    cases hnone
  · intro hnot
    cases hrest : w.isPrefixOf? t with
    | none => rfl
    | some r => exact absurd ⟨r, List.append_eq_of_isPrefixOf?_eq_some hrest⟩ hnot

theorem beginsWith_append (hws : ∀ w ∈ ws, '\n' ∉ w) (l u : Text) :
    beginsWith ws (l ++ '\n' :: u) = beginsWith ws l := by
  have hsame : oneOf ws (l ++ '\n' :: u) = none ↔ oneOf ws l = none := by
    rw [oneOf_append hws, Option.map_eq_none_iff]
  rw [oneOf_eq_none_iff, oneOf_eq_none_iff] at hsame
  rwa [Bool.eq_iff_iff, ← not_iff_not, Bool.not_eq_true, Bool.not_eq_true]

theorem eq_append_of_oneOf {w r : Text} (h : oneOf ws t = some (w, r)) : w ∈ ws ∧ t = w ++ r := by
  obtain ⟨v, hv, hmap⟩ := List.exists_of_findSome?_eq_some h
  obtain ⟨r', hr', heq⟩ := Option.map_eq_some_iff.1 hmap
  cases heq
  exact ⟨hv, (List.append_eq_of_isPrefixOf?_eq_some hr').symm⟩

end StorySpec.Gherkin
