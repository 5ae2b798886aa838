import StorySpec.Proofs.Gherkin.Header

/-!
# Scenarios in Gherkin documents

The lines under the title of a scenario are taken up to the first one that is no step where one has
to be.  If there is one, the grammar stands before a line that it can take for nothing, and never
gets further; otherwise it stands where the scenario is over.

## Main definitions

* `Closing d t`: the parts of a scenario are over at `t`.
* `Stuck d t`: nothing that may follow in a document begins at `t`.
* `Dialect.IsPlain d`: what the words of the dialect `d` have in common.

## Main results

* `Stuck.scenario`, `Stuck.examples`: no scenario and no examples begin at such a place.
* `body_block`: what the lines under a title are read as.
-/

namespace StorySpec.Gherkin

open StorySpec.Gherkin.Parser

variable {d : Dialect} {n : Nat} {l : Text} {t u v : Text} {ls ws : List Text}

/-! ## Places where a scenario is over -/

/-- A place where the parts of a scenario are over, whichever it has: the end of the document, or
tags that do not belong to examples. -/
structure Closing (d : Dialect) (t : Text) : Prop where
  /-- There is a tag, or nothing. -/
  start : ∀ c ∈ t.head?, c = '@'
  examples : examples d t = none

/-- A place where nothing begins that may follow in a document. -/
structure Stuck (d : Dialect) (t : Text) : Prop where
  settled : Settled t
  ne_nil : t ≠ []
  /-- Neither a tag nor a title begins there. -/
  plain : beginsWith (['@'] :: d.titleMarks) t = false

theorem beginsWith_of_subset {vs : List Text} (h : ∀ w ∈ vs, w ∈ ws)
    (ht : beginsWith ws t = false) : beginsWith vs t = false :=
  List.any_eq_false.2 fun w hw => List.any_eq_false.1 ht w (h w hw)

theorem head?_ne_of_not_beginsWith {c : Char} (hc : [c] ∈ ws) (h : beginsWith ws t = false) :
    t.head? ≠ some c := by
  intro hhead
  obtain ⟨s, rfl⟩ := List.head?_eq_some_iff.1 hhead
  exact List.any_eq_false.1 h [c] hc (List.isPrefixOf_iff_prefix.2 ⟨s, rfl⟩)

namespace Stuck

variable (h : Stuck d t)

include h

theorem head?_ne : t.head? ≠ some '@' :=
  head?_ne_of_not_beginsWith List.mem_cons_self h.plain

theorem header (hws : ∀ w ∈ ws, w ++ [':'] ∈ d.titleMarks) : header ws t = none := by
  refine header_of_not_titled h.settled h.head?_ne (beginsWith_of_subset ?_ h.plain)
  intro mark hmark
  obtain ⟨w, hw, rfl⟩ := List.mem_map.1 hmark
  exact List.mem_cons_of_mem _ (hws w hw)

theorem scenarioMarked (hws : ∀ w ∈ ws, w ++ [':'] ∈ d.titleMarks) :
    scenarioMarked d ws t = none := by
  rw [scenarioMarked_eq h.settled, bind_apply, h.header hws]
  rfl

theorem scenario : scenario d t = none := by
  have hscenario : Gherkin.scenarioMarked d d.scenario t = none :=
    h.scenarioMarked fun w hw => List.mem_map.2 ⟨w, by simp [hw], rfl⟩
  rw [Gherkin.scenario, orElse_of_none hscenario]
  exact h.scenarioMarked fun w hw => List.mem_map.2 ⟨w, by simp [hw], rfl⟩

theorem examples : examples d t = none := by
  rw [examples_eq h.settled, bind_apply,
    h.header fun w hw => List.mem_map.2 ⟨w, by simp [hw], rfl⟩]
  rfl

end Stuck

namespace Closing

variable (h : Closing d t)

include h

theorem settled : Settled t := by
  intro c hc
  rw [h.start c hc]
  decide

/-- Words that do not begin with an at sign are not there. -/
theorem not_beginsWith (hws : ∀ w ∈ ws, w ≠ [] ∧ w.head? ≠ some '@') :
    beginsWith ws t = false := by
  refine List.any_eq_false.2 fun w hw hprefix => ?_
  obtain ⟨hne, hat⟩ := hws w hw
  obtain ⟨c, w, rfl⟩ := List.exists_cons_of_ne_nil hne
  obtain ⟨r, rfl⟩ := List.isPrefixOf_iff_prefix.1 hprefix
  exact hat (congrArg some (h.start c rfl))

theorem noArgument : NoArgument t :=
  ⟨h.settled, h.not_beginsWith (by decide)⟩

/-- No description goes on there. -/
theorem descriptionLine (hws : ∀ w ∈ ws, w ≠ [] ∧ w.head? ≠ some '@') :
    descriptionLine ws t = none := by
  rw [Gherkin.descriptionLine, bind_apply, h.settled.spaces, Option.bind_some, bind_apply]
  cases t with
  | nil =>
    have hkeyword : keyword ws [] = none := by
      rw [settled_nil.keyword, oneOf_eq_none_iff]
      exact h.not_beginsWith hws
    rw [notAhead_of_none (word_singleton_eq_none (by simp)), Option.bind_some, bind_apply,
      notAhead_of_none hkeyword]
    rfl
  | cons c t =>
    rw [h.start c rfl, notAhead_of_some (word_singleton_cons '@' t)]
    rfl

theorem description (hws : ∀ w ∈ ws, w ≠ [] ∧ w.head? ≠ some '@') :
    description ws t = some ((), t) :=
  description_of_none h.settled (h.descriptionLine hws)

theorem background (hws : ∀ w ∈ d.background, w ≠ [] ∧ w.head? ≠ some '@') :
    background d t = none := by
  rw [Gherkin.background, bind_apply, h.settled.skipMany_comment, Option.bind_some, bind_apply,
    h.settled.spaces, Option.bind_some, bind_apply, h.settled.keyword,
    oneOf_eq_none_iff.2 (h.not_beginsWith hws)]
  rfl

end Closing

/-! ## Steps and descriptions -/

/-- What the words of a dialect have in common. -/
structure Dialect.IsPlain (d : Dialect) : Prop where
  /-- The keywords of steps end with a space. -/
  spaced : SpacedWords d.stepKeywords
  noBreak : ∀ w ∈ d.scenarioWords ++ d.titleMarks, '\n' ∉ w
  /-- No word is empty or begins with an at sign or a bar. -/
  head : ∀ w ∈ d.scenarioWords ++ d.background ++ d.rule ++ d.titleMarks,
    w ≠ [] ∧ w.head? ≠ some '@' ∧ w.head? ≠ some '|'

theorem Dialect.IsPlain.scenarioWords_noBreak (hd : d.IsPlain) :
    ∀ w ∈ d.scenarioWords, '\n' ∉ w :=
  fun w hw => hd.noBreak w (List.mem_append_left _ hw)

theorem Dialect.IsPlain.scenarioWords_head (hd : d.IsPlain) :
    ∀ w ∈ d.scenarioWords, w ≠ [] ∧ w.head? ≠ some '@' := by
  intro w hw
  obtain ⟨hne, hat, -⟩ := hd.head w (by simp [hw])
  exact ⟨hne, hat⟩

theorem stuck_line (hd : d.IsPlain) (hl : IsLine l) (hloud : isSilent l = false)
    (hplain : beginsWith (['@'] :: d.titleMarks) l = false) (u : Text) :
    Stuck d (l ++ '\n' :: u) := by
  refine ⟨settled_of_loud hl hloud _, by simp, ?_⟩
  rw [beginsWith_append, hplain]
  intro w hw
  rcases List.mem_cons.1 hw with rfl | hw
  · decide
  · exact hd.noBreak w (List.mem_append_right _ hw)

theorem step_of_not_beginsWith (ht : Settled t) (h : beginsWith d.stepKeywords t = false)
    (last : Option StepType) : step d last t = none := by
  have hkeyword : ∀ ws : List Text, (∀ w ∈ ws, w ∈ d.stepKeywords) → keyword ws t = none := by
    intro ws hws
    rw [ht.keyword, oneOf_eq_none_iff]
    exact beginsWith_of_subset hws h
  have hown : ∀ (ws : List Text) (type : StepType), (∀ w ∈ ws, w ∈ d.stepKeywords) →
      ownStep ws type t = none := by
    intro ws type hws
    rw [ownStep, bind_apply, hkeyword ws hws]
    rfl
  have hadded : ∀ ws : List Text, (∀ w ∈ ws, w ∈ d.stepKeywords) →
      addedStep ws last t = none := by
    intro ws hws
    rw [addedStep, bind_apply, hkeyword ws hws]
    rfl
  rw [step, orElse_of_none (hown _ _ fun w hw => ?_), orElse_of_none (hown _ _ fun w hw => ?_),
    orElse_of_none (hown _ _ fun w hw => ?_), orElse_of_none (hadded _ fun w hw => ?_),
    hadded _ fun w hw => ?_]
  all_goals simp [Dialect.stepKeywords, hw]

/-- **The lines under a title** are read as a description and as steps. -/
theorem body_block (hd : d.IsPlain) (hls : ∀ l ∈ ls, IsLine l)
    (hplain : ∀ l ∈ ls, beginsWith d.partMarks l = false) (hv : NoArgument (settle v))
    (hdescription : descriptionLine d.scenarioWords (settle v) = none)
    (hsteps : beginsWith d.stepKeywords (settle v) = false) :
    ∃ rest, rest <:+ ls ∧ loud rest = (d.readBody ls).2 ∧
      (do description d.scenarioWords; steps d) (settle (block n ls v)) =
        some ((d.readBody ls).1, settle (block n rest v)) := by
  have hat : ∀ l ∈ ls, l.head? ≠ some '@' := fun l hl =>
    head?_ne_of_not_beginsWith List.mem_cons_self (hplain l hl)
  have hargument : ∀ l ∈ ls, beginsWith argumentMarks l = false := fun l hl =>
    beginsWith_of_subset (fun w hw => List.mem_cons_of_mem _ (List.mem_append_left _ hw))
      (hplain l hl)
  obtain ⟨front, hfront, hleft, hrun⟩ :=
    description_block (n := n) hd.scenarioWords_noBreak hls hat hv.settled hdescription
  obtain ⟨rest, hrest, hover, hfound⟩ :=
    steps_block (n := n) hd.spaced (fun l hl => hls l (hfront.mem hl))
      (fun l hl => hargument l (hfront.mem hl)) hv (step_of_not_beginsWith hv.settled hsteps) none
  rw [hleft] at hover hfound
  refine ⟨rest, hrest.trans hfront, hover, ?_⟩
  rw [bind_apply, hrun, Option.bind_some]
  exact congrArg some hfound

end StorySpec.Gherkin
