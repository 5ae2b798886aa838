import StorySpec.Proofs.Gherkin.Table

/-!
# Steps in Gherkin documents

The lines under the title of a scenario are a description at first.  It ends at the first line that
begins with a word for a scenario or a step, and from there on every line has to be a step, until
the scenario is over.  So a list of lines can be read line by line, and either all of it is taken
or the grammar stands before the first line that is no step where one has to be.

## Main definitions

* `Dialect.readStep? d last l`: the step that the line `l` is read as.
* `Dialect.readSteps d last ls`: the steps at the start of the lines `ls`, and the lines left over.
* `Dialect.readBody d ls`: the same for all the lines under a title.

## Main results

* `step_append`: what a line is read as at its place in a document.
* `description_block`, `steps_block`: what the lines of a block are read as.
-/

namespace StorySpec.Gherkin

open StorySpec.Gherkin.Parser

variable {d : Dialect} {n : Nat} {l t u : Text} {ls ws : List Text}

/-! ## Reading line by line -/

/-- The step that a line is read as if it begins with one of the words `ws`. -/
def lineStep? (ws : List Text) (type : StepType) (l : Text) : Option Step :=
  (oneOf ws l).map fun found =>
    { keyword := found.1, type, value := found.2.dropWhile isSpace }

/-- The step that a line is read as, when the step before it has the type `last`. -/
def Dialect.readStep? (d : Dialect) (last : Option StepType) (l : Text) : Option Step :=
  lineStep? d.setup .setup l <|> lineStep? d.action .action l <|> lineStep? d.outcome .outcome l <|>
    (last.bind fun type => lineStep? d.addition type l) <|>
      last.bind fun type => lineStep? d.contrast type l

/-- The steps at the start of some lines, and the lines from the first that is no step. -/
def Dialect.readSteps (d : Dialect) : Option StepType → List Text → List Step × List Text
  | _, [] => ([], [])
  | last, l :: ls =>
    match d.readStep? last l with
    | some s => (s :: (d.readSteps (some s.type) ls).1, (d.readSteps (some s.type) ls).2)
    | none => ([], l :: ls)

/-- The steps among the lines under the title of a scenario, and the lines that are left over.  What
comes before the first word for a scenario or a step is a description. -/
def Dialect.readBody (d : Dialect) (ls : List Text) : List Step × List Text :=
  d.readSteps none ((loud ls).dropWhile (!beginsWith d.scenarioWords ·))

/-! ## Single steps -/

/-- Words of a dialect that are separated from what follows by a space of their own. -/
def SpacedWords (ws : List Text) : Prop :=
  ∀ w ∈ ws, w.getLast? = some ' ' ∧ '\n' ∉ w

/-- What the arguments of steps begin with: rows, and the marks of quoted blocks. -/
def argumentMarks : List Text :=
  [['|'], "\"\"\"".toList, "```".toList]

/-- A place in a document where no argument of a step begins. -/
structure NoArgument (t : Text) : Prop where
  settled : Settled t
  /-- No mark of an argument is there. -/
  plain : beginsWith argumentMarks t = false

namespace NoArgument

variable (h : NoArgument t)

include h

theorem not_isPrefix : ∀ w ∈ argumentMarks, ¬ w <+: t := by
  intro w hw hprefix
  have hnone := List.any_eq_false.1 h.plain w hw
  exact hnone (List.isPrefixOf_iff_prefix.2 hprefix)

theorem head?_ne : t.head? ≠ some '|' := by
  intro hhead
  obtain ⟨s, rfl⟩ := List.head?_eq_some_iff.1 hhead
  exact h.not_isPrefix ['|'] (by simp [argumentMarks]) ⟨s, rfl⟩

theorem docString : docString t = none := by
  have hmark : ∀ w ∈ argumentMarks, quotedBlock w t = none := by
    intro w hw
    rw [quotedBlock, bind_apply, word_of_not_isPrefix (h.not_isPrefix w hw)]
    rfl
  rw [Gherkin.docString, orElse_of_none (hmark _ (by simp [argumentMarks])),
    hmark _ (by simp [argumentMarks])]

theorem table : table t = none := by
  rw [Gherkin.table, bind_apply, h.settled.spaces, Option.bind_some, bind_apply,
    row_of_head h.settled h.head?_ne]
  rfl

end NoArgument

theorem noArgument_append (hl : IsLine l) (hloud : isSilent l = false)
    (hplain : beginsWith argumentMarks l = false) (u : Text) : NoArgument (l ++ '\n' :: u) := by
  refine ⟨settled_of_loud hl hloud _, ?_⟩
  rw [beginsWith_append (by decide), hplain]

/-- Where no argument follows a block or begins one of its lines, none begins before it. -/
theorem noArgument_settle_block (n : Nat) (hls : ∀ l ∈ ls, IsLine l)
    (hplain : ∀ l ∈ ls, beginsWith argumentMarks l = false) (hu : NoArgument (settle u)) :
    NoArgument (settle (block n ls u)) := by
  rcases settle_block_cases n hls u with ⟨-, heq⟩ | ⟨l, rest, hsuffix, hloud, -, heq⟩
  · rwa [heq]
  · have hmem : l ∈ ls := hsuffix.mem List.mem_cons_self
    rw [heq]
    exact noArgument_append (hls l hmem) hloud (hplain l hmem) _

/-- What follows a keyword on its line is the text of the step. -/
theorem stepRest_append {r : Text} (hr : IsTail r) (hne : r ≠ []) (hu : NoArgument (settle u))
    (w : Text) (type : StepType) :
    stepRest w type (r ++ '\n' :: u) =
      some ({ keyword := w, type, value := r.dropWhile isSpace }, settle u) := by
  have hvalue := dropWhile_isSpace_ne_nil hr hne
  have htail : IsTail (r.dropWhile isSpace) := hr.of_suffix (List.dropWhile_suffix _)
  have hspaces : spaces (r ++ '\n' :: u) = some ((), r.dropWhile isSpace ++ '\n' :: u) := by
    rw [spaces, map_apply, run, List.dropWhile_append, if_neg (by simpa using hvalue)]
    rfl
  have hrest : restOfLine (r.dropWhile isSpace ++ '\n' :: u) =
      some (r.dropWhile isSpace, '\n' :: u) := restOfLine_append htail hvalue u
  rw [stepRest, bind_apply, hspaces, Option.bind_some, bind_apply, hrest, Option.bind_some,
    bind_apply, spaces_of_head (by simp [isSpace]), Option.bind_some, bind_apply, blockEnd_newline,
    Option.bind_some, bind_apply, hu.settled.spaces, Option.bind_some, bind_apply,
    optional_of_none hu.docString, Option.bind_some, bind_apply, optional_of_none hu.table,
    Option.bind_some, pure_apply, Text.trimEnd_eq_self_iff.2 htail.last]

section Line

variable (hl : IsLine l) (hloud : isSilent l = false) (hu : NoArgument (settle u))

include hl hloud hu

theorem ownStep_append (hws : SpacedWords ws) (type : StepType) :
    ownStep ws type (l ++ '\n' :: u) = (lineStep? ws type l).map fun s => (s, settle u) := by
  have hbreak : ∀ w ∈ ws, '\n' ∉ w := fun w hw => (hws w hw).2
  rw [ownStep, bind_apply, (settled_of_loud hl hloud _).keyword, oneOf_append hbreak, lineStep?]
  cases hfound : oneOf ws l with
  | none => rfl
  | some found =>
    obtain ⟨w, r⟩ := found
    obtain ⟨hw, rfl⟩ := eq_append_of_oneOf hfound
    have hne : r ≠ [] := by
      rintro rfl
      have hblank := hl.isTail.last ' ' (by rw [List.append_nil, (hws w hw).1]; rfl)
      cases hblank
    exact stepRest_append (hl.isTail.of_suffix (List.suffix_append _ _)) hne hu w type

theorem addedStep_append (hws : SpacedWords ws) (last : Option StepType) :
    addedStep ws last (l ++ '\n' :: u) =
      (last.bind fun type => lineStep? ws type l).map fun s => (s, settle u) := by
  cases last with
  | none =>
    rw [addedStep, bind_apply]
    cases keyword ws (l ++ '\n' :: u) <;> rfl
  | some type => exact ownStep_append hl hloud hu hws type

/-- **A line is read as a step** no matter what follows it. -/
theorem step_append (hd : SpacedWords d.stepKeywords) (last : Option StepType) :
    step d last (l ++ '\n' :: u) = (d.readStep? last l).map fun s => (s, settle u) := by
  have horElse : ∀ {p q : Parser Step} {a b : Option Step} {t : Text},
      p t = a.map (fun s => (s, settle u)) → q t = b.map (fun s => (s, settle u)) →
        (p <|> q) t = (a <|> b).map fun s => (s, settle u) := by
    intro p q a b t hp hq
    cases a with
    | none => rw [orElse_of_none hp, hq]; rfl
    | some s => rw [orElse_of_some hp]; rfl
  have hsub : ∀ ws : List Text, (∀ w ∈ ws, w ∈ d.stepKeywords) → SpacedWords ws :=
    fun ws hws w hw => hd w (hws w hw)
  refine horElse (ownStep_append hl hloud hu (hsub _ fun w hw => ?_) _)
    (horElse (ownStep_append hl hloud hu (hsub _ fun w hw => ?_) _)
      (horElse (ownStep_append hl hloud hu (hsub _ fun w hw => ?_) _)
        (horElse (addedStep_append hl hloud hu (hsub _ fun w hw => ?_) last)
          (addedStep_append hl hloud hu (hsub _ fun w hw => ?_) last))))
  all_goals simp [Dialect.stepKeywords, hw]

end Line

/-! ## Blocks of steps -/

/-- A step, and the spaces before it. -/
def nextStep (d : Dialect) (last : Option StepType) : Parser (Step × Option StepType) := do
  spaces
  let s ← step d last
  return (s, some s.type)

theorem nextStep_eq (ht : Settled t) (last : Option StepType) :
    nextStep d last t = (step d last t).map fun x => ((x.1, some x.1.type), x.2) := by
  rw [nextStep, bind_apply, ht.spaces, Option.bind_some, bind_apply]
  cases step d last t <;> rfl

/-- **The lines of a block** are read as steps one by one, as long as they are steps. -/
theorem steps_block (hd : SpacedWords d.stepKeywords) (hls : ∀ l ∈ ls, IsLine l)
    (hplain : ∀ l ∈ ls, beginsWith argumentMarks l = false) (hu : NoArgument (settle u))
    (hstop : ∀ last, step d last (settle u) = none) (last : Option StepType) :
    ∃ rest, rest <:+ ls ∧ loud rest = (d.readSteps last (loud ls)).2 ∧
      repeatFrom (nextStep d) last (settle (block n ls u)) =
        ((d.readSteps last (loud ls)).1, settle (block n rest u)) := by
  -- on the lines, with the type of the last step open, since every step changes it
  induction ls generalizing last with
  | nil =>
    refine ⟨[], List.suffix_refl _, rfl, repeatFrom_of_none ?_⟩
    rw [block_nil, nextStep_eq hu.settled, hstop]
    rfl
  | cons l ls ih =>
    have hl := hls l List.mem_cons_self
    have hrestLine : ∀ m ∈ ls, IsLine m := fun m hm => hls m (List.mem_cons_of_mem l hm)
    have hrestPlain : ∀ m ∈ ls, beginsWith argumentMarks m = false :=
      fun m hm => hplain m (List.mem_cons_of_mem l hm)
    cases hsilent : isSilent l with
    | true =>
      obtain ⟨rest, hsuffix, hrest⟩ := ih hrestLine hrestPlain last
      refine ⟨rest, hsuffix.trans (List.suffix_cons _ _), ?_⟩
      rwa [settle_block_cons_of_silent n hl hsilent, loud_cons_of_silent hsilent]
    | false =>
      have hsettled := settled_of_loud hl hsilent ('\n' :: block n ls u)
      have hnext : nextStep d last (l ++ '\n' :: block n ls u) =
          (d.readStep? last l).map fun s => ((s, some s.type), settle (block n ls u)) := by
        rw [nextStep_eq hsettled, step_append hl hsilent
          (noArgument_settle_block n hrestLine hrestPlain hu) hd, Option.map_map]
        rfl
      rw [settle_block_cons_of_loud n hl hsilent, loud_cons_of_loud hsilent]
      cases hread : d.readStep? last l with
      | none =>
        rw [hread] at hnext
        refine ⟨l :: ls, List.suffix_refl _, ?_, ?_⟩
        · rw [loud_cons_of_loud hsilent, Dialect.readSteps, hread]
        · rw [repeatFrom_of_none hnext, settle_block_cons_of_loud n hl hsilent,
            Dialect.readSteps, hread]
      | some s =>
        obtain ⟨rest, hsuffix, hrest, hrun⟩ := ih hrestLine hrestPlain (some s.type)
        rw [hread] at hnext
        refine ⟨rest, hsuffix.trans (List.suffix_cons _ _), ?_, ?_⟩
        · rw [Dialect.readSteps, hread, hrest]
        · rw [repeatFrom_cons hnext (length_settle_lt_line l _), hrun, Dialect.readSteps, hread]

/-! ## Descriptions -/

/-- A line of a description, and the spaces before it. -/
def nextDescriptionLine (ws : List Text) : Parser Unit := do
  spaces
  descriptionLine ws

/-- A description takes a line unless it begins with one of the words `ws`. -/
theorem descriptionLine_append (hws : ∀ w ∈ ws, '\n' ∉ w) (hl : IsLine l)
    (hloud : isSilent l = false) (hat : l.head? ≠ some '@') (u : Text) :
    descriptionLine ws (l ++ '\n' :: u) =
      if beginsWith ws l then none else some ((), settle u) := by
  have hsettled := settled_of_loud hl hloud ('\n' :: u)
  have hne := ne_nil_of_loud hloud
  have hword : word ['@'] (l ++ '\n' :: u) = none := by
    refine word_singleton_eq_none ?_
    obtain ⟨c, l, rfl⟩ := List.exists_cons_of_ne_nil hne
    exact hat
  rw [descriptionLine, bind_apply, hsettled.spaces, Option.bind_some, bind_apply,
    notAhead_of_none hword, Option.bind_some, bind_apply]
  split
  · rename_i hbegins
    have hkeyword : ∃ x, keyword ws (l ++ '\n' :: u) = some x := by
      rw [hsettled.keyword, ← Option.isSome_iff_exists, ← Option.ne_none_iff_isSome, Ne,
        oneOf_eq_none_iff, beginsWith_append hws, hbegins]
      simp
    obtain ⟨⟨w, r⟩, hkeyword⟩ := hkeyword
    rw [notAhead_of_some hkeyword]
    rfl
  · rename_i hbegins
    have hkeyword : keyword ws (l ++ '\n' :: u) = none := by
      rw [hsettled.keyword, oneOf_eq_none_iff, beginsWith_append hws]
      simpa using hbegins
    rw [notAhead_of_none hkeyword, Option.bind_some, bind_apply, hsettled.spaces,
      Option.bind_some, bind_apply, restOfLine_append hl.isTail hne, Option.bind_some,
      blockEnd_newline]

theorem many_nextDescriptionLine_block (hws : ∀ w ∈ ws, '\n' ∉ w) (hls : ∀ l ∈ ls, IsLine l)
    (hat : ∀ l ∈ ls, l.head? ≠ some '@') (hu : Settled (settle u))
    (hstop : descriptionLine ws (settle u) = none) :
    ∃ rest, rest <:+ ls ∧ loud rest = (loud ls).dropWhile (!beginsWith ws ·) ∧
      ∃ taken, many (nextDescriptionLine ws) (settle (block n ls u)) =
        some (taken, settle (block n rest u)) := by
  induction ls with
  | nil =>
    refine ⟨[], List.suffix_refl _, rfl, [], many_of_none ?_⟩
    rw [nextDescriptionLine, bind_apply, block_nil, hu.spaces]
    exact hstop
  | cons l ls ih =>
    have hl := hls l List.mem_cons_self
    obtain ⟨rest, hsuffix, hrest, taken, hmany⟩ := ih
      (fun m hm => hls m (List.mem_cons_of_mem l hm)) fun m hm => hat m (List.mem_cons_of_mem l hm)
    cases hsilent : isSilent l with
    | true =>
      refine ⟨rest, hsuffix.trans (List.suffix_cons _ _), ?_, taken, ?_⟩
      · rw [loud_cons_of_silent hsilent, hrest]
      · rw [settle_block_cons_of_silent n hl hsilent, hmany]
    | false =>
      have hnext : nextDescriptionLine ws (l ++ '\n' :: block n ls u) =
          if beginsWith ws l then none else some ((), settle (block n ls u)) := by
        rw [nextDescriptionLine, bind_apply, (settled_of_loud hl hsilent _).spaces,
          Option.bind_some, descriptionLine_append hws hl hsilent (hat l List.mem_cons_self)]
      rw [settle_block_cons_of_loud n hl hsilent, loud_cons_of_loud hsilent]
      by_cases hbegins : beginsWith ws l = true
      · rw [if_pos hbegins] at hnext
        refine ⟨l :: ls, List.suffix_refl _, ?_, [], ?_⟩
        · rw [loud_cons_of_loud hsilent, List.dropWhile_cons_of_neg (by simp [hbegins])]
        · rw [many_of_none hnext, settle_block_cons_of_loud n hl hsilent]
      · rw [if_neg hbegins] at hnext
        refine ⟨rest, hsuffix.trans (List.suffix_cons _ _), ?_, () :: taken, ?_⟩
        · rw [List.dropWhile_cons_of_pos (by simpa using hbegins), hrest]
        · rw [many_cons hnext (length_settle_lt_line l _), hmany]
          rfl

/-- A description is empty where no line of it begins. -/
theorem description_of_none (ht : Settled t) (h : descriptionLine ws t = none) :
    description ws t = some ((), t) := by
  rw [description, bind_apply, sepBy_of_none h, Option.bind_some, ht.gap]

/-- **A description** takes the lines of a block up to the first one of the words `ws`. -/
theorem description_block (hws : ∀ w ∈ ws, '\n' ∉ w) (hls : ∀ l ∈ ls, IsLine l)
    (hat : ∀ l ∈ ls, l.head? ≠ some '@') (hu : Settled (settle u))
    (hstop : descriptionLine ws (settle u) = none) :
    ∃ rest, rest <:+ ls ∧ loud rest = (loud ls).dropWhile (!beginsWith ws ·) ∧
      description ws (settle (block n ls u)) = some ((), settle (block n rest u)) := by
  obtain ⟨rest, hsuffix, hrest, taken, hmany⟩ :=
    many_nextDescriptionLine_block (n := n) hws hls hat hu hstop
  refine ⟨rest, hsuffix, hrest, ?_⟩
  have hsettled := settled_settle_block n hls hu
  -- there is nothing between two lines of a description that both begin settled
  have hprogress : ∀ a r, descriptionLine ws (settle (block n ls u)) = some (a, r) →
      r.length < (settle (block n ls u)).length := by
    intro a r hline
    rcases settle_block_cases n hls u with ⟨-, heq⟩ | ⟨l, rest', hsub, hloud, -, heq⟩
    · rw [heq, hstop] at hline
      cases hline
    · have hmem : l ∈ ls := hsub.mem List.mem_cons_self
      rw [heq, descriptionLine_append hws (hls l hmem) hloud (hat l hmem)] at hline
      split at hline
      · cases hline
      · cases hline
        rw [heq]
        exact length_settle_lt_line l _
  have hsep : sepBy (descriptionLine ws) spaces (settle (block n ls u)) =
      some (taken, settle (block n rest u)) :=
    (sepBy_eq_many hsettled.spaces hprogress).trans hmany
  have hend := settled_settle_block n (fun m hm => hls m (hsuffix.mem hm)) hu
  rw [description, bind_apply, hsep, Option.bind_some, hend.gap]

end StorySpec.Gherkin
