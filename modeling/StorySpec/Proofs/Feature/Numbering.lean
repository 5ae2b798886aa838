import StorySpec.Proofs.Feature.Examples

/-!
# The sections of groups

Every group that has steps becomes one section of the document, and a group without steps leaves no
trace in it.  A section with examples is titled by its number among the sections with examples, and
any other one by the first and the last of its steps.

## Main definitions

* `stepTitle fallback step`: what a step is called in a title.
* `Section.IsOf r g l`: the section `r` is that of the group `g` in the language `l`.

## Main results

* `sectionsOf_filter`: groups without steps count for nothing.
* `isOf_toSection`: the section of a group.
* `map_title_outlines`: the outlines are numbered without gaps.
* `forall₂_isOf_ofStory`: the groups of a story and the sections of its document.
-/

namespace StorySpec

variable {lang : Language} {g : Group} {gs : List Group}

/-- What a step is called in a title: what it says apart from its keyword, or the fallback when
that is nothing. -/
def stepTitle (fallback step : Text) : Text :=
  if stepText step = [] then fallback else stepText step

/-- A section is that of a group, its number aside. -/
structure Section.IsOf (r : Section) (g : Group) (lang : Language) : Prop where
  steps : r.steps.length = g.steps.length
  /-- The kind of the group, and then its name if it has one. -/
  tags : r.tags = ('@' :: Text.lower g.kind.tag) :: g.tag.toList.map ('@' :: ·)
  outline_iff : r.outline = true ↔ g.examples ≠ []
  plain : r.outline = false → ∃ first last, g.steps.head? = some first ∧
    g.steps.getLast? = some last ∧
    r.title = g.kind.label lang ++ " - ".toList ++ stepTitle lang.words.condition first ++
      " - ".toList ++ stepTitle lang.words.result last

/-! ## Groups without steps -/

/-- **Groups without steps** count for nothing, wherever they are. -/
theorem sectionsOf_filter (lang : Language) (n : Nat) (gs : List Group) :
    sectionsOf lang n (gs.filter fun g => g.steps != []) = sectionsOf lang n gs := by
  induction gs generalizing n with
  | nil => rfl
  | cons g gs ih =>
    by_cases hsteps : g.steps = []
    · rw [List.filter_cons_of_neg (by simp [hsteps]), ih]
      simp [sectionsOf, hsteps]
    · rw [List.filter_cons_of_pos (by simp [hsteps])]
      simp [sectionsOf, hsteps, ih]

theorem ofStory_filter (s : Story) (n : Nat) :
    Feature.ofStory { s with groups := s.groups.filter fun g => g.steps != [] } n =
      Feature.ofStory s n := by
  have hsections : Story.sections { s with groups := s.groups.filter fun g => g.steps != [] } =
      s.sections := sectionsOf_filter s.language 0 s.groups
  simp only [Feature.ofStory, Story.documentLines, hsections]
  rfl

/-! ## The section of a group -/

theorem stepTextOr_some (fallback step : Text) :
    Group.stepTextOr fallback (some step) = stepTitle fallback step := by
  unfold Group.stepTextOr stepTitle
  cases h : stepText step <;> simp [h]

theorem title_eq {first last : Text} (hfirst : g.steps.head? = some first)
    (hlast : g.steps.getLast? = some last) :
    g.title lang = g.kind.label lang ++ " - ".toList ++ stepTitle lang.words.condition first ++
      " - ".toList ++ stepTitle lang.words.result last := by
  simp [Group.title, hfirst, hlast, stepTextOr_some]

/-- **The section of a group** that has steps. -/
theorem isOf_toSection (hsteps : g.steps ≠ []) (lang : Language) (n : Nat) :
    (g.toSection lang n).IsOf g lang := by
  have htags : g.tags = ('@' :: Text.lower g.kind.tag) :: g.tag.toList.map ('@' :: ·) := by
    unfold Group.tags
    cases g.tag <;> rfl
  have hlength : (g.translatedSteps lang).length = g.steps.length := List.length_map _
  unfold Group.toSection
  split
  · rename_i houtline
    exact ⟨hlength, htags, iff_of_true rfl (by simpa [Group.isOutline] using houtline),
      fun hplain => absurd hplain.symm Bool.false_ne_true⟩
  · rename_i hplain
    refine ⟨hlength, htags,
      iff_of_false Bool.false_ne_true (by simpa [Group.isOutline] using hplain), fun _ => ?_⟩
    have hfirst := List.head?_eq_some_head hsteps
    have hlast := List.getLast?_eq_some_getLast hsteps
    exact ⟨_, _, hfirst, hlast, title_eq hfirst hlast⟩

/-! ## The numbers of outlines -/

/-- **Outlines are numbered without gaps**, whatever stands between them. -/
theorem map_title_outlines (lang : Language) (n : Nat) (gs : List Group) :
    let outlines := (sectionsOf lang n gs).filter Section.outline
    outlines.map Section.title = (List.range' (n + 1) outlines.length).map fun number =>
      lang.words.exampleTitle ++ ' ' :: Text.ofNat number := by
  induction gs generalizing n with
  | nil => rfl
  | cons g gs ih =>
    dsimp only at ih ⊢
    rw [sectionsOf]
    split
    · exact ih n
    · cases houtline : g.isOutline with
      | false =>
        have hplain : (g.toSection lang n).outline = false := by simp [Group.toSection, houtline]
        rw [List.filter_cons_of_neg (by simp [hplain])]
        exact ih n
      | true =>
        have hsection : (g.toSection lang n).outline = true := by simp [Group.toSection, houtline]
        have htitle : (g.toSection lang n).title =
            lang.words.exampleTitle ++ ' ' :: Text.ofNat (n + 1) := by
          simp [Group.toSection, houtline]
        rw [List.filter_cons_of_pos hsection, List.map_cons, htitle, List.length_cons,
          List.range'_succ, List.map_cons]
        exact congrArg _ (ih (n + 1))

/-! ## The sections of a story -/

/-- **The groups of a story and the sections of its document.**  Each group that has steps has one
section, in the order of the groups, with as many steps and with the tags of the group; it is an
outline exactly when the group has lines of examples, and otherwise its title is made of the kind
and of the first and the last step.  The outlines are numbered from 1 on without gaps.  Groups
without steps leave no trace. -/
theorem forall₂_isOf_ofStory (s : Story) (n : Nat) :
    let shown := s.groups.filter fun g => g.steps != []
    let feature := Feature.ofStory s n
    let outlines := feature.sections.filter Section.outline
    List.Forall₂ (fun g r => r.IsOf g s.language) shown feature.sections ∧
      outlines.map Section.title = (List.range' 1 outlines.length).map (fun number =>
        s.language.words.exampleTitle ++ ' ' :: Text.ofNat number) ∧
      Feature.ofStory { s with groups := shown } n = feature := by
  intro shown feature outlines
  refine ⟨?_, map_title_outlines s.language 0 s.groups, ofStory_filter s n⟩
  have hsteps : ∀ g ∈ shown, g.steps ≠ [] := fun g hg => by
    simpa using (List.mem_filter.1 hg).2
  have hforall : List.Forall₂ (fun g r => r.IsOf g s.language) (shown.filter fun g => g.steps != [])
      (sectionsOf s.language 0 shown) :=
    forall₂_sectionsOf (fun g hg m => isOf_toSection (hsteps g hg) s.language m) 0
  have hshown : (shown.filter fun g => g.steps != []) = shown :=
    List.filter_eq_self.2 fun g hg => (List.mem_filter.1 hg).2
  rwa [hshown, sectionsOf_filter] at hforall

end StorySpec
