import Mathlib.Data.List.Basic
import Mathlib.Data.List.TakeWhile
import StorySpec.Text

/-!
# Texts that are split and joined

The pieces of a text that is split hold none of the characters that it is split at, and a text that
is joined from pieces holds nothing else than the pieces and what stands between them.  Where a text
is split at all characters but those of one kind, the pieces that are not empty are its runs of
characters of this kind.

## Main definitions

* `AreRuns kind t runs`: the runs of characters of a kind in the text `t`.

## Main results

* `takeWhile_dropWhile_eq_iff`: what a text is cut into at its first character of another kind.
* `not_sep_of_mem_splitOnP`: the pieces hold no separator.
* `areRuns_iff`: the runs are the pieces between the other characters.
* `Text.mem_joined`: where the characters of a joined text are from.
-/

namespace StorySpec

/-! ## Cutting -/

/-- A text that is cut at its first character of another kind is cut into characters of the kind and
a text that does not begin with one, and there is one such cut only. -/
theorem takeWhile_dropWhile_eq_iff {kind : Char → Bool} {t w rest : Text} :
    (t.takeWhile kind = w ∧ t.dropWhile kind = rest) ↔
      t = w ++ rest ∧ (∀ c ∈ w, kind c = true) ∧ ∀ c ∈ rest.head?, kind c = false := by
  constructor
  · rintro ⟨rfl, rfl⟩
    refine ⟨List.takeWhile_append_dropWhile.symm, fun c hc => List.mem_takeWhile_imp hc, ?_⟩
    intro c hc
    have hhead := List.head?_dropWhile_not kind t
    rw [Option.mem_def.1 hc] at hhead
    simpa using hhead
  · rintro ⟨rfl, hw, hrest⟩
    have hstop : rest.takeWhile kind = [] ∧ rest.dropWhile kind = rest := by
      cases rest with
      | nil => exact ⟨rfl, rfl⟩
      | cons c rest => simp [hrest c rfl]
    rw [List.takeWhile_append_of_pos hw, List.dropWhile_append_of_pos hw, hstop.1, hstop.2,
      List.append_nil]
    exact ⟨rfl, rfl⟩

/-! ## Splitting -/

/-- The pieces of a text hold none of the characters that it is split at. -/
theorem not_sep_of_mem_splitOnP {sep : Char → Bool} {t p : Text} (h : p ∈ t.splitOnP sep) :
    ∀ c ∈ p, sep c = false := by
  induction t generalizing p with
  | nil => simp_all
  | cons a t ih =>
    rw [List.splitOnP_cons_eq_if_modifyHead] at h
    split at h
    · rcases List.mem_cons.1 h with rfl | h
      · exact fun c hc => absurd hc List.not_mem_nil
      · exact ih h
    · rename_i ha
      cases hsplit : t.splitOnP sep with
      | nil => exact absurd hsplit (List.splitOnP_ne_nil _ _)
      | cons q qs =>
        rw [hsplit, List.modifyHead_cons] at h
        rcases List.mem_cons.1 h with rfl | h
        · have hq := ih (p := q) (by rw [hsplit]; exact List.mem_cons_self)
          intro c hc
          rcases List.mem_cons.1 hc with rfl | hc
          · simpa using ha
          · exact hq c hc
        · exact ih (by rw [hsplit]; exact List.mem_cons_of_mem q h)

theorem not_mem_of_mem_splitOn {a : Char} {t p : Text} (h : p ∈ t.splitOn a) : a ∉ p := by
  intro hmem
  simpa using not_sep_of_mem_splitOnP h a hmem

/-! ## Runs -/

/-- The runs of characters of a kind in a text, in order.  Each of them is as long as it can be:
what stands before it and what comes behind it are of no such kind. -/
inductive AreRuns (kind : Char → Bool) : Text → List Text → Prop
  | nil {gap : Text} (hgap : ∀ c ∈ gap, kind c = false) : AreRuns kind gap []
  | cons {gap run rest : Text} {runs : List Text} (hgap : ∀ c ∈ gap, kind c = false)
      (hne : run ≠ []) (hrun : ∀ c ∈ run, kind c = true) (hrest : ∀ c ∈ rest.head?, kind c = false)
      (next : AreRuns kind rest runs) : AreRuns kind (gap ++ (run ++ rest)) (run :: runs)

section Runs

variable {kind : Char → Bool} {t gap run rest : Text} {runs : List Text}

/-- A text that begins with a run. -/
theorem AreRuns.begin (hne : run ≠ []) (hrun : ∀ c ∈ run, kind c = true)
    (hrest : ∀ c ∈ rest.head?, kind c = false) (next : AreRuns kind rest runs) :
    AreRuns kind (run ++ rest) (run :: runs) := by
  have hgap : ∀ c ∈ ([] : Text), kind c = false := fun c hc => absurd hc List.not_mem_nil
  exact .cons hgap hne hrun hrest next

/-- A text has runs. -/
theorem exists_areRuns (kind : Char → Bool) (t : Text) : ∃ runs, AreRuns kind t runs := by
  induction t with
  | nil => exact ⟨[], .nil fun c hc => absurd hc List.not_mem_nil⟩
  | cons c t ih =>
    obtain ⟨runs, hruns⟩ := ih
    by_cases hc : kind c = true
    · have halone : ∀ d ∈ [c], kind d = true := by simpa using hc
      cases hruns with
      | nil hgap =>
        have hrest : ∀ d ∈ t.head?, kind d = false := fun d hd => hgap d (List.mem_of_mem_head? hd)
        exact ⟨[[c]], .begin (by simp) halone hrest (.nil hgap)⟩
      | @cons gap run rest runs hgap hne hrun hrest next =>
        cases gap with
        | nil =>
          have hlonger : ∀ d ∈ c :: run, kind d = true := List.forall_mem_cons.2 ⟨hc, hrun⟩
          exact ⟨(c :: run) :: runs, .begin (by simp) hlonger hrest next⟩
        | cons g gap =>
          have hhead : ∀ d ∈ (g :: gap ++ (run ++ rest)).head?, kind d = false := by
            simpa using hgap g List.mem_cons_self
          exact ⟨[c] :: run :: runs, .begin (by simp) halone hhead (.cons hgap hne hrun hrest next)⟩
    · have hc : kind c = false := by simpa using hc
      cases hruns with
      | nil hgap => exact ⟨[], .nil (List.forall_mem_cons.2 ⟨hc, hgap⟩)⟩
      | @cons gap run rest runs hgap hne hrun hrest next =>
        have hlonger : ∀ d ∈ c :: gap, kind d = false := List.forall_mem_cons.2 ⟨hc, hgap⟩
        exact ⟨run :: runs, .cons hlonger hne hrun hrest next⟩

/-- A run holds characters of its kind, one or more, and stands in the text. -/
theorem AreRuns.of_mem (h : AreRuns kind t runs) (hmem : run ∈ runs) :
    run ≠ [] ∧ (∀ c ∈ run, kind c = true) ∧ run <:+: t := by
  induction h with
  | nil hgap => cases hmem
  | @cons gap first rest runs hgap hne hrun hrest next ih =>
    rcases List.mem_cons.1 hmem with rfl | hmem
    · exact ⟨hne, hrun, gap, rest, List.append_assoc _ _ _⟩
    · obtain ⟨hne, hkind, hpiece⟩ := ih hmem
      refine ⟨hne, hkind, hpiece.trans ?_⟩
      exact ((List.suffix_append first rest).trans (List.suffix_append gap _)).isInfix

/-- Characters of another kind at the start of a text make no piece. -/
theorem filter_splitOnP_append (hgap : ∀ c ∈ gap, kind c = false) (t : Text) :
    ((gap ++ t).splitOnP fun c => !kind c).filter (· != []) =
      (t.splitOnP fun c => !kind c).filter (· != []) := by
  induction gap with
  | nil => rfl
  | cons c gap ih =>
    obtain ⟨hc, hgap⟩ := List.forall_mem_cons.1 hgap
    have hsep : (!kind c) = true := by simp [hc]
    rw [List.cons_append, List.splitOnP_cons_eq_if_modifyHead, if_pos hsep, ← ih hgap]
    rfl

/-- A run is a piece. -/
theorem filter_splitOnP_run (hne : run ≠ []) (hrun : ∀ c ∈ run, kind c = true)
    (hrest : ∀ c ∈ rest.head?, kind c = false) :
    ((run ++ rest).splitOnP fun c => !kind c).filter (· != []) =
      run :: (rest.splitOnP fun c => !kind c).filter (· != []) := by
  have hpiece : run.splitOnP (fun c => !kind c) = [run] :=
    List.splitOnP_eq_singleton fun c hc => by simp [hrun c hc]
  cases rest with
  | nil => simp [hpiece, hne]
  | cons c rest =>
    have hsep : (!kind c) = true := by simp [hrest c rfl]
    rw [List.splitOnP_append_cons run rest hsep, hpiece, List.splitOnP_cons_eq_if_modifyHead,
      if_pos hsep, List.singleton_append, List.filter_cons_of_pos (by simpa using hne)]
    rfl

theorem AreRuns.eq_filter (h : AreRuns kind t runs) :
    runs = (t.splitOnP fun c => !kind c).filter (· != []) := by
  induction h with
  | @nil gap hgap =>
    have hgaps := filter_splitOnP_append hgap []
    rw [List.append_nil] at hgaps
    rw [hgaps]
    rfl
  | cons hgap hne hrun hrest next ih =>
    rw [filter_splitOnP_append hgap, filter_splitOnP_run hne hrun hrest, ← ih]

/-- **The runs of a text** are the pieces between the characters of another kind, the empty pieces
left out. -/
theorem areRuns_iff :
    AreRuns kind t runs ↔ runs = (t.splitOnP fun c => !kind c).filter (· != []) := by
  constructor
  · exact AreRuns.eq_filter
  · rintro rfl
    obtain ⟨runs, hruns⟩ := exists_areRuns kind t
    exact hruns.eq_filter ▸ hruns

end Runs

/-! ## Joining -/

namespace Text

theorem joined_concat (sep : Text) (ps : List Text) (q : Text) :
    joined sep (ps ++ [q]) = ps.flatMap (· ++ sep) ++ q := by
  induction ps with
  | nil => simp
  | cons p ps ih =>
    cases ps with
    | nil => simp
    | cons r ps => simpa using ih

/-- A character of a joined text is from what stands between the pieces or from a piece. -/
theorem mem_joined {sep : Text} {ps : List Text} {c : Char} (h : c ∈ joined sep ps) :
    c ∈ sep ∨ ∃ p ∈ ps, c ∈ p := by
  rcases List.eq_nil_or_concat' ps with rfl | ⟨front, q, rfl⟩
  · exact absurd h List.not_mem_nil
  · rw [joined_concat, List.mem_append, List.mem_flatMap] at h
    rcases h with ⟨p, hp, hc⟩ | hc
    · rcases List.mem_append.1 hc with hc | hc
      · exact Or.inr ⟨p, List.mem_append_left _ hp, hc⟩
      · exact Or.inl hc
    · exact Or.inr ⟨q, List.mem_append_right _ List.mem_cons_self, hc⟩

end Text

end StorySpec
