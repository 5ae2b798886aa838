import Mathlib.Data.List.Basic
import StorySpec.Gherkin.Parser
import StorySpec.Proofs.Text.Split

/-!
# What parsers do at one position

The rules by which parsers are run by hand.  A parser that is composed of others is run by running
these; a repetition is run one time after the other, for as long as each of them takes something.

## Main results

* `many_cons`, `many_of_none`: one more time, and the end of a repetition.
* `sepBy_cons`, `sepBy_of_none`: the same for a repetition with something in between.
* `length_rest_repeatFrom_le`: repetitions give no text back.
-/

namespace StorySpec.Gherkin.Parser

variable {α β σ : Type} {p q : Parser α} {a : α} {t r : Text}

/-! ## Sequences and choices -/

theorem bind_apply (p : Parser α) (f : α → Parser β) (t : Text) :
    (p >>= f) t = (p t).bind fun x => f x.1 x.2 := rfl

theorem pure_apply (a : α) (t : Text) : (pure a : Parser α) t = some (a, t) := rfl

theorem map_apply (f : α → β) (p : Parser α) (t : Text) :
    (f <$> p) t = (p t).map fun x => (f x.1, x.2) := by
  change (p t).bind _ = _
  cases p t <;> rfl

theorem orElse_of_some (h : p t = some (a, r)) : (p <|> q) t = some (a, r) := by
  change (p t <|> q t) = _
  rw [h]
  rfl

theorem orElse_of_none (h : p t = none) : (p <|> q) t = q t := by
  change (p t <|> q t) = _
  rw [h]
  rfl

theorem optional_of_some (h : p t = some (a, r)) : optional p t = some (some a, r) :=
  orElse_of_some (by rw [map_apply, h]; rfl)

theorem optional_of_none (h : p t = none) : optional p t = some (none, t) :=
  orElse_of_none (by rw [map_apply, h]; rfl)

theorem notAhead_of_none (h : p t = none) : notAhead p t = some ((), t) := by
  simp [notAhead, h]

theorem notAhead_of_some (h : p t = some (a, r)) : notAhead p t = none := by
  simp [notAhead, h]

/-! ## Words -/

@[simp] theorem word_append (w t : Text) : word w (w ++ t) = some ((), t) := by
  simp [word]

@[simp] theorem word_singleton_cons (c : Char) (t : Text) : word [c] (c :: t) = some ((), t) :=
  word_append [c] t

theorem word_of_not_isPrefix {w : Text} (h : ¬ w <+: t) : word w t = none := by
  have hnone : w.isPrefixOf? t = none := by
    cases hrest : w.isPrefixOf? t with
    | none => rfl
    | some rest => exact absurd ⟨rest, List.append_eq_of_isPrefixOf?_eq_some hrest⟩ h
  simp [word, hnone]

theorem word_singleton_eq_none {c : Char} (h : t.head? ≠ some c) : word [c] t = none := by
  refine word_of_not_isPrefix ?_
  rintro ⟨u, rfl⟩
  exact h rfl

/-- A run takes the characters of a kind, up to the first one of another kind. -/
theorem run_append {kind : Char → Bool} {w : Text} (hw : ∀ c ∈ w, kind c = true)
    (ht : ∀ c ∈ t.head?, kind c = false) : run kind (w ++ t) = some (w, t) := by
  obtain ⟨htake, hdrop⟩ := takeWhile_dropWhile_eq_iff.2 ⟨rfl, hw, ht⟩
  rw [run, htake, hdrop]

/-! ## Repetitions -/

theorem repeatFrom_of_none {p : σ → Parser (α × σ)} {s : σ} (h : p s t = none) :
    repeatFrom p s t = ([], t) := by
  rw [repeatFrom, h]

theorem repeatFrom_cons {p : σ → Parser (α × σ)} {s s' : σ} (h : p s t = some ((a, s'), r))
    (hlt : r.length < t.length) :
    repeatFrom p s t = (a :: (repeatFrom p s' r).1, (repeatFrom p s' r).2) := by
  rw [repeatFrom, h]
  simp [hlt]

/-- Repetitions give no text back. -/
theorem length_rest_repeatFrom_le (p : σ → Parser (α × σ)) (s : σ) (t : Text) :
    (repeatFrom p s t).2.length ≤ t.length := by
  fun_induction repeatFrom p s t with
  | case1 s t h => exact Nat.le_refl _
  | case2 s t a s' rest h hlt others ih => exact Nat.le_trans ih (Nat.le_of_lt hlt)
  | case3 s t a s' rest h hlt => exact Nat.le_refl _

theorem many_of_none (h : p t = none) : many p t = some ([], t) := by
  have hone : ((fun a => (a, ())) <$> p : Parser (α × Unit)) t = none := by rw [map_apply, h]; rfl
  exact congrArg some (repeatFrom_of_none (p := fun _ => (fun a => (a, ())) <$> p) hone)

theorem many_cons (h : p t = some (a, r)) (hlt : r.length < t.length) :
    many p t = (many p r).map fun x => (a :: x.1, x.2) := by
  have hone : ((fun a => (a, ())) <$> p : Parser (α × Unit)) t = some ((a, ()), r) := by
    rw [map_apply, h]; rfl
  exact congrArg some (repeatFrom_cons (p := fun _ => (fun a => (a, ())) <$> p) hone hlt)

theorem skipMany_of_none (h : p t = none) : skipMany p t = some ((), t) := by
  rw [skipMany, map_apply, many_of_none h]
  rfl

theorem skipMany_cons (h : p t = some (a, r)) (hlt : r.length < t.length) :
    skipMany p t = skipMany p r := by
  rw [skipMany, map_apply, map_apply, many_cons h hlt, Option.map_map]
  rfl

theorem sepBy_of_none {sep : Parser β} (h : p t = none) : sepBy p sep t = some ([], t) := by
  refine orElse_of_none ?_
  rw [bind_apply, h]
  rfl

theorem sepBy_cons {sep : Parser β} (h : p t = some (a, r)) :
    sepBy p sep t = (many (do let _ ← sep; p) r).map fun x => (a :: x.1, x.2) := by
  obtain ⟨found, rest, hmany⟩ : ∃ found rest, many (do let _ ← sep; p) r = some (found, rest) :=
    ⟨_, _, rfl⟩
  rw [hmany]
  refine orElse_of_some ?_
  rw [bind_apply, h, Option.bind_some, bind_apply, hmany]
  rfl

/-- Where there is nothing in between, both repetitions are the same. -/
theorem sepBy_eq_many {sep : Parser β} {b : β} (hsep : sep t = some (b, t))
    (hlt : ∀ a r, p t = some (a, r) → r.length < t.length) :
    sepBy p sep t = many (do let _ ← sep; p) t := by
  have hstep : (do let _ ← sep; p : Parser α) t = p t := by rw [bind_apply, hsep]; rfl
  cases h : p t with
  | none => rw [sepBy_of_none h, many_of_none (hstep.trans h)]
  | some x => rw [sepBy_cons h, many_cons (hstep.trans h) (hlt _ _ h)]

end StorySpec.Gherkin.Parser
