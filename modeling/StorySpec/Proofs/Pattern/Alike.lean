import StorySpec.Proofs.Pattern.Matcher
import StorySpec.Proofs.Pattern.Scan

/-!
# Texts that read alike from before

A matcher may look far ahead: a quote asks for the next quote or bracket, wherever that is.  So what
stands behind a place may decide how the text before it is read.  Two texts are alike when nothing
that stands before them can tell them apart; then one may be put in the place of the other without
a change to the tokens before it.

## Main definitions

* `Alike r r'`: what stands before `r` is read as it is read before `r'`.
* `LooksAlike r r'`: what little of `r` and `r'` can be seen from before them is the same.

## Main results

* `LooksAlike.alike`: texts that look alike are alike.
* `Token.fits_param_iff`: where a parameter is found.
* `IsTiling.congr_param`, `tokenize_congr_param`: the tokens before a place are kept.
-/

namespace StorySpec

variable {t rest r r' v : Text} {m : Matcher} {p q : Param} {token : Token}
  {front back back' tail : List Token}

/-! ## Texts that look alike -/

/-- Two texts that nothing before them can tell apart: whatever stands there, a matcher matches
before the one exactly when it matches before the other. -/
structure Alike (r r' : Text) : Prop where
  read : ∀ (front : Text) (m : Matcher),
    (m.read? (front ++ r)).isSome = (m.read? (front ++ r')).isSome
  /-- A numeral could go on into the one as into the other. -/
  fraction : ∀ front : Text, BeginsWithFraction (front ++ r) ↔ BeginsWithFraction (front ++ r')

/-- What can be seen of two texts from before them is the same. -/
structure LooksAlike (r r' : Text) : Prop where
  /-- The same matchers match at the beginning. -/
  read : ∀ m : Matcher, (m.read? r).isSome = (m.read? r').isSome
  quote : r.head? = some '"' ↔ r'.head? = some '"'
  /-- Neither begins with a bracket or a point. -/
  plain : ∀ c, c = '<' ∨ c = '>' ∨ c = '.' → r.head? ≠ some c ∧ r'.head? ≠ some c
  /-- The first quote or bracket is the same. -/
  literalEnd : r.find? Matcher.isLiteralEnd = r'.find? Matcher.isLiteralEnd
  /-- From the first closing bracket on they are the same. -/
  bracket : r.dropWhile (· != '>') = r'.dropWhile (· != '>')

namespace LooksAlike

variable (h : LooksAlike r r')
include h

theorem beginsWithDigit_iff : BeginsWithDigit r ↔ BeginsWithDigit r' :=
  Matcher.beginsWithDigit_congr (h.read .number)

/-- A quote or a closing bracket comes first in both or in none. -/
theorem head?_append_iff {c : Char} (hc : c = '"' ∨ c = '>') (front : Text) :
    (front ++ r).head? = some c ↔ (front ++ r').head? = some c := by
  cases front with
  | nil =>
    rcases hc with rfl | rfl
    · exact h.quote
    · exact iff_of_false (h.plain '>' (by simp)).1 (h.plain '>' (by simp)).2
  | cons d front => exact Iff.rfl

theorem mem_append_close_iff (front : Text) : '>' ∈ front ++ r ↔ '>' ∈ front ++ r' := by
  have hmem : ∀ t : Text, '>' ∈ t ↔ t.dropWhile (· != '>') ≠ [] := fun t => by
    simp [List.dropWhile_eq_nil_iff]
  rw [List.mem_append, List.mem_append, hmem r, hmem r', h.bracket]

theorem find?_append_eq (front : Text) :
    (front ++ r).find? Matcher.isLiteralEnd = (front ++ r').find? Matcher.isLiteralEnd := by
  rw [List.find?_append, List.find?_append, h.literalEnd]

/-- The character behind the first closing bracket is a quote in both or in none. -/
theorem quote_dropWhile_append_iff (front : Text) :
    ['>', '"'] <+: (front ++ r).dropWhile (· != '>') ↔
      ['>', '"'] <+: (front ++ r').dropWhile (· != '>') := by
  rw [List.dropWhile_append, List.dropWhile_append, h.bracket]
  cases hfront : front.dropWhile (· != '>') with
  | nil => exact Iff.rfl
  | cons c front =>
    have hquote := h.head?_append_iff (Or.inl rfl) front
    simp only [List.head?_eq_some_iff] at hquote
    simp [List.cons_prefix_iff, hquote]

/-- The same placeholders in quotes are read behind a quote and something more. -/
theorem isSome_readQuoted?_append_iff (front : Text) :
    (Matcher.readQuoted? ('"' :: (front ++ r))).isSome = true ↔
      (Matcher.readQuoted? ('"' :: (front ++ r'))).isSome = true := by
  rw [Matcher.isSome_readQuoted?_iff, Matcher.isSome_readQuoted?_iff]
  cases front with
  | nil =>
    have hopen := h.plain '<' (by simp)
    refine iff_of_false ?_ ?_
    · rintro ⟨u, hu, -⟩
      exact hopen.1 (congrArg List.head? hu)
    · rintro ⟨u, hu, -⟩
      exact hopen.2 (congrArg List.head? hu)
  | cons d front =>
    have hinside := and_congr (h.head?_append_iff (Or.inr rfl) front).not
      (h.quote_dropWhile_append_iff front)
    constructor
    · rintro ⟨u, hu, hread⟩
      cases hu
      exact ⟨_, rfl, hinside.1 hread⟩
    · rintro ⟨u, hu, hread⟩
      cases hu
      exact ⟨_, rfl, hinside.2 hread⟩

/-- The same matchers match at a character before them. -/
theorem isSome_read?_cons_append_iff (m : Matcher) (c : Char) (front : Text) :
    (m.read? (c :: (front ++ r))).isSome = true ↔ (m.read? (c :: (front ++ r'))).isSome = true := by
  by_cases hopens : m.opens c = true
  · cases m with
    | quotedPlaceholder =>
      obtain rfl : c = '"' := by simpa [Matcher.opens] using hopens
      exact h.isSome_readQuoted?_append_iff front
    | barePlaceholder =>
      obtain rfl : c = '<' := by simpa [Matcher.opens] using hopens
      exact Matcher.isSome_readBare?_iff.trans
        ((and_congr (h.mem_append_close_iff front)
          (h.head?_append_iff (Or.inr rfl) front).not).trans Matcher.isSome_readBare?_iff.symm)
    | quotedLiteral =>
      obtain rfl : c = '"' := by simpa [Matcher.opens] using hopens
      refine Matcher.isSome_readLiteral?_iff.trans (Iff.trans ?_
        Matcher.isSome_readLiteral?_iff.symm)
      rw [h.find?_append_eq front]
      exact and_congr_right' (h.head?_append_iff (Or.inl rfl) front).not
    | number =>
      have hdigit : BeginsWithDigit (c :: (front ++ r)) ↔ BeginsWithDigit (c :: (front ++ r')) :=
        Iff.rfl
      exact Matcher.isSome_readNumber?_iff.trans (hdigit.trans Matcher.isSome_readNumber?_iff.symm)
  · have hnone : ∀ t : Text, m.read? (c :: t) = none := fun t =>
      Matcher.read?_eq_none_of_opens (by simpa using hopens)
    rw [hnone, hnone]

theorem beginsWithFraction_append_iff (front : Text) :
    BeginsWithFraction (front ++ r) ↔ BeginsWithFraction (front ++ r') := by
  cases front with
  | nil =>
    have hpoint := h.plain '.' (by simp)
    refine iff_of_false ?_ ?_
    · rintro ⟨u, hu, -⟩
      exact hpoint.1 (congrArg List.head? hu)
    · rintro ⟨u, hu, -⟩
      exact hpoint.2 (congrArg List.head? hu)
  | cons c front =>
    have hdigit : BeginsWithDigit (front ++ r) ↔ BeginsWithDigit (front ++ r') := by
      cases front with
      | nil => exact h.beginsWithDigit_iff
      | cons d front => exact Iff.rfl
    simp [BeginsWithFraction, hdigit]

/-- **From before a text** no more of it can be seen than this. -/
theorem alike : Alike r r' where
  read front m := by
    cases front with
    | nil => exact h.read m
    | cons c front => exact Bool.eq_iff_iff.2 (h.isSome_read?_cons_append_iff m c front)
  fraction := h.beginsWithFraction_append_iff

end LooksAlike

namespace Alike

variable (h : Alike r r')
include h

/-- More text before them makes no difference. -/
theorem append (front : Text) : Alike (front ++ r) (front ++ r') := by
  refine ⟨fun before m => ?_, fun before => ?_⟩
  · rw [← List.append_assoc, ← List.append_assoc]
    exact h.read _ m
  · rw [← List.append_assoc, ← List.append_assoc]
    exact h.fraction _

theorem read?_eq_none_iff (front : Text) (m : Matcher) :
    m.read? (front ++ r) = none ↔ m.read? (front ++ r') = none := by
  rw [← Option.not_isSome_iff_eq_none, h.read front m, Option.not_isSome_iff_eq_none]

theorem beginsWithDigit_iff : BeginsWithDigit r ↔ BeginsWithDigit r' :=
  Matcher.beginsWithDigit_congr (h.read [] .number)

/-- A matcher takes the same before them. -/
theorem takes (htakes : m.Takes v r) : m.Takes v r' := by
  cases m with
  | quotedPlaceholder => exact htakes
  | barePlaceholder => exact htakes
  | quotedLiteral => exact htakes
  | number =>
    have hend : ¬ BeginsWithDigit r' := fun hdigit => htakes.1 (h.beginsWithDigit_iff.2 hdigit)
    refine ⟨hend, htakes.2.imp_right fun hv => ⟨hv.1, fun hfraction => ?_⟩⟩
    exact hv.2 ((h.fraction []).2 hfraction)

end Alike

/-! ## Tokens before a place -/

/-- A parameter is found where no earlier matcher matches and its own takes its value. -/
theorem Token.fits_param_iff :
    (Token.param p).Fits rest ↔
      (∃ before after, Matcher.precedence = before ++ p.matcher :: after ∧
        ∀ m ∈ before, m.read? (p.matcher.source p.raw ++ rest) = none) ∧
      p.matcher.Takes p.raw rest ∧ p.type = p.matcher.candidateType := by
  constructor
  · intro h
    obtain ⟨hfirst, -⟩ := firstParam?_eq_some_iff.1 h
    exact ⟨hfirst.first, (takes_of_firstParam? h).2, hfirst.type⟩
  · rintro ⟨hfirst, htakes, htype⟩
    refine firstParam?_eq_some_iff.2 ⟨⟨hfirst, ⟨⟨p.raw, rest⟩, ?_, rfl, ?_⟩, htype⟩, rfl⟩
    · exact Matcher.read?_eq_some_iff.2 ⟨rfl, htakes⟩
    · rw [Text.width_append, Nat.add_sub_cancel]

/-- What fits before a text fits before one that is like it. -/
theorem Token.Fits.congr (h : Alike r r') (hfits : token.Fits r) : token.Fits r' := by
  cases token with
  | literal text =>
    refine ⟨hfits.1, fun c v hv => firstParam?_eq_none_iff.2 fun m => ?_⟩
    exact (h.read?_eq_none_iff (c :: v) m).1 (firstParam?_eq_none_iff.1 (hfits.2 c v hv) m)
  | param p =>
    obtain ⟨⟨before, after, hsplit, hnone⟩, htakes, htype⟩ := Token.fits_param_iff.1 hfits
    refine Token.fits_param_iff.2 ⟨⟨before, after, hsplit, fun m hm => ?_⟩, h.takes htakes, htype⟩
    exact (h.read?_eq_none_iff _ m).1 (hnone m hm)

/-- **The tokens before a parameter** are kept when it and what follows are replaced by something
that is like them. -/
theorem IsTiling.congr_param (h : IsTiling (front ++ .param p :: back))
    (h' : IsTiling (.param q :: back'))
    (halike : Alike (p.matcher.source p.raw ++ back.flatMap Token.source)
      (q.matcher.source q.raw ++ back'.flatMap Token.source)) :
    IsTiling (front ++ .param q :: back') := by
  -- each token before the parameter has the old and the new rest behind it, which are alike
  induction front with
  | nil => exact h'
  | cons token front ih =>
    rw [List.cons_append] at h ⊢
    obtain ⟨hapart, hfits, hrest⟩ := isTiling_cons_iff.1 h
    refine isTiling_cons_iff.2 ⟨?_, ?_, ih hrest⟩
    · cases front with
      | nil => simp [Token.Apart, Token.isLiteral]
      | cons next front => exact hapart
    · rw [List.flatMap_append] at hfits ⊢
      exact hfits.congr (halike.append _)

theorem IsTiling.of_append (h : IsTiling (front ++ tail)) : IsTiling tail := by
  induction front with
  | nil => exact h
  | cons token front ih => exact ih (isTiling_cons_iff.1 h).2.2

/-- The same, said of the text. -/
theorem tokenize_congr_param (ht : tokenize t = front ++ .param p :: back)
    (h' : (Token.param q).Fits (back'.flatMap Token.source)) (hback : IsTiling back')
    (halike : Alike (p.matcher.source p.raw ++ back.flatMap Token.source)
      (q.matcher.source q.raw ++ back'.flatMap Token.source)) :
    tokenize (front.flatMap Token.source ++
        (q.matcher.source q.raw ++ back'.flatMap Token.source)) = front ++ .param q :: back' := by
  have htail : IsTiling (.param q :: back') :=
    isTiling_cons_iff.2 ⟨by simp [Token.Apart, Token.isLiteral], h', hback⟩
  have htiling : IsTiling (front ++ .param p :: back) := ht ▸ isTiling_tokenize t
  have htokens := tokenize_of_isTiling (htiling.congr_param htail halike)
  rwa [List.flatMap_append] at htokens

end StorySpec
