import StorySpec.Proofs.Pattern.Alike
import StorySpec.Proofs.Text.Trim

/-!
# Values of literal parameters

A quoted text may be replaced by another one, and a numeral by another one of its shape: whatever
stands around it, all other tokens stay as they are.  From before, any two quoted texts look alike,
and so do any two numerals; and what follows is read as it was, since a quoted text ends with its
quote and a numeral of the same shape ends for the same reason.

Blanks at the end of a text look as if they were not there, so that a step has the same parameters
before and after it is trimmed.

## Main definitions

* `IsReplacement m v w`: the value `w` may stand for the value `v` of a literal parameter.
* `withValue front p back w`: a text in which `w` stands for the value of the parameter `p`.

## Main results

* `looksAlike_source`: the values of literal parameters look alike.
* `tokenize_replacement`: another value for a literal parameter changes no other token.
* `exists_tokenize_trim`: trimming a text keeps its parameters.
-/

namespace StorySpec

variable {t rest u v w : Text} {m : Matcher} {p : Param} {front back tail : List Token}

/-! ## Other values -/

/-- A value that may be written in the place of another one in a literal parameter: any quoted text
for a quoted text, and any numeral of the same shape for a numeral. -/
inductive IsReplacement : Matcher → Text → Text → Prop
  | quotedLiteral (v : Text) {w : Text} (ne_nil : w ≠ []) (quote : '"' ∉ w) (opening : '<' ∉ w)
      (closing : '>' ∉ w) : IsReplacement .quotedLiteral v w
  | whole {v w : Text} (old : IsWhole v) (new : IsWhole w) : IsReplacement .number v w
  | fraction {v w : Text} (old : IsFraction v) (new : IsFraction w) : IsReplacement .number v w

theorem IsWhole.not_isFraction (h : IsWhole v) : ¬ IsFraction v := by
  rintro ⟨whole, digits, rfl, -⟩
  exact absurd (h.digits '.' (by simp)) (by decide)

theorem IsReplacement.isPlaceholder_eq_false (h : IsReplacement m v w) :
    m.isPlaceholder = false := by
  cases h <;> rfl

/-- The other value is taken where the first one was. -/
theorem IsReplacement.takes (h : IsReplacement m v w) (htakes : m.Takes v rest) :
    m.Takes w rest := by
  cases h with
  | quotedLiteral _ hne hquote hopen hclose =>
    refine ⟨hne, fun c hc => Bool.eq_false_iff.2 fun hend => ?_⟩
    rcases Matcher.isLiteralEnd_iff.1 hend with rfl | rfl | rfl
    · exact hquote hc
    · exact hopen hc
    · exact hclose hc
  | whole hv hw =>
    exact ⟨htakes.1, htakes.2.imp (fun hfraction => absurd hfraction hv.not_isFraction)
      fun hwhole => ⟨hw, hwhole.2⟩⟩
  | fraction hv hw => exact ⟨htakes.1, Or.inl hw⟩

/-- At a digit, no matcher matches but the one for numerals. -/
theorem Matcher.opens_eq_false_of_isAsciiDigit {c : Char} (h : isAsciiDigit c = true)
    (hm : m ≠ .number) : m.opens c = false := by
  have hquote : c ≠ '"' := fun hc => by rw [hc] at h; cases h
  have hopen : c ≠ '<' := fun hc => by rw [hc] at h; cases h
  cases m with
  | quotedPlaceholder => simpa [opens] using hquote
  | barePlaceholder => simpa [opens] using hopen
  | quotedLiteral => simpa [opens] using hquote
  | number => exact absurd rfl hm

/-- At a literal parameter, no matcher matches but its own. -/
theorem Matcher.isSome_read?_source (hm : m.isPlaceholder = false) (htakes : m.Takes v rest)
    (m' : Matcher) : (m'.read? (m.source v ++ rest)).isSome = decide (m' = m) := by
  by_cases heq : m' = m
  · have hread : m.read? (m.source v ++ rest) = some ⟨v, rest⟩ :=
      read?_eq_some_iff.2 ⟨rfl, htakes⟩
    rw [heq, hread]
    simp
  · have hnone : m'.read? (m.source v ++ rest) = none := by
      cases m with
      | quotedPlaceholder => cases hm
      | barePlaceholder => cases hm
      | quotedLiteral =>
        cases m' with
        | quotedPlaceholder =>
          -- the bracket would stand in the quoted text
          refine Option.not_isSome_iff_eq_none.1 fun hsome => ?_
          obtain ⟨u, hu, -⟩ := isSome_readQuoted?_iff.1 hsome
          obtain ⟨c, value, rfl⟩ := List.exists_cons_of_ne_nil htakes.1
          obtain rfl : c = '<' := (List.cons.inj hu).1
          exact Bool.noConfusion (htakes.2 '<' List.mem_cons_self)
        | barePlaceholder => exact read?_eq_none_of_opens (by simp [source, opens])
        | quotedLiteral => exact absurd rfl heq
        | number => exact read?_eq_none_of_opens (by simp [source, opens]; decide)
      | number =>
        obtain ⟨c, hc, hdigit⟩ := exists_opens_of_takes htakes
        refine read?_eq_none_of_opens fun d hd => ?_
        obtain rfl : c = d := Option.some.inj (hc.symm.trans hd)
        exact opens_eq_false_of_isAsciiDigit hdigit heq
    rw [hnone]
    simp [heq]

/-- A quoted text begins with a quote, and a numeral does not. -/
theorem Matcher.head?_source_eq_quote_iff (hm : m.isPlaceholder = false)
    (htakes : m.Takes v rest) : (m.source v ++ rest).head? = some '"' ↔ m = .quotedLiteral := by
  cases m with
  | quotedPlaceholder => cases hm
  | barePlaceholder => cases hm
  | quotedLiteral => exact iff_of_true rfl rfl
  | number => exact iff_of_false (head?_source_ne htakes (by decide)) (by decide)

/-- A numeral holds no quote and no bracket. -/
theorem isLiteralEnd_eq_false_of_takes (htakes : Matcher.number.Takes v rest) :
    ∀ c ∈ v, Matcher.isLiteralEnd c = false := by
  intro c hc
  have hdigits := eq_point_or_isAsciiDigit (htakes.2.symm.imp_left And.left)
  refine Bool.eq_false_iff.2 fun hend => ?_
  rcases Matcher.isLiteralEnd_iff.1 hend with rfl | rfl | rfl <;>
    exact absurd (hdigits _ hc) (by decide)

/-- The first quote or bracket is the quote that opens a quoted text, and none of a numeral. -/
theorem find?_source_append (hm : m.isPlaceholder = false) (htakes : m.Takes v rest) :
    (m.source v ++ rest).find? Matcher.isLiteralEnd =
      if m = .quotedLiteral then some '"' else rest.find? Matcher.isLiteralEnd := by
  cases m with
  | quotedPlaceholder => cases hm
  | barePlaceholder => cases hm
  | quotedLiteral => rfl
  | number =>
    have hnone : v.find? Matcher.isLiteralEnd = none :=
      List.find?_eq_none.2 fun c hc => by simp [isLiteralEnd_eq_false_of_takes htakes c hc]
    rw [if_neg (by decide), Matcher.source, List.find?_append, hnone, Option.none_or]

theorem dropWhile_source_append (hm : m.isPlaceholder = false) (htakes : m.Takes v rest) :
    (m.source v ++ rest).dropWhile (· != '>') = rest.dropWhile (· != '>') := by
  refine List.dropWhile_append_of_pos fun c hc => bne_iff_ne.2 fun heq => ?_
  exact (Matcher.not_mem_source htakes hm).2 (heq ▸ hc)

/-- **The values of literal parameters** look alike. -/
theorem looksAlike_source (hm : m.isPlaceholder = false) (hv : m.Takes v rest)
    (hw : m.Takes w rest) : LooksAlike (m.source v ++ rest) (m.source w ++ rest) where
  read m' := by rw [Matcher.isSome_read?_source hm hv, Matcher.isSome_read?_source hm hw]
  quote := (Matcher.head?_source_eq_quote_iff hm hv).trans
    (Matcher.head?_source_eq_quote_iff hm hw).symm
  plain c hc := by
    have hopens : m.opens c = false := by
      cases m with
      | quotedPlaceholder => cases hm
      | barePlaceholder => cases hm
      | quotedLiteral => rcases hc with rfl | rfl | rfl <;> decide
      | number => rcases hc with rfl | rfl | rfl <;> decide
    exact ⟨Matcher.head?_source_ne hv hopens, Matcher.head?_source_ne hw hopens⟩
  literalEnd := by rw [find?_source_append hm hv, find?_source_append hm hw]
  bracket := by rw [dropWhile_source_append hm hv, dropWhile_source_append hm hw]

/-- The text in which another value stands for that of a parameter: the tokens before the parameter
as they are written, the value in the form of the parameter, and the tokens behind it. -/
def withValue (front : List Token) (p : Param) (back : List Token) (w : Text) : Text :=
  front.flatMap Token.source ++ (p.matcher.source w ++ back.flatMap Token.source)

/-- A text has its own values. -/
theorem withValue_raw (ht : tokenize t = front ++ .param p :: back) :
    withValue front p back p.raw = t := by
  rw [← source_tokenize t, ht, List.flatMap_append, List.flatMap_cons]
  rfl

/-- **Another value** for a literal parameter changes no other token. -/
theorem tokenize_replacement (ht : tokenize t = front ++ .param p :: back)
    (hw : IsReplacement p.matcher p.raw w) :
    tokenize (withValue front p back w) = front ++ .param { p with raw := w } :: back := by
  have htiling : IsTiling (front ++ .param p :: back) := ht ▸ isTiling_tokenize t
  obtain ⟨-, hfits, hback⟩ := isTiling_cons_iff.1 htiling.of_append
  obtain ⟨⟨before, after, hsplit, hnone⟩, htakes, htype⟩ := Token.fits_param_iff.1 hfits
  -- what stands before cannot tell the two values apart
  have halike : Alike (p.matcher.source p.raw ++ back.flatMap Token.source)
      (p.matcher.source w ++ back.flatMap Token.source) :=
    (looksAlike_source hw.isPlaceholder_eq_false htakes (hw.takes htakes)).alike
  have hfits' : (Token.param { p with raw := w }).Fits (back.flatMap Token.source) := by
    refine Token.fits_param_iff.2 ⟨⟨before, after, hsplit, fun m hm => ?_⟩, hw.takes htakes, htype⟩
    exact (halike.read?_eq_none_iff [] m).1 (hnone m hm)
  exact tokenize_congr_param ht hfits' hback halike

/-! ## Trimmed texts -/

theorem not_isBlank_of_isAsciiDigit {c : Char} (h : isAsciiDigit c = true) :
    isBlank c = false := by
  have h : 0x30 ≤ c.toNat ∧ c.toNat < 0x3A := by
    simpa [isAsciiDigit, Char.isDigit, UInt32.le_iff_toNat_le, Nat.lt_succ_iff] using h
  simp only [isBlank, Bool.or_eq_false_iff, Bool.and_eq_false_iff, beq_eq_false_iff_ne,
    decide_eq_false_iff_not]
  omega

/-- No parameter begins with a blank. -/
theorem Matcher.opens_eq_false_of_isBlank {c : Char} (h : isBlank c = true) (m : Matcher) :
    m.opens c = false := by
  have hquote : c ≠ '"' := fun hc => by rw [hc] at h; cases h
  have hopen : c ≠ '<' := fun hc => by rw [hc] at h; cases h
  have hdigit : isAsciiDigit c = false := by
    by_contra hc
    rw [not_isBlank_of_isAsciiDigit (by simpa using hc)] at h
    cases h
  cases m <;> simp [opens, hquote, hopen, hdigit]

/-- Blanks at the end look as if nothing were there. -/
theorem looksAlike_nil (h : ∀ c ∈ t, isBlank c = true) : LooksAlike t [] where
  read m := by
    have hnone : m.read? t = none := Matcher.read?_eq_none_of_opens fun c hc =>
      Matcher.opens_eq_false_of_isBlank (h c (List.mem_of_mem_head? hc)) m
    rw [hnone, Matcher.read?_eq_none_of_opens (by simp)]
  quote := by
    refine iff_of_false (fun hc => ?_) (by simp)
    exact absurd (h _ (List.mem_of_mem_head? hc)) (by decide)
  plain c hc := by
    have hplain : isBlank c = false := by rcases hc with rfl | rfl | rfl <;> decide
    refine ⟨fun hhead => ?_, by simp⟩
    rw [h c (List.mem_of_mem_head? hhead)] at hplain
    cases hplain
  literalEnd := by
    refine List.find?_eq_none.2 fun c hc hend => ?_
    rcases Matcher.isLiteralEnd_iff.1 hend with rfl | rfl | rfl <;>
      exact absurd (h _ hc) (by decide)
  bracket := by
    refine List.dropWhile_eq_nil_iff.2 fun c hc => bne_iff_ne.2 ?_
    rintro rfl
    exact absurd (h _ hc) (by decide)

theorem tokenize_cons_of_isBlank {c : Char} (hc : isBlank c = true) (t : Text) :
    tokenize (c :: t) = consChar c (tokenize t) := by
  refine tokenize_cons_of_none (firstParam?_eq_none_iff.2 fun m => ?_)
  exact Matcher.read?_eq_none_of_opens (by simpa using Matcher.opens_eq_false_of_isBlank hc m)

/-- The parameters of some tokens are still there without a literal character at the beginning. -/
theorem exists_of_consChar_eq {c : Char} (h : consChar c tail = front ++ .param p :: back) :
    ∃ front' : List Token, tail = front' ++ .param p :: back ∧
      front.flatMap Token.source = c :: front'.flatMap Token.source := by
  cases front with
  | nil =>
    cases tail with
    | nil => cases h
    | cons token tail => cases token <;> cases h
  | cons first front =>
    cases tail with
    | nil => simp [consChar] at h
    | cons token tail =>
      cases token with
      | literal text =>
        obtain ⟨rfl, rfl⟩ := List.cons.inj h
        exact ⟨.literal text :: front, rfl, rfl⟩
      | param q =>
        obtain ⟨rfl, htail⟩ := List.cons.inj h
        exact ⟨front, htail, rfl⟩

theorem exists_tokenize_of_blanks (h : ∀ c ∈ u, isBlank c = true)
    (ht : tokenize (u ++ t) = front ++ .param p :: back) :
    ∃ front' : List Token, tokenize t = front' ++ .param p :: back ∧
      front.flatMap Token.source = u ++ front'.flatMap Token.source := by
  induction u generalizing front with
  | nil => exact ⟨front, ht, rfl⟩
  | cons c u ih =>
    rw [List.cons_append, tokenize_cons_of_isBlank (h c List.mem_cons_self)] at ht
    obtain ⟨front', hfront', hsource⟩ := exists_of_consChar_eq ht
    obtain ⟨front'', hfront'', hsource'⟩ :=
      ih (fun d hd => h d (List.mem_cons_of_mem c hd)) hfront'
    exact ⟨front'', hfront'', by rw [hsource, hsource']; rfl⟩

/-- A parameter neither begins nor ends with a blank. -/
theorem trim_source (htakes : m.Takes v rest) : Text.trim (m.source v) = m.source v := by
  cases m with
  | quotedPlaceholder =>
    exact Text.trim_append (s := ['"', '<']) (u := ['>', '"']) v (by decide) (by decide)
      (by decide) (by decide)
  | barePlaceholder =>
    exact Text.trim_append (s := ['<']) (u := ['>']) v (by decide) (by decide) (by decide)
      (by decide)
  | quotedLiteral =>
    exact Text.trim_append (s := ['"']) (u := ['"']) v (by decide) (by decide) (by decide)
      (by decide)
  | number =>
    have hblank : ∀ c ∈ v, isBlank c = false := by
      intro c hc
      rcases eq_point_or_isAsciiDigit (htakes.2.symm.imp_left And.left) c hc with rfl | hdigit
      · decide
      · exact not_isBlank_of_isAsciiDigit hdigit
    refine Text.trim_eq_self_iff.2 ⟨fun c hc => ?_, fun c hc => ?_⟩
    · exact hblank c (List.mem_of_mem_head? hc)
    · exact hblank c (List.mem_of_getLast? hc)

/-- Around a parameter, a text is trimmed at the start of what stands before it and at the end of
what stands behind it. -/
theorem trim_eq_of_tokenize (ht : tokenize t = front ++ .param p :: back) :
    Text.trim t = Text.trimStart (front.flatMap Token.source) ++
      (p.matcher.source p.raw ++ Text.trimEnd (back.flatMap Token.source)) := by
  have htiling : IsTiling (front ++ .param p :: back) := ht ▸ isTiling_tokenize t
  have hfits := (isTiling_cons_iff.1 htiling.of_append).2.1
  have hne : p.matcher.source p.raw ≠ [] :=
    List.ne_nil_of_length_pos (p.matcher.length_source_pos (firstParam?_eq_some hfits).2)
  rw [← withValue_raw ht]
  exact Text.trim_around (trim_source (Token.fits_param_iff.1 hfits).2.1) hne _ _

/-- **Trimming a text** keeps its parameters; the text before one loses the blanks at its start and
the text behind it those at its end. -/
theorem exists_tokenize_trim (ht : tokenize t = front ++ .param p :: back) :
    ∃ front' back' : List Token, tokenize (Text.trim t) = front' ++ .param p :: back' ∧
      front'.flatMap Token.source = Text.trimStart (front.flatMap Token.source) ∧
      back'.flatMap Token.source = Text.trimEnd (back.flatMap Token.source) := by
  let before := front.flatMap Token.source
  let behind := back.flatMap Token.source
  have htiling : IsTiling (front ++ .param p :: back) := ht ▸ isTiling_tokenize t
  have hfits := (isTiling_cons_iff.1 htiling.of_append).2.1
  -- at the end: the parameter cannot tell the trimmed text behind it from the whole one
  obtain ⟨blanks, hblanks, hblank⟩ := Text.exists_trimEnd_append behind
  have halike : Alike behind (Text.trimEnd behind) := by
    have h := (looksAlike_nil hblank).alike.append (Text.trimEnd behind)
    rwa [← hblanks, List.append_nil] at h
  have hfits' : (Token.param p).Fits ((tokenize (Text.trimEnd behind)).flatMap Token.source) := by
    rw [source_tokenize]
    exact hfits.congr halike
  have hend : tokenize (before ++ (p.matcher.source p.raw ++ Text.trimEnd behind)) =
      front ++ .param p :: tokenize (Text.trimEnd behind) := by
    have h := tokenize_congr_param ht hfits' (isTiling_tokenize _)
    rw [source_tokenize] at h
    exact h (halike.append _)
  have hsplit : before = before.takeWhile isBlank ++ Text.trimStart before :=
    List.takeWhile_append_dropWhile.symm
  rw [hsplit, List.append_assoc, ← trim_eq_of_tokenize ht] at hend
  obtain ⟨front', hfront', hsource⟩ :=
    exists_tokenize_of_blanks (fun c hc => List.mem_takeWhile_imp hc) hend
  have hbefore : front'.flatMap Token.source = Text.trimStart before :=
    List.append_cancel_left (hsource.symm.trans hsplit)
  exact ⟨front', tokenize (Text.trimEnd behind), hfront', hbefore, source_tokenize _⟩

/-- Trimming a text with another value is trimming the text. -/
theorem exists_trim_withValue (ht : tokenize t = front ++ .param p :: back)
    (hw : IsReplacement p.matcher p.raw w) :
    ∃ front' back' : List Token, tokenize (Text.trim t) = front' ++ .param p :: back' ∧
      Text.trim (withValue front p back w) = withValue front' p back' w := by
  obtain ⟨front', back', htokens, hbefore, hbehind⟩ := exists_tokenize_trim ht
  refine ⟨front', back', htokens, (trim_eq_of_tokenize (tokenize_replacement ht hw)).trans ?_⟩
  rw [withValue, hbefore, hbehind]

end StorySpec
