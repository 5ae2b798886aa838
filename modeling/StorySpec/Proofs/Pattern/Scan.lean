import Mathlib.Data.List.Chain
import Mathlib.Data.List.Infix
import StorySpec.Pattern.Token

/-!
# Tokens as a scan

What the tokens of a text are can be said without saying how they are found.  Written one after the
other they are the text; where a parameter stands, the first matcher that matches takes exactly
that parameter, and within a literal text no matcher matches anywhere.  Only one list of tokens is
like this.

## Main definitions

* `Text.fromWidth? n t`: what is left of the text `t` after its first `n` bytes.
* `Param.IsFirst p t`: the parameter `p` is what the first matcher takes from the beginning of `t`.
* `IsScan t tokens`: the list `tokens` is a scan of the text `t`.

## Main results

* `firstParam?_eq_some_iff`, `firstParam?_eq_none_iff`: when a parameter is read, and when none is.
* `isScan_iff_eq_tokenize`: the tokens of a text are its only scan.
-/

namespace StorySpec

variable {t rest : Text} {p : Param} {token : Token} {tokens : List Token}

/-! ## Places in a text -/

namespace Text

/-- What is left of a text after its first `n` bytes; `none` when it is shorter, or when a character
stands across that place. -/
def fromWidth? (n : Nat) (t : Text) : Option Text :=
  (splitAtWidth? n t).map Prod.snd

theorem fromWidth?_width_append (front rest : Text) :
    fromWidth? (width front) (front ++ rest) = some rest := by
  have hcut : splitAtWidth? (width front) (front ++ rest) = some (front, rest) :=
    splitAtWidth?_eq_some_iff.2 ⟨rfl, rfl⟩
  rw [fromWidth?, hcut]
  rfl

end Text

/-- The number of bytes that tokens take. -/
def offset (tokens : List Token) : Nat :=
  Text.width (tokens.flatMap Token.source)

theorem fromWidth?_offset (front back : List Token) :
    Text.fromWidth? (offset front) ((front ++ back).flatMap Token.source) =
      some (back.flatMap Token.source) := by
  rw [List.flatMap_append]
  exact Text.fromWidth?_width_append _ _

/-- The same behind a part of a literal text. -/
theorem fromWidth?_offset_literal (front back : List Token) (u v : Text) :
    Text.fromWidth? (offset front + Text.width u)
        ((front ++ .literal (u ++ v) :: back).flatMap Token.source) =
      some (v ++ back.flatMap Token.source) := by
  have htext : (front ++ .literal (u ++ v) :: back).flatMap Token.source =
      (front.flatMap Token.source ++ u) ++ (v ++ back.flatMap Token.source) := by
    simp [Token.source]
  rw [offset, ← Text.width_append, htext]
  exact Text.fromWidth?_width_append _ _

/-! ## The matcher that is first -/

/-- The parameter `p` is what the first matcher that matches at the beginning of `t` takes there. -/
structure Param.IsFirst (p : Param) (t : Text) : Prop where
  /-- No matcher that is tried earlier matches. -/
  first : ∃ before after, Matcher.precedence = before ++ p.matcher :: after ∧
    ∀ m ∈ before, m.read? t = none
  /-- Its own matcher reads its value, and takes as many bytes as it is written with. -/
  read : ∃ found, p.matcher.read? t = some found ∧ found.raw = p.raw ∧
    t.width - found.rest.width = (p.matcher.source p.raw).width
  type : p.type = p.matcher.candidateType

/-- **A parameter is read** exactly when it is the one of the first matcher that matches. -/
theorem firstParam?_eq_some_iff :
    firstParam? t = some (p, rest) ↔ p.IsFirst t ∧ t = p.matcher.source p.raw ++ rest := by
  constructor
  · intro h
    have ht := (firstParam?_eq_some h).1
    obtain ⟨before, m, after, hsplit, hm, hbefore⟩ := List.findSome?_eq_some_iff.1 h
    obtain ⟨found, hfound, hpair⟩ := Option.map_eq_some_iff.1 hm
    cases hpair
    refine ⟨⟨⟨before, after, hsplit, fun m' hm' => ?_⟩, ⟨found, hfound, rfl, ?_⟩, rfl⟩, ht⟩
    · exact Option.map_eq_none_iff.1 (hbefore m' hm')
    · have hwidth := congrArg Text.width ht
      rw [Text.width_append] at hwidth
      omega
  · rintro ⟨⟨⟨before, after, hsplit, hbefore⟩, ⟨found, hfound, hraw, -⟩, htype⟩, ht⟩
    refine List.findSome?_eq_some_iff.2 ⟨before, p.matcher, after, hsplit, ?_, fun m hm => ?_⟩
    · have hfollows := (Matcher.read?_eq_some hfound).1
      rw [hraw, ht] at hfollows
      rw [hfound, Option.map_some, hraw, ← htype, ← List.append_cancel_left hfollows]
    · rw [hbefore m hm]
      rfl

theorem Matcher.mem_precedence (m : Matcher) : m ∈ precedence := by
  cases m <;> decide

/-- **No parameter is read** exactly when no matcher matches. -/
theorem firstParam?_eq_none_iff : firstParam? t = none ↔ ∀ m : Matcher, m.read? t = none := by
  rw [firstParam?, List.findSome?_eq_none_iff]
  constructor
  · intro h m
    exact Option.map_eq_none_iff.1 (h m m.mem_precedence)
  · intro h m _
    rw [h m]
    rfl

/-! ## Scans -/

/-- Whether a token is literal text. -/
def Token.isLiteral : Token → Bool
  | .literal _ => true
  | .param _ => false

/-- Two tokens that may be neighbours: not both are literal texts. -/
def Token.Apart (a b : Token) : Prop :=
  ¬ (a.isLiteral = true ∧ b.isLiteral = true)

/-- Tokens that make up a text, each parameter read where it stands and literal text only where
there is nothing to read. -/
structure IsScan (t : Text) (tokens : List Token) : Prop where
  /-- Nothing is lost, added or moved. -/
  source : tokens.flatMap Token.source = t
  literal_ne_nil : ∀ text, .literal text ∈ tokens → text ≠ []
  raw_ne_nil : ∀ p, .param p ∈ tokens → p.raw ≠ []
  apart : tokens.IsChain Token.Apart
  /-- Behind the bytes of the tokens before it, a parameter is what the first matcher takes. -/
  param : ∀ front p back, tokens = front ++ .param p :: back →
    ∃ left, Text.fromWidth? (offset front) t = some left ∧ p.IsFirst left
  /-- At no character of a literal text does any matcher match. -/
  literal : ∀ front text back, tokens = front ++ .literal text :: back →
    ∀ u c v, text = u ++ c :: v →
      ∃ left, Text.fromWidth? (offset front + Text.width u) t = some left ∧
        ∀ m : Matcher, m.read? left = none

/-- A token that is found as it is where `rest` follows it. -/
def Token.Fits : Token → Text → Prop
  | .literal text, rest =>
    text ≠ [] ∧ ∀ c v, c :: v <:+ text → firstParam? (c :: v ++ rest) = none
  | .param p, rest => firstParam? (p.matcher.source p.raw ++ rest) = some (p, rest)

/-- Tokens that fit one after the other. -/
structure IsTiling (tokens : List Token) : Prop where
  apart : tokens.IsChain Token.Apart
  fits : ∀ token back, token :: back <:+ tokens → token.Fits (back.flatMap Token.source)

theorem isTiling_nil : IsTiling [] :=
  ⟨List.isChain_nil, fun _ _ h => by simp at h⟩

theorem isTiling_cons_iff :
    IsTiling (token :: tokens) ↔
      (∀ next ∈ tokens.head?, token.Apart next) ∧ token.Fits (tokens.flatMap Token.source) ∧
        IsTiling tokens := by
  constructor
  · rintro ⟨hapart, hfits⟩
    obtain ⟨hhead, htail⟩ := List.isChain_cons.1 hapart
    refine ⟨hhead, hfits token tokens List.suffix_rfl, htail, fun next back h => ?_⟩
    exact hfits next back (List.suffix_cons_iff.2 (Or.inr h))
  · rintro ⟨hhead, hfits, hrest⟩
    refine ⟨List.isChain_cons.2 ⟨hhead, hrest.apart⟩, fun next back h => ?_⟩
    rcases List.suffix_cons_iff.1 h with heq | h
    · cases heq
      exact hfits
    · exact hrest.fits next back h

/-- A scan is a tiling of its text: what a place has left are the tokens from there on. -/
theorem isScan_iff_isTiling :
    IsScan t tokens ↔ tokens.flatMap Token.source = t ∧ IsTiling tokens := by
  constructor
  · rintro ⟨rfl, hliteral, hraw, hapart, hparam, hnone⟩
    refine ⟨rfl, hapart, ?_⟩
    rintro token back ⟨front, rfl⟩
    cases token with
    | literal text =>
      refine ⟨hliteral text (by simp), ?_⟩
      rintro c v ⟨u, rfl⟩
      obtain ⟨left, hleft, hread⟩ := hnone front _ back rfl u c v rfl
      rw [fromWidth?_offset_literal] at hleft
      cases hleft
      exact firstParam?_eq_none_iff.2 hread
    | param p =>
      obtain ⟨left, hleft, hfirst⟩ := hparam front p back rfl
      rw [fromWidth?_offset] at hleft
      cases hleft
      exact firstParam?_eq_some_iff.2 ⟨hfirst, rfl⟩
  · rintro ⟨rfl, hapart, hfits⟩
    have hmem : ∀ token ∈ tokens, ∃ back : List Token, token.Fits (back.flatMap Token.source) := by
      intro token htoken
      obtain ⟨front, back, rfl⟩ := List.append_of_mem htoken
      exact ⟨back, hfits token back ⟨front, rfl⟩⟩
    refine ⟨rfl, fun text h => ?_, fun p h => ?_, hapart, ?_, ?_⟩
    · obtain ⟨back, hne, -⟩ := hmem _ h
      exact hne
    · obtain ⟨back, hread⟩ := hmem _ h
      exact (firstParam?_eq_some hread).2
    · rintro front p back rfl
      have hread : (Token.param p).Fits (back.flatMap Token.source) := hfits _ back ⟨front, rfl⟩
      exact ⟨_, fromWidth?_offset front _, (firstParam?_eq_some_iff.1 hread).1⟩
    · rintro front text back rfl u c v rfl
      obtain ⟨-, hread⟩ := hfits _ back ⟨front, rfl⟩
      exact ⟨_, fromWidth?_offset_literal front back u (c :: v),
        firstParam?_eq_none_iff.1 (hread c v ⟨u, rfl⟩)⟩

/-! ## The tokens of a text are a scan -/

/-- A character before which nothing is read joins the literal text after it. -/
theorem isTiling_consChar {c : Char} (h : IsTiling tokens)
    (hnone : firstParam? (c :: tokens.flatMap Token.source) = none) :
    IsTiling (consChar c tokens) := by
  have hsingle : ∀ v d, d :: v <:+ [c] → d :: v = [c] := by
    intro v d hv
    exact hv.eq_of_length_le (by simp)
  cases tokens with
  | nil =>
    refine isTiling_cons_iff.2 ⟨by simp, ⟨by simp, fun d v hv => ?_⟩, isTiling_nil⟩
    rw [hsingle v d hv]
    exact hnone
  | cons token tokens =>
    cases token with
    | literal text =>
      obtain ⟨hapart, ⟨-, hfits⟩, hrest⟩ := isTiling_cons_iff.1 h
      refine isTiling_cons_iff.2 ⟨hapart, ⟨by simp, fun d v hv => ?_⟩, hrest⟩
      rcases List.suffix_cons_iff.1 hv with heq | hv
      · cases heq
        exact hnone
      · exact hfits d v hv
    | param p =>
      refine isTiling_cons_iff.2 ⟨?_, ⟨by simp, fun d v hv => ?_⟩, h⟩
      · simp [Token.Apart, Token.isLiteral]
      · rw [hsingle v d hv]
        exact hnone

theorem isTiling_tokenize (t : Text) : IsTiling (tokenize t) := by
  fun_induction tokenize t with
  | case1 => exact isTiling_nil
  | case2 c t p rest h ih =>
    refine isTiling_cons_iff.2 ⟨by simp [Token.Apart, Token.isLiteral], ?_, ih⟩
    change firstParam? _ = _
    rw [source_tokenize, ← (firstParam?_eq_some h).1, h]
  | case3 c t h ih =>
    refine isTiling_consChar ih ?_
    rw [source_tokenize, h]

/-! ## There is no other scan -/

theorem tokenize_of_firstParam? (h : firstParam? t = some (p, rest)) :
    tokenize t = .param p :: tokenize rest := by
  cases t with
  | nil => cases h
  | cons c t =>
    rw [tokenize]
    split
    · rename_i q rest' hread
      rw [h] at hread
      cases hread
      rfl
    · rename_i hnone
      rw [h] at hnone
      cases hnone

theorem tokenize_cons_of_none {c : Char} (h : firstParam? (c :: t) = none) :
    tokenize (c :: t) = consChar c (tokenize t) := by
  rw [tokenize]
  split
  · rename_i hread
    rw [h] at hread
    cases hread
  · rfl

/-- Literal text is found whole where what follows it begins with a parameter or ends. -/
theorem tokenize_literal_append {text : Text}
    (hfits : (Token.literal text).Fits (tokens.flatMap Token.source))
    (hapart : ∀ next ∈ tokens.head?, (Token.literal text).Apart next)
    (htokens : tokenize (tokens.flatMap Token.source) = tokens) :
    tokenize (text ++ tokens.flatMap Token.source) = .literal text :: tokens := by
  obtain ⟨hne, hnone⟩ := hfits
  induction text with
  | nil => exact absurd rfl hne
  | cons c text ih =>
    refine (tokenize_cons_of_none (hnone c text List.suffix_rfl)).trans ?_
    cases text with
    | nil =>
      -- a literal text behind it would take the character in
      change consChar c (tokenize (tokens.flatMap Token.source)) = _
      rw [htokens]
      cases tokens with
      | nil => rfl
      | cons next tokens =>
        cases next with
        | literal text => exact absurd ⟨rfl, rfl⟩ (hapart (.literal text) rfl)
        | param p => rfl
    | cons d text =>
      change consChar c (tokenize (d :: text ++ tokens.flatMap Token.source)) = _
      rw [ih hapart (by simp) fun d' v hv => hnone d' v (List.suffix_cons_iff.2 (Or.inr hv))]
      rfl

theorem tokenize_of_isTiling (h : IsTiling tokens) :
    tokenize (tokens.flatMap Token.source) = tokens := by
  -- on the tokens and not on the text, which is cut where a token ends
  induction tokens with
  | nil => exact tokenize_nil
  | cons token tokens ih =>
    obtain ⟨hapart, hfits, hrest⟩ := isTiling_cons_iff.1 h
    rw [List.flatMap_cons]
    cases token with
    | literal text => exact tokenize_literal_append hfits hapart (ih hrest)
    | param p => rw [show (Token.param p).source = p.matcher.source p.raw from rfl,
        tokenize_of_firstParam? hfits, ih hrest]

/-- **The tokens of a text** are its only scan. -/
theorem isScan_iff_eq_tokenize : IsScan t tokens ↔ tokens = tokenize t := by
  rw [isScan_iff_isTiling]
  constructor
  · rintro ⟨rfl, htiling⟩
    exact (tokenize_of_isTiling htiling).symm
  · rintro rfl
    exact ⟨source_tokenize t, isTiling_tokenize t⟩

end StorySpec
