import StorySpec.Pattern.Token
import StorySpec.Proofs.Text.Split

/-!
# What a matcher takes

A matcher takes a parameter from the beginning of a text exactly when the written form of the
parameter stands there and its value is one that the matcher takes.  Only for a numeral does it
matter what follows: as many digits are taken as there are.

## Main definitions

* `IsWhole v`, `IsFraction v`: the two shapes of a numeral.
* `Matcher.Takes m raw rest`: a value that the matcher `m` takes where `rest` follows it.
* `Matcher.opens m c`: whether a parameter of the form `m` can begin with `c`.

## Main results

* `read?_eq_some_iff`: what a matcher takes.
* `isSome_readBare?_iff`, `isSome_readLiteral?_iff`, `isSome_readQuoted?_iff`,
  `isSome_readNumber?_iff`: where it takes anything.
-/

namespace StorySpec

variable {t u v : Text} {found : Match}

/-! ## Numerals -/

/-- Digits, one or more. -/
structure IsWhole (v : Text) : Prop where
  ne_nil : v ≠ []
  digits : ∀ c ∈ v, isAsciiDigit c = true

theorem isWhole_iff : IsWhole v ↔ v ≠ [] ∧ v.all isAsciiDigit = true := by
  rw [List.all_eq_true]
  exact ⟨fun h => ⟨h.ne_nil, h.digits⟩, fun h => ⟨h.1, h.2⟩⟩

instance (v : Text) : Decidable (IsWhole v) :=
  decidable_of_iff _ isWhole_iff.symm

/-- Digits, a point and digits. -/
def IsFraction (v : Text) : Prop :=
  ∃ whole digits, v = whole ++ '.' :: digits ∧ IsWhole whole ∧ IsWhole digits

/-- The first character of a text is a digit. -/
def BeginsWithDigit (t : Text) : Prop :=
  ∃ c ∈ t.head?, isAsciiDigit c = true

/-- A text begins with a point and a digit. -/
def BeginsWithFraction (t : Text) : Prop :=
  ∃ u, t = '.' :: u ∧ BeginsWithDigit u

theorem not_beginsWithDigit_iff :
    ¬ BeginsWithDigit t ↔ ∀ c ∈ t.head?, isAsciiDigit c = false := by
  simp [BeginsWithDigit]

theorem IsWhole.beginsWithDigit_append (h : IsWhole v) (t : Text) : BeginsWithDigit (v ++ t) := by
  obtain ⟨c, v, rfl⟩ := List.exists_cons_of_ne_nil h.ne_nil
  exact ⟨c, rfl, h.digits c List.mem_cons_self⟩

theorem IsFraction.beginsWithDigit_append (h : IsFraction v) (t : Text) :
    BeginsWithDigit (v ++ t) := by
  obtain ⟨whole, digits, rfl, hwhole, -⟩ := h
  rw [List.append_assoc]
  exact hwhole.beginsWithDigit_append _

/-- A numeral holds digits and a point at most. -/
theorem eq_point_or_isAsciiDigit (h : IsWhole v ∨ IsFraction v) :
    ∀ c ∈ v, c = '.' ∨ isAsciiDigit c = true := by
  intro c hc
  rcases h with h | ⟨whole, digits, rfl, hwhole, hdigits⟩
  · exact Or.inr (h.digits c hc)
  · rcases List.mem_append.1 hc with hc | hc
    · exact Or.inr (hwhole.digits c hc)
    · rcases List.mem_cons.1 hc with rfl | hc
      · exact Or.inl rfl
      · exact Or.inr (hdigits.digits c hc)

/-- A text is cut into its first digits and what follows them in one way only. -/
theorem takeWhile_isAsciiDigit_eq_iff :
    (t.takeWhile isAsciiDigit = u ∧ t.dropWhile isAsciiDigit = v) ↔
      t = u ++ v ∧ (∀ c ∈ u, isAsciiDigit c = true) ∧ ¬ BeginsWithDigit v := by
  rw [not_beginsWithDigit_iff]
  exact takeWhile_dropWhile_eq_iff

namespace Matcher

theorem readFraction?_eq_some_iff :
    readFraction? t = some found ↔
      t = '.' :: (found.raw ++ found.rest) ∧ IsWhole found.raw ∧ ¬ BeginsWithDigit found.rest := by
  constructor
  · intro h
    obtain ⟨ht, hne⟩ := readFraction?_eq_some h
    unfold readFraction? at h
    split at h
    · split at h
      · cases h
      · cases h
        obtain ⟨-, hdigits, hrest⟩ := takeWhile_isAsciiDigit_eq_iff.1 ⟨rfl, rfl⟩
        exact ⟨ht, ⟨hne, hdigits⟩, hrest⟩
    · cases h
  · rintro ⟨rfl, hraw, hrest⟩
    obtain ⟨htake, hdrop⟩ := takeWhile_isAsciiDigit_eq_iff.2 ⟨rfl, hraw.digits, hrest⟩
    simp [readFraction?, htake, hdrop, hraw.ne_nil]

theorem readFraction?_eq_none_iff : readFraction? t = none ↔ ¬ BeginsWithFraction t := by
  constructor
  · rintro h ⟨u, rfl, c, hc, hdigit⟩
    cases u with
    | nil => cases hc
    | cons d u =>
      obtain rfl : d = c := by simpa using hc
      simp [readFraction?, hdigit] at h
  · intro h
    cases hread : readFraction? t with
    | none => rfl
    | some found =>
      obtain ⟨rfl, hraw, -⟩ := readFraction?_eq_some_iff.1 hread
      exact absurd ⟨_, rfl, hraw.beginsWithDigit_append _⟩ h

/-! ## Values -/

/-- The characters that end a quoted text. -/
theorem isLiteralEnd_iff {c : Char} : isLiteralEnd c = true ↔ c = '"' ∨ c = '<' ∨ c = '>' := by
  simp [isLiteralEnd, or_assoc]

/-- A value that a matcher takes where `rest` follows its written form.  The name of a placeholder
ends at the first closing bracket, a quoted text holds no quote and no bracket, and a numeral
cannot be made longer by what follows. -/
def Takes : Matcher → Text → Text → Prop
  | .quotedPlaceholder, raw, _ => raw ≠ [] ∧ '>' ∉ raw
  | .barePlaceholder, raw, _ => raw ≠ [] ∧ '>' ∉ raw
  | .quotedLiteral, raw, _ => raw ≠ [] ∧ ∀ c ∈ raw, isLiteralEnd c = false
  | .number, raw, rest =>
    ¬ BeginsWithDigit rest ∧ (IsFraction raw ∨ IsWhole raw ∧ ¬ BeginsWithFraction rest)

/-- A name goes up to the first closing bracket. -/
theorem takeWhile_bracket_eq_iff {w rest : Text} :
    (t.takeWhile (· != '>') = w ∧ t.dropWhile (· != '>') = '>' :: rest) ↔
      t = w ++ '>' :: rest ∧ '>' ∉ w := by
  rw [takeWhile_dropWhile_eq_iff]
  simp only [bne_iff_ne, List.head?_cons, Option.mem_some_iff, forall_eq', bne_self_eq_false,
    and_true]
  exact and_congr_right fun _ => ⟨fun h hmem => h '>' hmem rfl, fun h c hc heq => h (heq ▸ hc)⟩

/-- A quoted text goes up to the first quote, when no bracket comes before. -/
theorem takeWhile_literalEnd_eq {w rest : Text}
    (h : t = w ++ '"' :: rest ∧ ∀ c ∈ w, isLiteralEnd c = false) :
    t.takeWhile (!isLiteralEnd ·) = w ∧ t.dropWhile (!isLiteralEnd ·) = '"' :: rest :=
  takeWhile_dropWhile_eq_iff.2 ⟨h.1, fun c hc => by simp [h.2 c hc], by simp [isLiteralEnd]⟩

theorem readBare?_eq_some_iff :
    readBare? t = some found ↔
      t = source .barePlaceholder found.raw ++ found.rest ∧ found.raw ≠ [] ∧ '>' ∉ found.raw := by
  constructor
  · intro h
    obtain ⟨ht, hne⟩ := readBare?_eq_some h
    refine ⟨ht, hne, ?_⟩
    subst ht
    unfold readBare? at h
    split at h
    · split at h
      · rename_i htake _
        cases h
        rw [← htake]
        intro hmem
        simpa using List.mem_takeWhile_imp hmem
      · cases h
    · cases h
  · obtain ⟨raw, rest⟩ := found
    rintro ⟨rfl, hne, hclose⟩
    obtain ⟨htake, hdrop⟩ := takeWhile_bracket_eq_iff.2 ⟨(rfl : raw ++ '>' :: rest = _), hclose⟩
    obtain ⟨c, name, rfl⟩ := List.exists_cons_of_ne_nil hne
    have hsource : source .barePlaceholder (c :: name) ++ rest =
        '<' :: (c :: name ++ '>' :: rest) := by simp [source]
    rw [hsource, readBare?, htake, hdrop]

theorem readQuoted?_eq_some_iff :
    readQuoted? t = some found ↔
      t = source .quotedPlaceholder found.raw ++ found.rest ∧ found.raw ≠ [] ∧
        '>' ∉ found.raw := by
  constructor
  · intro h
    obtain ⟨ht, hne⟩ := readQuoted?_eq_some h
    refine ⟨ht, hne, ?_⟩
    unfold readQuoted? at h
    split at h
    · split at h
      · rename_i hbare
        cases h
        exact (readBare?_eq_some_iff.1 hbare).2.2
      · cases h
    · cases h
  · rintro ⟨rfl, hne, hclose⟩
    have hbare : readBare? (source .barePlaceholder found.raw ++ '"' :: found.rest) =
        some ⟨found.raw, '"' :: found.rest⟩ := readBare?_eq_some_iff.2 ⟨rfl, hne, hclose⟩
    have hsource : source .quotedPlaceholder found.raw ++ found.rest =
        '"' :: (source .barePlaceholder found.raw ++ '"' :: found.rest) := by simp [source]
    rw [hsource, readQuoted?, hbare]
    rfl

theorem readLiteral?_eq_some_iff :
    readLiteral? t = some found ↔
      t = source .quotedLiteral found.raw ++ found.rest ∧ found.raw ≠ [] ∧
        ∀ c ∈ found.raw, isLiteralEnd c = false := by
  constructor
  · intro h
    obtain ⟨ht, hne⟩ := readLiteral?_eq_some h
    refine ⟨ht, hne, fun c hc => ?_⟩
    unfold readLiteral? at h
    split at h
    · split at h
      · rename_i htake _
        cases h
        rw [← htake] at hc
        simpa using List.mem_takeWhile_imp hc
      · cases h
    · cases h
  · obtain ⟨raw, rest⟩ := found
    rintro ⟨rfl, hne, hend⟩
    obtain ⟨htake, hdrop⟩ := takeWhile_literalEnd_eq ⟨(rfl : raw ++ '"' :: rest = _), hend⟩
    obtain ⟨c, value, rfl⟩ := List.exists_cons_of_ne_nil hne
    have hsource : source .quotedLiteral (c :: value) ++ rest =
        '"' :: (c :: value ++ '"' :: rest) := by simp [source]
    rw [hsource, readLiteral?, htake, hdrop]
    rfl

theorem readNumber?_eq_some_iff :
    readNumber? t = some found ↔
      t = found.raw ++ found.rest ∧ ¬ BeginsWithDigit found.rest ∧
        (IsFraction found.raw ∨ IsWhole found.raw ∧ ¬ BeginsWithFraction found.rest) := by
  constructor
  · intro h
    refine ⟨(readNumber?_eq_some h).1, ?_⟩
    obtain ⟨-, hdigits, hrest⟩ := takeWhile_isAsciiDigit_eq_iff.1
      (⟨rfl, rfl⟩ : t.takeWhile isAsciiDigit = _ ∧ t.dropWhile isAsciiDigit = _)
    simp only [readNumber?] at h
    split at h
    · cases h
    · rename_i hwhole
      split at h
      · rename_i hfraction
        obtain ⟨-, hdigits', hrest'⟩ := readFraction?_eq_some_iff.1 hfraction
        cases h
        exact ⟨hrest', Or.inl ⟨_, _, rfl, ⟨hwhole, hdigits⟩, hdigits'⟩⟩
      · rename_i hnone
        cases h
        exact ⟨hrest, Or.inr ⟨⟨hwhole, hdigits⟩, readFraction?_eq_none_iff.1 hnone⟩⟩
  · obtain ⟨raw, rest⟩ := found
    rintro ⟨rfl, hrest, ⟨whole, digits, rfl, hwhole, hdigits⟩ | ⟨hwhole, hnone⟩⟩
    · have hpoint : ¬ BeginsWithDigit ('.' :: (digits ++ rest)) := by
        rintro ⟨c, hc, hdigit⟩
        obtain rfl : '.' = c := by simpa using hc
        exact absurd hdigit (by decide)
      obtain ⟨htake, hdrop⟩ := takeWhile_isAsciiDigit_eq_iff.2 ⟨rfl, hwhole.digits, hpoint⟩
      have hfraction : readFraction? ('.' :: (digits ++ rest)) = some ⟨digits, rest⟩ :=
        readFraction?_eq_some_iff.2 ⟨rfl, hdigits, hrest⟩
      simp only [readNumber?, List.append_assoc, List.cons_append, htake, hdrop, hfraction,
        hwhole.ne_nil, if_false]
    · obtain ⟨htake, hdrop⟩ := takeWhile_isAsciiDigit_eq_iff.2 ⟨rfl, hwhole.digits, hrest⟩
      simp only [readNumber?, htake, hdrop, readFraction?_eq_none_iff.2 hnone, hwhole.ne_nil,
        if_false]

/-- **What a matcher takes**: the written form of a value that it takes stands at the beginning of
the text, and the rest follows. -/
theorem read?_eq_some_iff {m : Matcher} :
    m.read? t = some found ↔
      t = m.source found.raw ++ found.rest ∧ m.Takes found.raw found.rest := by
  cases m with
  | quotedPlaceholder => exact readQuoted?_eq_some_iff
  | barePlaceholder => exact readBare?_eq_some_iff
  | quotedLiteral => exact readLiteral?_eq_some_iff
  | number => exact readNumber?_eq_some_iff

/-! ## Beginnings -/

variable {m : Matcher} {rest : Text}

/-- Whether a parameter of the given form can begin with a character. -/
def opens : Matcher → Char → Bool
  | .quotedPlaceholder, c => c == '"'
  | .barePlaceholder, c => c == '<'
  | .quotedLiteral, c => c == '"'
  | .number, c => isAsciiDigit c

theorem exists_opens_of_takes (h : m.Takes v rest) :
    ∃ c ∈ (m.source v ++ rest).head?, m.opens c = true := by
  cases m with
  | quotedPlaceholder => exact ⟨'"', rfl, rfl⟩
  | barePlaceholder => exact ⟨'<', rfl, rfl⟩
  | quotedLiteral => exact ⟨'"', rfl, rfl⟩
  | number => exact h.2.elim (·.beginsWithDigit_append rest) (·.1.beginsWithDigit_append rest)

/-- A parameter begins with no other character. -/
theorem head?_source_ne (htakes : m.Takes v rest) {c : Char} (hc : m.opens c = false) :
    (m.source v ++ rest).head? ≠ some c := by
  intro hhead
  obtain ⟨d, hd, hopens⟩ := exists_opens_of_takes htakes
  rw [hhead, Option.mem_some_iff] at hd
  rw [hd, hopens] at hc
  cases hc

theorem read?_eq_none_of_opens (h : ∀ c ∈ t.head?, m.opens c = false) : m.read? t = none := by
  cases hread : m.read? t with
  | none => rfl
  | some found =>
    obtain ⟨rfl, htakes⟩ := read?_eq_some_iff.1 hread
    obtain ⟨c, hc, hopens⟩ := exists_opens_of_takes htakes
    rw [h c hc] at hopens
    cases hopens

/-- A quoted text and a numeral have no brackets. -/
theorem not_mem_source (htakes : m.Takes v rest) (hm : m.isPlaceholder = false) :
    '<' ∉ m.source v ∧ '>' ∉ m.source v := by
  cases m with
  | quotedPlaceholder => cases hm
  | barePlaceholder => cases hm
  | quotedLiteral =>
    have hopen : '<' ∉ v := fun hmem => Bool.noConfusion (htakes.2 _ hmem)
    have hclose : '>' ∉ v := fun hmem => Bool.noConfusion (htakes.2 _ hmem)
    simp [source, hopen, hclose]
  | number =>
    have hdigits := eq_point_or_isAsciiDigit (htakes.2.symm.imp_left And.left)
    exact ⟨fun hmem => absurd (hdigits _ hmem) (by decide),
      fun hmem => absurd (hdigits _ hmem) (by decide)⟩

/-! ## Where a matcher matches -/

/-- A name is read behind an opening bracket exactly when a closing one follows, but not at once. -/
theorem isSome_readBare?_iff :
    (readBare? ('<' :: t)).isSome = true ↔ '>' ∈ t ∧ t.head? ≠ some '>' := by
  rw [Option.isSome_iff_exists]
  constructor
  · rintro ⟨⟨raw, rest⟩, hread⟩
    obtain ⟨ht, hne, hclose⟩ := readBare?_eq_some_iff.1 hread
    obtain ⟨c, name, rfl⟩ := List.exists_cons_of_ne_nil hne
    obtain rfl : t = c :: (name ++ '>' :: rest) := by simpa [source] using ht
    refine ⟨by simp, fun hc => hclose ?_⟩
    obtain rfl : c = '>' := by simpa using hc
    exact List.mem_cons_self
  · rintro ⟨hmem, hhead⟩
    obtain ⟨name, rest, rfl, hclose⟩ := List.eq_append_cons_of_mem hmem
    refine ⟨⟨name, rest⟩, readBare?_eq_some_iff.2 ⟨by simp [source], ?_, hclose⟩⟩
    rintro rfl
    exact hhead rfl

/-- Behind a quote, a quoted text is read when a quote comes next, but not at once, and no bracket
comes before. -/
theorem isSome_readLiteral?_iff :
    (readLiteral? ('"' :: t)).isSome = true ↔
      t.find? isLiteralEnd = some '"' ∧ t.head? ≠ some '"' := by
  rw [Option.isSome_iff_exists]
  constructor
  · rintro ⟨⟨raw, rest⟩, hread⟩
    obtain ⟨ht, hne, hend⟩ := readLiteral?_eq_some_iff.1 hread
    obtain rfl : t = raw ++ '"' :: rest := by simpa [source] using ht
    obtain ⟨c, value, rfl⟩ := List.exists_cons_of_ne_nil hne
    have hnone : (c :: value).find? isLiteralEnd = none :=
      List.find?_eq_none.2 fun d hd => by simp [hend d hd]
    refine ⟨by rw [List.find?_append, hnone]; rfl, fun hc => ?_⟩
    obtain rfl : c = '"' := by simpa using hc
    exact Bool.noConfusion (hend '"' List.mem_cons_self)
  · rintro ⟨hfind, hhead⟩
    obtain ⟨-, value, rest, rfl, hend⟩ := List.find?_eq_some_iff_append.1 hfind
    refine ⟨⟨value, rest⟩, readLiteral?_eq_some_iff.2 ⟨by simp [source], ?_, ?_⟩⟩
    · rintro rfl
      exact hhead rfl
    · exact fun c hc => by simpa using hend c hc

/-- Behind a quote, a placeholder is read when an opening bracket comes at once, a closing one
later, and a quote directly behind the first of these. -/
theorem isSome_readQuoted?_iff :
    (readQuoted? ('"' :: t)).isSome = true ↔
      ∃ u, t = '<' :: u ∧ u.head? ≠ some '>' ∧ ['>', '"'] <+: u.dropWhile (· != '>') := by
  rw [Option.isSome_iff_exists]
  constructor
  · rintro ⟨⟨raw, rest⟩, hread⟩
    obtain ⟨ht, hne, hclose⟩ := readQuoted?_eq_some_iff.1 hread
    obtain ⟨c, name, rfl⟩ := List.exists_cons_of_ne_nil hne
    refine ⟨c :: name ++ '>' :: '"' :: rest, by simpa [source] using ht, fun hc => hclose ?_, ?_⟩
    · obtain rfl : c = '>' := by simpa using hc
      exact List.mem_cons_self
    · rw [(takeWhile_bracket_eq_iff.2 ⟨rfl, hclose⟩).2]
      exact ⟨rest, rfl⟩
  · rintro ⟨u, rfl, hhead, rest, hrest⟩
    obtain ⟨hu, hclose⟩ := takeWhile_bracket_eq_iff.1 ⟨rfl, hrest.symm⟩
    refine ⟨⟨u.takeWhile (· != '>'), rest⟩, readQuoted?_eq_some_iff.2 ⟨?_, ?_, hclose⟩⟩
    · simpa [source] using hu
    · intro hnil
      have hempty : u.takeWhile (· != '>') = [] := hnil
      rw [hempty] at hu
      exact hhead (by rw [hu]; rfl)

theorem isSome_readNumber?_iff : (readNumber? t).isSome = true ↔ BeginsWithDigit t := by
  constructor
  · intro h
    obtain ⟨⟨raw, rest⟩, hread⟩ := Option.isSome_iff_exists.1 h
    obtain ⟨rfl, htakes⟩ := read?_eq_some_iff (m := .number).1 hread
    exact exists_opens_of_takes htakes
  · rintro ⟨c, hc, hdigit⟩
    obtain ⟨t, rfl⟩ : ∃ u, t = c :: u := List.head?_eq_some_iff.1 hc
    simp only [readNumber?, List.takeWhile_cons_of_pos hdigit]
    split
    · simp_all
    · split <;> rfl

theorem beginsWithDigit_congr (h : (number.read? u).isSome = (number.read? v).isSome) :
    BeginsWithDigit u ↔ BeginsWithDigit v := by
  rw [← isSome_readNumber?_iff, ← isSome_readNumber?_iff]
  exact Bool.eq_iff_iff.1 h

end Matcher

/-- The first parameter of a text is one that its matcher takes there. -/
theorem takes_of_firstParam? {p : Param} {rest : Text} (h : firstParam? t = some (p, rest)) :
    t = p.matcher.source p.raw ++ rest ∧ p.matcher.Takes p.raw rest := by
  obtain ⟨m, -, h⟩ := List.exists_of_findSome?_eq_some h
  obtain ⟨found, hfound, h⟩ := Option.map_eq_some_iff.1 h
  cases h
  exact Matcher.read?_eq_some_iff.1 hfound

end StorySpec
