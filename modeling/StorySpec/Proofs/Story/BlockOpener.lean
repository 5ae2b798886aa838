import StorySpec.Proofs.Story.Lines
import StorySpec.Proofs.Text.LowerCase
import StorySpec.Proofs.Text.Split
import StorySpec.Proofs.Text.Trim

/-!
# The form of block openers and language directives

A line opens a block when it is a known tag in brackets, in any case, with or without a name behind
an at sign, and a directive when it is the word `language` or `lang`, in any case, between a number
sign and a colon, and a code.  Both readers cut the line at the first character of another kind, and
what they accept are exactly these forms.

## Main definitions

* `bracketedLine tag name`: the line with a tag in brackets and a name.
* `IsBracketed line tag name`: the line has this form, the case of the tag aside.
* `IsDirective line code`: the line is a language directive.

## Main results

* `bracketed?_eq_some_iff`: the tag and the name that are read from a line.
* `ofLine?_eq_group_iff`, `ofLine?_eq_examples_iff`: which lines open which block.
* `afterWord?_eq_some_iff`, `exists_of_afterLanguage?`, `afterLanguage?_append`: words at the
  beginning of a text.
* `directiveCode?_trim_eq_some_iff`: which lines are directives.
* `openers_and_directives_by_form`: block openers and directives.
-/

namespace StorySpec

variable {line tag word code rest t : Text} {name : Option Text} {kind : GroupKind}

/-! ## Tags in brackets -/

/-- The line with a tag in brackets and, if there is one, a name behind an at sign. -/
def bracketedLine (tag : Text) : Option Text → Text
  | none => '[' :: (tag ++ [']'])
  | some name => '[' :: (tag ++ ']' :: '@' :: name)

/-- A text that may stand in brackets. -/
structure IsTag (tag : Text) : Prop where
  ne_nil : tag ≠ []
  /-- Only some characters stand in it. -/
  chars : ∀ c ∈ tag, isTagChar c = true

/-- A line, blanks around it aside, is a tag in brackets, in any case, with a name or without. -/
def IsBracketed (line tag : Text) (name : Option Text) : Prop :=
  ∃ word, Text.trim line = bracketedLine word name ∧
    Text.eqIgnoringAsciiCase word tag = true ∧ ∀ n ∈ name, IsGroupName n

/-- A tag ends at its bracket. -/
theorem IsTag.takeWhile_dropWhile (h : IsTag tag) (rest : Text) :
    (tag ++ ']' :: rest).takeWhile isTagChar = tag ∧
      (tag ++ ']' :: rest).dropWhile isTagChar = ']' :: rest :=
  takeWhile_dropWhile_eq_iff.2 ⟨rfl, h.chars, by simp; decide⟩

theorem bracketed?_bracketedLine (htag : IsTag tag) (hname : ∀ n ∈ name, IsGroupName n) :
    bracketed? (bracketedLine tag name) = some (tag, name) := by
  obtain ⟨c, t, rfl⟩ := List.exists_cons_of_ne_nil htag.ne_nil
  cases name with
  | none =>
    obtain ⟨htake, hdrop⟩ := htag.takeWhile_dropWhile []
    simp only [bracketedLine, bracketed?, htake, hdrop]
  | some name =>
    obtain ⟨htake, hdrop⟩ := htag.takeWhile_dropWhile ('@' :: name)
    obtain ⟨hne, hchars⟩ := hname name rfl
    have hall : name ≠ [] ∧ name.all isNameChar = true := ⟨hne, List.all_eq_true.2 hchars⟩
    simp only [bracketedLine, bracketed?, htake, hdrop]
    rw [if_pos hall]

/-- **The tag and the name** that are read from a line are all that the line is made of. -/
theorem bracketed?_eq_some_iff :
    bracketed? line = some (tag, name) ↔
      line = bracketedLine tag name ∧ IsTag tag ∧ ∀ n ∈ name, IsGroupName n := by
  constructor
  · intro h
    have hname : ∀ n ∈ name, IsGroupName n := by
      rintro n rfl
      exact isGroupName_of_bracketed? h
    -- a line with a tag is cut behind it, and what is left over decides on the name
    unfold bracketed? at h
    split at h
    · split at h
      · cases h
      · rename_i found hdrop hne
        cases h
        obtain ⟨ht, hchars, -⟩ := takeWhile_dropWhile_eq_iff.1 ⟨rfl, hdrop⟩
        exact ⟨congrArg (List.cons '[') ht, ⟨hne, hchars⟩, hname⟩
      · rename_i found behind hdrop hne
        split at h
        · cases h
          obtain ⟨ht, hchars, -⟩ := takeWhile_dropWhile_eq_iff.1 ⟨rfl, hdrop⟩
          exact ⟨congrArg (List.cons '[') ht, ⟨hne, hchars⟩, hname⟩
        · cases h
      · cases h
    · cases h
  · rintro ⟨rfl, htag, hname⟩
    exact bracketed?_bracketedLine htag hname

/-! ## The tags that open blocks -/

theorem isNameChar_of_isTagChar {c : Char} (h : isTagChar c = true) : isNameChar c = true := by
  simp only [isTagChar, Bool.or_eq_true, beq_iff_eq] at h
  rcases h with h | rfl
  · simp [isNameChar, Char.isAlphanum, h]
  · decide

/-- Nothing is trimmed from a tag. -/
theorem IsTag.trim (h : IsTag tag) : Text.trim tag = tag :=
  Text.trim_of_not_blank fun c hc =>
    isBlank_of_isNameChar (isNameChar_of_isTagChar (h.chars c hc))

theorem isTag_tag (kind : GroupKind) : IsTag kind.tag := by
  have hall : kind.tag ≠ [] ∧ kind.tag.all isTagChar = true := by cases kind <;> decide
  exact ⟨hall.1, List.all_eq_true.1 hall.2⟩

theorem isTag_of_mem_examplesTags (h : tag ∈ examplesTags) : IsTag tag := by
  have hall : ∀ tag ∈ examplesTags, tag ≠ [] ∧ tag.all isTagChar = true := by decide
  exact ⟨(hall tag h).1, List.all_eq_true.1 (hall tag h).2⟩

/-- A tag in another case is a tag. -/
theorem IsTag.of_eqIgnoringAsciiCase (h : IsTag tag)
    (hword : Text.eqIgnoringAsciiCase word tag = true) : IsTag word := by
  rw [Text.eqIgnoringAsciiCase_iff] at hword
  have htoLower : ∀ c, isTagChar c.toLower = isTagChar c := apply_toLower (by decide)
  refine ⟨?_, fun c hc => ?_⟩
  · rintro rfl
    exact h.ne_nil (List.map_eq_nil_iff.1 hword.symm)
  · have hmem : c.toLower ∈ Text.lowerAscii tag := hword ▸ List.mem_map_of_mem hc
    obtain ⟨d, hd, hform⟩ := List.mem_map.1 hmem
    rw [← htoLower, ← hform, htoLower]
    exact h.chars d hd

theorem GroupKind.upperAscii_tag (kind : GroupKind) : Text.upperAscii kind.tag = kind.tag := by
  cases kind <;> rfl

/-- A tag is that of a kind exactly when it is equal to it, case aside. -/
theorem GroupKind.ofTag_eq_ok_iff (hword : IsTag word) :
    GroupKind.ofTag word = .ok kind ↔ Text.eqIgnoringAsciiCase word kind.tag = true := by
  rw [← Text.upperAscii_eq_iff, kind.upperAscii_tag, GroupKind.ofTag, hword.trim]
  constructor
  · intro h
    split at h
    · rename_i found hfound
      cases h
      have htag := List.find?_some hfound
      exact (beq_iff_eq.1 htag).symm
    · cases h
  · intro h
    have hkind := kind.ofTag_tag
    rw [GroupKind.ofTag, (isTag_tag kind).trim, kind.upperAscii_tag] at hkind
    rwa [h]

/-- A tag opens examples exactly when it is one of those that do, case aside. -/
theorem upperAscii_mem_examplesTags_iff :
    Text.upperAscii word ∈ examplesTags ↔
      ∃ tag ∈ examplesTags, Text.eqIgnoringAsciiCase word tag = true := by
  have hupper : ∀ tag ∈ examplesTags, Text.upperAscii tag = tag := by decide
  constructor
  · intro h
    exact ⟨_, h, Text.upperAscii_eq_iff.1 (hupper _ h).symm⟩
  · rintro ⟨tag, hmem, htag⟩
    rw [Text.upperAscii_eq_iff.2 htag, hupper tag hmem]
    exact hmem

/-- No tag of a kind opens examples. -/
theorem GroupKind.not_mem_examplesTags (h : Text.eqIgnoringAsciiCase word kind.tag = true) :
    Text.upperAscii word ∉ examplesTags := by
  rw [Text.upperAscii_eq_iff.2 h, kind.upperAscii_tag]
  cases kind <;> decide

/-! ## Block openers -/

/-- The block that a line opens is that of its tag. -/
theorem ofLine?_of_bracketedLine (hline : Text.trim line = bracketedLine word name)
    (hword : IsTag word) (hname : ∀ n ∈ name, IsGroupName n) :
    BlockOpener.ofLine? line =
      if Text.upperAscii word ∈ examplesTags then some .examples
      else (GroupKind.ofTag word).toOption.map fun kind => .group kind name := by
  simp only [BlockOpener.ofLine?, hline, bracketed?_bracketedLine hword hname]
  cases GroupKind.ofTag word <;> rfl

/-- A line that opens a block has a tag in brackets. -/
theorem exists_of_ofLine? {opener : BlockOpener} (h : BlockOpener.ofLine? line = some opener) :
    ∃ word name, Text.trim line = bracketedLine word name ∧ IsTag word ∧
      ∀ n ∈ name, IsGroupName n := by
  cases hbracketed : bracketed? (Text.trim line) with
  | none =>
    rw [BlockOpener.ofLine?, hbracketed] at h
    cases h
  | some found =>
    obtain ⟨hline, hword, hname⟩ := bracketed?_eq_some_iff.1 hbracketed
    exact ⟨found.1, found.2, hline, hword, hname⟩

/-- **A line opens a group** exactly when it is the tag of the kind in brackets, with the name of
the group. -/
theorem ofLine?_eq_group_iff :
    BlockOpener.ofLine? line = some (.group kind name) ↔ IsBracketed line kind.tag name := by
  constructor
  · intro h
    obtain ⟨word, name', hline, hword, hname⟩ := exists_of_ofLine? h
    rw [ofLine?_of_bracketedLine hline hword hname] at h
    split at h
    · cases h
    · cases hkind : GroupKind.ofTag word with
      | error e =>
        rw [hkind] at h
        cases h
      | ok found =>
        rw [hkind] at h
        cases h
        exact ⟨word, hline, (GroupKind.ofTag_eq_ok_iff hword).1 hkind, hname⟩
  · rintro ⟨word, hline, hkind, hname⟩
    have hword := (isTag_tag kind).of_eqIgnoringAsciiCase hkind
    simp only [ofLine?_of_bracketedLine hline hword hname,
      if_neg (GroupKind.not_mem_examplesTags hkind), (GroupKind.ofTag_eq_ok_iff hword).2 hkind,
      Except.toOption, Option.map_some]

/-- **A line announces examples** exactly when it is one of their tags in brackets, with any name or
none. -/
theorem ofLine?_eq_examples_iff :
    BlockOpener.ofLine? line = some .examples ↔
      ∃ tag ∈ examplesTags, ∃ name, IsBracketed line tag name := by
  constructor
  · intro h
    obtain ⟨word, name, hline, hword, hname⟩ := exists_of_ofLine? h
    rw [ofLine?_of_bracketedLine hline hword hname] at h
    split at h
    · rename_i hmem
      obtain ⟨tag, htag, hcase⟩ := upperAscii_mem_examplesTags_iff.1 hmem
      exact ⟨tag, htag, name, word, hline, hcase, hname⟩
    · obtain ⟨kind, -, hgroup⟩ := Option.map_eq_some_iff.1 h
      cases hgroup
  · rintro ⟨tag, htag, name, word, hline, hcase, hname⟩
    have hword := (isTag_of_mem_examplesTags htag).of_eqIgnoringAsciiCase hcase
    rw [ofLine?_of_bracketedLine hline hword hname,
      if_pos (upperAscii_mem_examplesTags_iff.2 ⟨tag, htag, hcase⟩)]

/-- A line opens no block exactly when it opens neither a group nor examples. -/
theorem ofLine?_eq_none_iff :
    BlockOpener.ofLine? line = none ↔
      (∀ kind : GroupKind, ∀ name, ¬ IsBracketed line kind.tag name) ∧
        ∀ tag ∈ examplesTags, ∀ name, ¬ IsBracketed line tag name := by
  constructor
  · intro h
    refine ⟨fun kind name hline => ?_, fun tag htag name hline => ?_⟩
    · rw [ofLine?_eq_group_iff.2 hline] at h
      cases h
    · rw [ofLine?_eq_examples_iff.2 ⟨tag, htag, name, hline⟩] at h
      cases h
  · rintro ⟨hgroup, hexamples⟩
    cases hopener : BlockOpener.ofLine? line with
    | none => rfl
    | some opener =>
      cases opener with
      | group kind name => exact absurd (ofLine?_eq_group_iff.1 hopener) (hgroup kind name)
      | examples =>
        obtain ⟨tag, htag, name, hline⟩ := ofLine?_eq_examples_iff.1 hopener
        exact absurd hline (hexamples tag htag name)

/-- Nothing is trimmed from the line of a tag in brackets. -/
theorem trim_bracketedLine (hname : ∀ n ∈ name, IsGroupName n) :
    Text.trim (bracketedLine tag name) = bracketedLine tag name := by
  have hopen : Text.trim ['['] = ['['] := by decide
  cases name with
  | none =>
    have hclose : Text.trim [']'] = [']'] := by decide
    exact Text.trim_append tag hopen (by decide) hclose (by decide)
  | some name =>
    obtain ⟨hne, hchars⟩ := hname name rfl
    have hlast := Text.trim_of_not_blank fun c hc => isBlank_of_isNameChar (hchars c hc)
    have htrim := Text.trim_append (tag ++ [']', '@']) hopen (by decide) hlast hne
    rwa [List.append_assoc] at htrim

/-! ## Language directives -/

/-- The word of a language directive: `language` or `lang`, in any case. -/
def IsLanguageWord (word : Text) : Prop :=
  Text.eqIgnoringAsciiCase word "lang".toList = true ∨
    Text.eqIgnoringAsciiCase word "language".toList = true

/-- A line is a language directive with the given code: a number sign, the word, a colon and the
code, with blanks between them or not. -/
def IsDirective (line code : Text) : Prop :=
  ∃ before word behind gap : Text,
    line = '#' :: (before ++ (word ++ (behind ++ ':' :: (gap ++ code)))) ∧ IsLanguageWord word ∧
      (∀ c ∈ before ++ behind ++ gap, isBlank c = true) ∧ code ≠ [] ∧
      ∀ c ∈ code, isBlank c = false

/-- A text begins with a word, case aside, exactly when some part at its beginning is the word in
some case. -/
theorem afterWord?_eq_some_iff :
    afterWord? word t = some rest ↔
      ∃ front, t = front ++ rest ∧ Text.eqIgnoringAsciiCase front word = true := by
  unfold afterWord?
  constructor
  · intro h
    split at h
    · rename_i hfront
      cases h
      exact ⟨_, (List.take_append_drop _ t).symm, hfront⟩
    · cases h
  · rintro ⟨front, rfl, hfront⟩
    have hlength : front.length = word.length := by
      simpa [Text.lowerAscii] using congrArg List.length (Text.eqIgnoringAsciiCase_iff.1 hfront)
    rw [← hlength, List.take_left' rfl, List.drop_left' rfl, if_pos hfront]

theorem eqIgnoringAsciiCase_append {s s' t t' : Text} (h : Text.eqIgnoringAsciiCase s t = true)
    (h' : Text.eqIgnoringAsciiCase s' t' = true) :
    Text.eqIgnoringAsciiCase (s ++ s') (t ++ t') = true := by
  rw [Text.eqIgnoringAsciiCase_iff] at *
  rw [Text.lowerAscii_append, Text.lowerAscii_append, h, h']

/-- What `afterLanguage?` reads is the word of a directive. -/
theorem exists_of_afterLanguage? (h : afterLanguage? t = some rest) :
    ∃ word, t = word ++ rest ∧ IsLanguageWord word := by
  obtain ⟨behind, hlang, hrest⟩ := Option.map_eq_some_iff.1 h
  obtain ⟨front, rfl, hfront⟩ := afterWord?_eq_some_iff.1 hlang
  split at hrest
  · rename_i rest' huage
    obtain ⟨ending, rfl, hending⟩ := afterWord?_eq_some_iff.1 huage
    rw [← hrest]
    exact ⟨front ++ ending, (List.append_assoc _ _ _).symm,
      Or.inr (eqIgnoringAsciiCase_append hfront hending)⟩
  · rw [← hrest]
    exact ⟨front, rfl, Or.inl hfront⟩

/-- The word of a directive is read as a whole when it does not go on. -/
theorem afterLanguage?_append (hword : IsLanguageWord word)
    (hrest : ∀ c ∈ rest.head?, c.toLower ≠ 'u') : afterLanguage? (word ++ rest) = some rest := by
  rcases hword with hlang | hlanguage
  · have hfront : afterWord? "lang".toList (word ++ rest) = some rest :=
      afterWord?_eq_some_iff.2 ⟨word, rfl, hlang⟩
    have hend : afterWord? "uage".toList rest = none := by
      rw [Option.eq_none_iff_forall_ne_some]
      intro rest' huage
      obtain ⟨ending, rfl, hending⟩ := afterWord?_eq_some_iff.1 huage
      -- the rest would begin with the letter that the abbreviation leaves out
      obtain ⟨c, ending', rfl, hc, -⟩ :=
        List.map_eq_cons_iff.1 (Text.eqIgnoringAsciiCase_iff.1 hending)
      exact hrest c rfl hc
    simp only [afterLanguage?, hfront, Option.map_some, hend]
  · have hparts : Text.lowerAscii word = "lang".toList ++ "uage".toList :=
      Text.eqIgnoringAsciiCase_iff.1 hlanguage
    obtain ⟨front, ending, rfl, hfront, hending⟩ := List.map_eq_append_iff.1 hparts
    have hlang : afterWord? "lang".toList (front ++ (ending ++ rest)) = some (ending ++ rest) :=
      afterWord?_eq_some_iff.2 ⟨front, rfl, Text.eqIgnoringAsciiCase_iff.2 hfront⟩
    have huage : afterWord? "uage".toList (ending ++ rest) = some rest :=
      afterWord?_eq_some_iff.2 ⟨ending, rfl, Text.eqIgnoringAsciiCase_iff.2 hending⟩
    rw [List.append_assoc]
    simp only [afterLanguage?, hlang, Option.map_some, huage]

/-- The word of a directive is made of letters. -/
theorem IsLanguageWord.not_isBlank (h : IsLanguageWord word) :
    ∀ c ∈ word, isBlank c = false := by
  have hlower : (Text.lowerAscii word).all (fun c => !isBlank c) = true := by
    rcases h with h | h
    · rw [Text.eqIgnoringAsciiCase_iff.1 h]
      decide
    · rw [Text.eqIgnoringAsciiCase_iff.1 h]
      decide
  intro c hc
  have hletter := List.all_eq_true.1 hlower _ (List.mem_map_of_mem hc)
  rwa [isBlank_toLower, Bool.not_eq_true'] at hletter

theorem IsLanguageWord.ne_nil (h : IsLanguageWord word) : word ≠ [] := by
  rintro rfl
  rcases h with h | h <;> cases h

/-- What stands between the number sign of a directive and its colon. -/
theorem map_trimStart_afterLanguage?_iff :
    (afterLanguage? (Text.trimStart t)).map Text.trimStart = some (':' :: rest) ↔
      ∃ before word behind, t = before ++ (word ++ (behind ++ ':' :: rest)) ∧
        IsLanguageWord word ∧ (∀ c ∈ before, isBlank c = true) ∧
          ∀ c ∈ behind, isBlank c = true := by
  constructor
  · intro h
    obtain ⟨left, hafter, htrim⟩ := Option.map_eq_some_iff.1 h
    obtain ⟨word, hword, hlanguage⟩ := exists_of_afterLanguage? hafter
    obtain ⟨before, hbefore, hblank⟩ := Text.exists_append_trimStart t
    obtain ⟨behind, hbehind, hblank'⟩ := Text.exists_append_trimStart left
    rw [htrim] at hbehind
    exact ⟨before, word, behind, by rw [← hbehind, ← hword, ← hbefore], hlanguage, hblank, hblank'⟩
  · rintro ⟨before, word, behind, rfl, hword, hblank, hblank'⟩
    have hfirst : ∀ c ∈ (word ++ (behind ++ ':' :: rest)).head?, isBlank c = false := by
      obtain ⟨c, word, rfl⟩ := List.exists_cons_of_ne_nil hword.ne_nil
      rintro d ⟨⟩
      exact hword.not_isBlank c List.mem_cons_self
    have hnext : ∀ c ∈ (behind ++ ':' :: rest).head?, c.toLower ≠ 'u' := by
      cases behind with
      | nil =>
        rintro c ⟨⟩
        decide
      | cons b behind =>
        rintro c ⟨⟩ hu
        have hb := hblank' b List.mem_cons_self
        rw [← isBlank_toLower, hu] at hb
        cases hb
    have hcolon : ∀ c ∈ (':' :: rest).head?, isBlank c = false := by
      rintro c ⟨⟩
      decide
    rw [Text.trimStart_append hblank hfirst, afterLanguage?_append hword hnext, Option.map_some,
      Text.trimStart_append hblank' hcolon]

/-- What stands behind the colon of a directive. -/
theorem trimStart_takeWhile_iff :
    ((Text.trimStart t).takeWhile (fun c => !isBlank c) = code ∧ code ≠ [] ∧
        Text.trimStart ((Text.trimStart t).dropWhile fun c => !isBlank c) = []) ↔
      ∃ gap trailing, t = gap ++ (code ++ trailing) ∧ code ≠ [] ∧
        (∀ c ∈ gap, isBlank c = true) ∧ (∀ c ∈ code, isBlank c = false) ∧
          ∀ c ∈ trailing, isBlank c = true := by
  constructor
  · rintro ⟨hcode, hne, hrest⟩
    obtain ⟨gap, hgap, hblank⟩ := Text.exists_append_trimStart t
    obtain ⟨hparts, hchars, -⟩ := takeWhile_dropWhile_eq_iff.1 ⟨hcode, rfl⟩
    rw [hparts] at hgap
    exact ⟨gap, _, hgap, hne, hblank, by simpa using hchars, List.dropWhile_eq_nil_iff.1 hrest⟩
  · rintro ⟨gap, trailing, rfl, hne, hblank, hchars, htrailing⟩
    have hfirst : ∀ c ∈ (code ++ trailing).head?, isBlank c = false := by
      obtain ⟨c, code, rfl⟩ := List.exists_cons_of_ne_nil hne
      rintro d ⟨⟩
      exact hchars c List.mem_cons_self
    rw [Text.trimStart_append hblank hfirst]
    have hcut : (code ++ trailing).takeWhile (fun c => !isBlank c) = code ∧
        (code ++ trailing).dropWhile (fun c => !isBlank c) = trailing :=
      takeWhile_dropWhile_eq_iff.2
        ⟨rfl, by simpa using hchars, fun c hc => by simp [htrailing c (List.mem_of_mem_head? hc)]⟩
    rw [hcut.2]
    exact ⟨hcut.1, hne, List.dropWhile_eq_nil_iff.2 htrailing⟩

/-- A line that is read as a directive is cut behind the number sign and behind the colon. -/
theorem directiveCode?_eq_some_iff_cut :
    directiveCode? line = some code ↔
      ∃ t t', line = '#' :: t ∧
        (afterLanguage? (Text.trimStart t)).map Text.trimStart = some (':' :: t') ∧
        (Text.trimStart t').takeWhile (fun c => !isBlank c) = code ∧ code ≠ [] ∧
          Text.trimStart ((Text.trimStart t').dropWhile fun c => !isBlank c) = [] := by
  constructor
  · intro h
    unfold directiveCode? at h
    split at h
    · rename_i t
      split at h
      · rename_i t' hcolon
        dsimp only at h
        split at h
        · rename_i hcode
          cases h
          exact ⟨t, t', rfl, hcolon, rfl, hcode⟩
        · cases h
      · cases h
    · cases h
  · rintro ⟨t, t', rfl, hcolon, hcode, hrest⟩
    simp only [directiveCode?, hcolon, hcode]
    rw [if_pos hrest]

/-- A directive is read with its code, and only blanks may follow the code. -/
theorem directiveCode?_eq_some_iff :
    directiveCode? line = some code ↔
      ∃ front trailing, line = front ++ trailing ∧ IsDirective front code ∧
        ∀ c ∈ trailing, isBlank c = true := by
  rw [directiveCode?_eq_some_iff_cut]
  simp only [map_trimStart_afterLanguage?_iff, trimStart_takeWhile_iff]
  constructor
  · rintro ⟨_, _, rfl, ⟨before, word, behind, rfl, hword, hbefore, hbehind⟩,
      ⟨gap, trailing, rfl, hne, hgap, hchars, htrailing⟩⟩
    refine ⟨'#' :: (before ++ (word ++ (behind ++ ':' :: (gap ++ code)))), trailing,
      by simp only [List.cons_append, List.append_assoc],
      ⟨before, word, behind, gap, rfl, hword, ?_, hne, hchars⟩, htrailing⟩
    exact List.forall_mem_append.2 ⟨List.forall_mem_append.2 ⟨hbefore, hbehind⟩, hgap⟩
  · rintro ⟨_, trailing, rfl, ⟨before, word, behind, gap, rfl, hword, hblanks, hne, hchars⟩,
      htrailing⟩
    obtain ⟨hblanks, hgap⟩ := List.forall_mem_append.1 hblanks
    obtain ⟨hbefore, hbehind⟩ := List.forall_mem_append.1 hblanks
    refine ⟨before ++ (word ++ (behind ++ ':' :: (gap ++ (code ++ trailing)))), _,
      by simp only [List.cons_append, List.append_assoc],
      ⟨before, word, behind, rfl, hword, hbefore, hbehind⟩,
      ⟨gap, trailing, rfl, hne, hgap, hchars, htrailing⟩⟩

/-- **A trimmed line is a directive** exactly when its code is read from it. -/
theorem directiveCode?_trim_eq_some_iff :
    directiveCode? (Text.trim line) = some code ↔ IsDirective (Text.trim line) code := by
  rw [directiveCode?_eq_some_iff]
  constructor
  · rintro ⟨front, trailing, hline, hdirective, htrailing⟩
    have hnil : trailing = [] := by
      by_contra hne
      have hlast : trailing.getLast hne ∈ (Text.trim line).getLast? := by
        simp [hline, List.getLast?_append, List.getLast?_eq_some_getLast hne]
      have hblank := htrailing _ (List.getLast_mem hne)
      rw [Text.getLast?_trim _ _ hlast] at hblank
      cases hblank
    rwa [hline, hnil, List.append_nil]
  · intro h
    exact ⟨_, [], (List.append_nil _).symm, h, by simp⟩

/-! ## Openers and directives -/

/-- The line of a group in brackets opens the group. -/
theorem ofLine?_bracketedLine (kind : GroupKind) (hname : ∀ n ∈ name, IsGroupName n) :
    BlockOpener.ofLine? (bracketedLine kind.tag name) = some (.group kind name) :=
  ofLine?_eq_group_iff.2
    ⟨kind.tag, trim_bracketedLine hname, Text.eqIgnoringAsciiCase_iff.2 rfl, hname⟩

/-- **A line opens a block or is a directive** exactly when it has the form of one, and a group that
is written in this form is read as it was. -/
theorem openers_and_directives_by_form (line : Text) :
    (∀ (kind : GroupKind) (name : Option Text),
      BlockOpener.ofLine? line = some (.group kind name) ↔ IsBracketed line kind.tag name) ∧
    (BlockOpener.ofLine? line = some .examples ↔
      ∃ tag ∈ examplesTags, ∃ name, IsBracketed line tag name) ∧
    (BlockOpener.ofLine? line = none ↔
      (∀ kind : GroupKind, ∀ name, ¬ IsBracketed line kind.tag name) ∧
        ∀ tag ∈ examplesTags, ∀ name, ¬ IsBracketed line tag name) ∧
    (∀ (kind : GroupKind) (name : Option Text), (∀ n ∈ name, IsGroupName n) →
      BlockOpener.ofLine? (bracketedLine kind.tag name) = some (.group kind name)) ∧
    ∀ code, directiveCode? (Text.trim line) = some code ↔ IsDirective (Text.trim line) code :=
  ⟨fun _ _ => ofLine?_eq_group_iff, ofLine?_eq_examples_iff, ofLine?_eq_none_iff,
    fun kind _ => ofLine?_bracketedLine kind, fun _ => directiveCode?_trim_eq_some_iff⟩

example : BlockOpener.ofLine? "[success] @smoke".toList = none ∧
    directiveCode? "# LANG : pt".toList = some "pt".toList := by decide +kernel

end StorySpec
