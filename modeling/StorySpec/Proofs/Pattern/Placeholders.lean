import Mathlib.Data.List.Infix
import StorySpec.Pattern
import StorySpec.Proofs.Pattern.Matcher
import StorySpec.Proofs.Pattern.Scan

/-!
# Uses of a column

A step uses a column where the name of the column stands in angle brackets.  The scan takes a name
from an opening bracket up to the next closing one, whatever is in between, so that a use behind an
opening bracket that is not yet closed is a part of the name that begins there.  Every other use is
found: whatever is taken before it has ended by then.

## Main definitions

* `Text.cuts t`: the ways to cut the text `t` in two.
* `Text.endsOpen t`: the last angle bracket of `t` is an opening one.
* `uses name t`, `clearUses name t`: the uses of a name in the text `t`, and those that do not
  stand behind an open bracket.

## Main results

* `countUses_eq_countP`: as many clear uses as placeholders, in what a scan has left.
* `placeholders_eq_clearUses`: the placeholders of a name are its clear uses, and have the type of
  its column.
-/

namespace StorySpec

variable {name front t rest raw : Text}

/-! ## Cuts -/

/-- The ways to cut a text in two, the first one in front of it. -/
def Text.cuts (t : Text) : List (Text × Text) :=
  t.inits.zip t.tails

theorem Text.cuts_cons (c : Char) (t : Text) :
    cuts (c :: t) = ([], c :: t) :: (cuts t).map fun cut => (c :: cut.1, cut.2) := by
  simp only [cuts, List.inits_cons, List.tails_cons, List.zip_cons_cons, List.zip_map_left]
  rfl

/-! ## Open brackets -/

/-- A text ends behind an open bracket: the last angle bracket in it is an opening one. -/
def Text.endsOpen (t : Text) : Bool :=
  (t.filter fun c => c == '<' || c == '>').getLast? == some '<'

theorem Text.endsOpen_concat (t : Text) (c : Char) :
    endsOpen (t ++ [c]) = if c = '<' then true else if c = '>' then false else endsOpen t := by
  unfold endsOpen
  rw [List.filter_append]
  by_cases hopen : c = '<'
  · simp [hopen]
  · by_cases hclose : c = '>' <;> simp [hopen, hclose]

/-- A text without brackets leaves it open or not as it was before. -/
theorem Text.endsOpen_append {u : Text} (h : '<' ∉ u ∧ '>' ∉ u) (t : Text) :
    endsOpen (t ++ u) = endsOpen t := by
  have hfilter : u.filter (fun c => c == '<' || c == '>') = [] := by
    refine List.filter_eq_nil_iff.2 fun c hc => ?_
    have hopen : c ≠ '<' := fun heq => h.1 (heq ▸ hc)
    have hclose : c ≠ '>' := fun heq => h.2 (heq ▸ hc)
    simp [hopen, hclose]
  rw [endsOpen, List.filter_append, hfilter, List.append_nil, endsOpen]

/-! ## Uses -/

/-- Whether a name stands in angle brackets at the beginning of a text. -/
def beginsWithUse (name t : Text) : Bool :=
  ('<' :: name ++ ['>']).isPrefixOf t

/-- The uses of a name in a text: the cuts behind which the name stands in angle brackets. -/
def uses (name t : Text) : List (Text × Text) :=
  (Text.cuts t).filter fun cut => beginsWithUse name cut.2

/-- The uses of a name that do not stand behind an open bracket. -/
def clearUses (name t : Text) : List (Text × Text) :=
  (uses name t).filter fun cut => !cut.1.endsOpen

/-- The number of clear uses in what follows the text `front`. -/
def countUses (name front t : Text) : Nat :=
  (Text.cuts t).countP fun cut => beginsWithUse name cut.2 && !(front ++ cut.1).endsOpen

theorem length_clearUses (name t : Text) : (clearUses name t).length = countUses name [] t := by
  rw [clearUses, uses, List.filter_filter, ← List.countP_eq_length_filter, countUses]
  exact congrArg (List.countP · _) (funext fun cut => Bool.and_comm _ _)

theorem countUses_cons (name front : Text) (c : Char) (t : Text) :
    countUses name front (c :: t) =
      countUses name (front ++ [c]) t +
        if beginsWithUse name (c :: t) && !front.endsOpen then 1 else 0 := by
  rw [countUses, Text.cuts_cons, List.countP_cons, List.countP_map, List.append_nil]
  simp only [Function.comp_def, countUses, List.append_assoc, List.singleton_append]

theorem head?_of_beginsWithUse (h : beginsWithUse name t = true) : t.head? = some '<' := by
  obtain ⟨u, rfl⟩ := List.isPrefixOf_iff_prefix.1 h
  rfl

theorem close_mem_of_beginsWithUse (h : beginsWithUse name t = true) : '>' ∈ t := by
  obtain ⟨u, rfl⟩ := List.isPrefixOf_iff_prefix.1 h
  simp

/-- A use ends at the first closing bracket. -/
theorem beginsWithUse_iff_eq (hname : '>' ∉ name) (hraw : '>' ∉ raw) :
    beginsWithUse name ('<' :: (raw ++ '>' :: rest)) = true ↔ raw = name := by
  rw [beginsWithUse, List.isPrefixOf_iff_prefix]
  constructor
  · rintro ⟨u, hu⟩
    have htext : raw ++ '>' :: rest = name ++ '>' :: u := by simpa using hu.symm
    exact (Matcher.takeWhile_bracket_eq_iff.2 ⟨rfl, hraw⟩).1.symm.trans
      (Matcher.takeWhile_bracket_eq_iff.2 ⟨htext, hname⟩).1
  · rintro rfl
    exact ⟨rest, by simp⟩

/-! ## Where there is no use -/

/-- No use begins in a text without opening brackets. -/
theorem countUses_append_of_not_mem {u : Text} (h : '<' ∉ u) (name front t : Text) :
    countUses name front (u ++ t) = countUses name (front ++ u) t := by
  induction u generalizing front with
  | nil => rw [List.append_nil, List.nil_append]
  | cons c u ih =>
    obtain ⟨hc, hu⟩ := List.ne_and_not_mem_of_not_mem_cons h
    have hnone : beginsWithUse name (c :: (u ++ t)) = false :=
      Bool.eq_false_iff.2 fun huse => hc (Option.some.inj (head?_of_beginsWithUse huse)).symm
    rw [List.cons_append, countUses_cons, hnone, ih hu]
    simp

/-- No clear use begins behind an open bracket, as long as that is not closed. -/
theorem countUses_append_of_endsOpen {u : Text} (h : '>' ∉ u) (hfront : front.endsOpen = true)
    (name t : Text) : countUses name front (u ++ t) = countUses name (front ++ u) t := by
  induction u generalizing front with
  | nil => rw [List.append_nil, List.nil_append]
  | cons c u ih =>
    obtain ⟨hc, hu⟩ := List.ne_and_not_mem_of_not_mem_cons h
    have hopen : (front ++ [c]).endsOpen = true := by
      rw [Text.endsOpen_concat, hfront]
      simp [hc.symm]
    rw [List.cons_append, countUses_cons, hfront, ih hu hopen]
    simp

/-- A text without closing brackets has no uses. -/
theorem countUses_eq_zero (h : '>' ∉ t) (name front : Text) : countUses name front t = 0 := by
  induction t generalizing front with
  | nil => rfl
  | cons c t ih =>
    have hnone : beginsWithUse name (c :: t) = false :=
      Bool.eq_false_iff.2 fun huse => h (close_mem_of_beginsWithUse huse)
    rw [countUses_cons, hnone, ih (List.not_mem_of_not_mem_cons h)]
    simp

/-- In a name in angle brackets one use can begin, at the first bracket. -/
theorem countUses_bare (hname : '>' ∉ name) (hraw : '>' ∉ raw) (hfront : front.endsOpen = false)
    (t : Text) :
    countUses name front (Matcher.barePlaceholder.source raw ++ t) =
      countUses name (front ++ Matcher.barePlaceholder.source raw) t +
        if raw = name then 1 else 0 := by
  have hsource : Matcher.barePlaceholder.source raw ++ t = '<' :: (raw ++ '>' :: t) := by
    simp [Matcher.source]
  have hopen : (front ++ ['<']).endsOpen = true := by rw [Text.endsOpen_concat, if_pos rfl]
  have hinside : countUses name (front ++ ['<']) (raw ++ '>' :: t) =
      countUses name (front ++ Matcher.barePlaceholder.source raw) t := by
    rw [countUses_append_of_endsOpen hraw hopen]
    have hclosing := countUses_append_of_not_mem (u := ['>']) (by decide) name
      (front ++ ['<'] ++ raw) t
    simpa [Matcher.source] using hclosing
  rw [hsource, countUses_cons, hinside, hfront, Bool.not_false, Bool.and_true]
  simp only [beginsWithUse_iff_eq hname hraw]

/-! ## Placeholders -/

/-- Whether a parameter is a placeholder with the given name. -/
def Param.isUseOf (name : Text) (p : Param) : Bool :=
  p.matcher.isPlaceholder && p.raw == name

/-- Whether a token is such a parameter. -/
def Token.isUseOf (name : Text) : Token → Bool
  | .literal _ => false
  | .param p => p.isUseOf name

theorem countP_isUseOf_consChar (name : Text) (c : Char) (tokens : List Token) :
    (consChar c tokens).countP (Token.isUseOf name) = tokens.countP (Token.isUseOf name) := by
  cases tokens with
  | nil => rfl
  | cons token tokens => cases token <;> simp [consChar, Token.isUseOf]

/-- What a matcher takes leaves no bracket open. -/
theorem endsOpen_append_source {m : Matcher} (htakes : m.Takes raw rest)
    (hfront : front.endsOpen = false) : (front ++ m.source raw).endsOpen = false := by
  by_cases hm : m.isPlaceholder = true
  · have hclosed : ∀ u : Text, (u ++ ['>']).endsOpen = false := fun u => by
      rw [Text.endsOpen_concat]
      rfl
    cases m with
    | quotedPlaceholder =>
      have hsource : front ++ Matcher.quotedPlaceholder.source raw =
          front ++ '"' :: '<' :: raw ++ ['>'] ++ ['"'] := by simp [Matcher.source]
      rw [hsource, Text.endsOpen_append (by decide)]
      exact hclosed _
    | barePlaceholder =>
      rw [Matcher.source, ← List.append_assoc]
      exact hclosed _
    | quotedLiteral => cases hm
    | number => cases hm
  · rw [Text.endsOpen_append (Matcher.not_mem_source htakes (by simpa using hm)), hfront]

/-- **In a parameter** one clear use can begin, and one does when it is a placeholder of the
name. -/
theorem countUses_source {p : Param} (hname : '>' ∉ name)
    (htakes : p.matcher.Takes p.raw rest) (hfront : front.endsOpen = false) :
    countUses name front (p.matcher.source p.raw ++ rest) =
      countUses name (front ++ p.matcher.source p.raw) rest + if p.isUseOf name then 1 else 0 := by
  obtain ⟨raw, m, type⟩ := p
  by_cases hm : m.isPlaceholder = true
  · have huse : Param.isUseOf name ⟨raw, m, type⟩ = (raw == name) := by simp [Param.isUseOf, hm]
    simp only [huse, beq_iff_eq]
    cases m with
    | quotedPlaceholder =>
      have hquote : (front ++ ['"']).endsOpen = false := by
        rw [Text.endsOpen_append (by decide), hfront]
      have hsource : Matcher.quotedPlaceholder.source raw ++ rest =
          ['"'] ++ (Matcher.barePlaceholder.source raw ++ (['"'] ++ rest)) := by
        simp [Matcher.source]
      rw [hsource, countUses_append_of_not_mem (by decide), countUses_bare hname htakes.2 hquote,
        countUses_append_of_not_mem (by decide)]
      simp [Matcher.source]
    | barePlaceholder => exact countUses_bare hname htakes.2 hfront rest
    | quotedLiteral => cases hm
    | number => cases hm
  · have huse : Param.isUseOf name ⟨raw, m, type⟩ = false := by simp [Param.isUseOf, hm]
    rw [countUses_append_of_not_mem (Matcher.not_mem_source htakes (by simpa using hm)).1, huse]
    simp

/-- The tokens of a text without closing brackets are no placeholders. -/
theorem countP_isUseOf_eq_zero (h : '>' ∉ t) (name : Text) :
    (tokenize t).countP (Token.isUseOf name) = 0 := by
  rw [List.countP_eq_zero]
  intro token htoken huse
  refine h ?_
  cases token with
  | literal text => cases huse
  | param p =>
    obtain ⟨raw, m, type⟩ := p
    have hclose : '>' ∈ m.source raw := by
      cases m with
      | quotedPlaceholder => simp [Matcher.source]
      | barePlaceholder => simp [Matcher.source]
      | quotedLiteral => cases huse
      | number => cases huse
    rw [← source_tokenize t]
    exact List.mem_flatMap.2 ⟨_, htoken, hclose⟩

/-- **As many clear uses as placeholders** are in what a scan has left, when no bracket is open
there or the open one is closed at once and so encloses no name. -/
theorem countUses_eq_countP (hne : name ≠ []) (hname : '>' ∉ name)
    (hfront : front.endsOpen = false ∨ t.head? = some '>') :
    countUses name front t = (tokenize t).countP (Token.isUseOf name) := by
  fun_induction tokenize t generalizing front with
  | case1 => rfl
  | case2 c t p rest h ih =>
    obtain ⟨ht, htakes⟩ := takes_of_firstParam? h
    rw [ht] at hfront ⊢
    have hopens : p.matcher.opens '>' = false := by cases p.matcher <;> decide
    have hclosed : front.endsOpen = false :=
      hfront.resolve_right (Matcher.head?_source_ne htakes hopens)
    rw [countUses_source hname htakes hclosed, List.countP_cons,
      ih (Or.inl (endsOpen_append_source htakes hclosed))]
    rfl
  | case3 c t h ih =>
    have hbare : Matcher.readBare? (c :: t) = none := firstParam?_eq_none_iff.1 h .barePlaceholder
    have hnone : beginsWithUse name (c :: t) = false := by
      refine Bool.eq_false_iff.2 fun huse => ?_
      obtain ⟨u, hu⟩ := List.isPrefixOf_iff_prefix.1 huse
      have hread : Matcher.readBare? (c :: t) = some ⟨name, u⟩ :=
        Matcher.readBare?_eq_some_iff.2 ⟨hu.symm, hne, hname⟩
      rw [hbare] at hread
      cases hread
    rw [countP_isUseOf_consChar, countUses_cons, hnone, Bool.false_and, if_neg Bool.false_ne_true,
      Nat.add_zero]
    by_cases hnext : (front ++ [c]).endsOpen = false ∨ t.head? = some '>'
    · exact ih hnext
    · -- a bracket stays open, and no name was read behind it: it is never closed
      obtain ⟨hopen, hhead⟩ := not_or.1 hnext
      have hunclosed : '>' ∉ t := by
        intro hmem
        rw [Text.endsOpen_concat] at hopen
        split at hopen
        · rename_i heq
          rw [heq, ← Option.not_isSome_iff_eq_none] at hbare
          exact hbare (Matcher.isSome_readBare?_iff.2 ⟨hmem, hhead⟩)
        · split at hopen
          · exact hopen rfl
          · rename_i hc
            exact hfront.elim hopen fun heq => hc (Option.some.inj heq)
      rw [countUses_eq_zero hunclosed, countP_isUseOf_eq_zero hunclosed]

/-! ## Patterns -/

/-- Typing a parameter leaves its value and its form as they are. -/
theorem isUseOf_typed (name : Text) (table : Option Table) (p : Param) :
    (p.typed table).isUseOf name = p.isUseOf name := by
  unfold Param.typed
  split
  · split <;> rfl
  · rfl

/-- A pattern has as many placeholders of a name as the text of its step. -/
theorem countP_params_ofText (name t : Text) (table : Option Table) :
    (StepPattern.ofText t table).params.countP (Param.isUseOf name) =
      (tokenize t).countP (Token.isUseOf name) := by
  simp only [StepPattern.ofText, StepPattern.tokens, List.filterMap_map, List.countP_filterMap]
  refine List.countP_congr fun token _ => ?_
  cases token with
  | literal text => simp [Token.typed, Token.param?, Token.isUseOf]
  | param p => simp [Token.typed, Token.param?, Token.isUseOf, isUseOf_typed]

/-- A placeholder of a column has the type of the column. -/
theorem type_of_mem_params {table : Table} {p : Param} (hcolumn : name ∈ table.header)
    (hp : p ∈ (StepPattern.ofText t (some table)).params) (huse : p.isUseOf name = true) :
    p.type = table.columnType name := by
  obtain ⟨token, htoken, hparam⟩ := List.mem_filterMap.1 hp
  obtain ⟨source, -, rfl⟩ := List.mem_map.1 htoken
  cases source with
  | literal text => cases hparam
  | param q =>
    obtain rfl : q.typed (some table) = p := Option.some.inj hparam
    rw [isUseOf_typed] at huse
    obtain ⟨hplaceholder, hraw⟩ : q.matcher.isPlaceholder = true ∧ q.raw = name := by
      simpa [Param.isUseOf] using huse
    have hhas : table.hasColumn name = true := List.contains_iff_mem.2 hcolumn
    simp [Param.typed, hplaceholder, hraw, hhas]

/-- **The placeholders of a column** are its clear uses in the step, one for each, and they have the
type of the column.  So no use of a column is missed exactly when none stands behind an open
bracket. -/
theorem placeholders_eq_clearUses (t : Text) (table : Table) {name : Text}
    (hcolumn : name ∈ table.header) (hne : name ≠ []) (hclose : '>' ∉ name) :
    let found := (StepPattern.ofText t (some table)).params.filter (Param.isUseOf name)
    found.length = (clearUses name t).length ∧
      (found.length = (uses name t).length ↔ ∀ cut ∈ uses name t, cut.1.endsOpen = false) ∧
      ∀ p ∈ found, p.type = table.columnType name := by
  intro found
  have hcount : found.length = (clearUses name t).length := by
    rw [length_clearUses, countUses_eq_countP hne hclose (Or.inl rfl), ← countP_params_ofText,
      List.countP_eq_length_filter]
  refine ⟨hcount, ?_, fun p hp => ?_⟩
  · rw [hcount, clearUses, List.length_filter_eq_length_iff]
    simp
  · obtain ⟨hparam, huse⟩ := List.mem_filter.1 hp
    exact type_of_mem_params hcolumn hparam huse

/-- Of three uses the one behind the open bracket is not found. -/
theorem placeholders_of_two_clearUses :
    let table : Table := ⟨["c".toList], [["1".toList], ["x".toList]], by decide⟩
    let t := "pay <c> or \"<c>\" not <<c>".toList
    let found := (StepPattern.ofText t (some table)).params.filter (Param.isUseOf "c".toList)
    (uses "c".toList t).length = 3 ∧ found.length = 2 ∧ ∀ p ∈ found, p.type = .string := by
  intro table t found
  obtain ⟨hcount, -, htype⟩ :=
    placeholders_eq_clearUses t table (show "c".toList ∈ table.header by decide) (by decide)
      (by decide)
  have hclear : (clearUses "c".toList t).length = 2 := by decide +kernel
  have hcolumn : table.columnType "c".toList = .string := by decide +kernel
  refine ⟨by decide +kernel, hcount.trans hclear, fun p hp => ?_⟩
  rw [htype p hp, hcolumn]

/-- Behind an open bracket the scan takes the bracket for a part of the name, so that a use of the
column is not found. -/
theorem not_placeholder_behind_open :
    let table : Table := ⟨["c".toList], [["1".toList]], by decide⟩
    let name := "c".toList
    let t := "<<c>".toList
    name ∈ table.header ∧ name ≠ [] ∧ '<' ∉ name ∧ '>' ∉ name ∧
      (StepPattern.ofText t (some table)).params.filter (Param.isUseOf name) = [] ∧
      (uses name t).length = 1 := by
  refine ⟨by decide, by decide, by decide, by decide, ?_, ?_⟩ <;> decide +kernel

end StorySpec
