import StorySpec.Proofs.Pattern.Literal
import StorySpec.Proofs.Stub.OfStory

/-!
# Steps that differ in a value

A stub is made from the skeleton of a step, which the values of its parameters do not belong to.  A
quoted text or a numeral may be replaced by another one of its kind without a change to the
skeleton, so that the steps with the one and with the other share a stub; it says what the step that
comes first says.

## Main results

* `skeleton_eq_of_replacement`: another value for a literal parameter leaves the skeleton as it is.
* `literal_values_share_stub`: steps that differ in the value of a literal parameter.
-/

namespace StorySpec

variable {t t' w : Text} {p : Param} {front back : List Token}

/-- The type of a literal parameter does not come from a table. -/
theorem Param.typed_of_not_isPlaceholder (h : p.matcher.isPlaceholder = false)
    (table : Option Table) : p.typed table = p := by
  cases table <;> simp [Param.typed, h]

/-- **Another value** for a literal parameter leaves the skeleton as it is. -/
theorem skeleton_eq_of_replacement (ht : tokenize t = front ++ .param p :: back)
    (hw : IsReplacement p.matcher p.raw w) (table : Option Table) :
    StepPattern.skeleton (withValue front p back w) table = StepPattern.skeleton t table := by
  have hliteral := hw.isPlaceholder_eq_false
  have hold : p.typed table = p := Param.typed_of_not_isPlaceholder hliteral table
  have hnew : Param.typed { p with raw := w } table = { p with raw := w } :=
    Param.typed_of_not_isPlaceholder (p := { p with raw := w }) hliteral table
  simp [StepPattern.skeleton, StepPattern.tokens, ht, tokenize_replacement ht hw, Token.typed,
    Token.piece, hold, hnew]

/-- A line that is made of a keyword and a text has the stub of its sketch. -/
theorem ofLine?_append {keyword : Text} {l : Language} {slot : Slot}
    (hkeyword : Keyword.recognise? keyword = some (l, slot)) (t : Text) (table : Option Table) :
    Stub.ofLine? (keyword ++ ' ' :: t) table =
      some (StepSketch.stub
        ⟨slot, StepPattern.skeleton (Text.trim t) table, Text.trim t⟩ l) := by
  have hlength : (StepPattern.ofText (Text.trim t) table).params.length =
      ((StepPattern.skeleton (Text.trim t) table).filterMap Piece.type?).length := by
    rw [← StepPattern.types_ofText, List.length_map]
  simp only [Stub.ofLine?, StepLine.ofText?_append_trim hkeyword, Option.map_some,
    StepSketch.stub, StepPattern.pattern_ofText, StepPattern.types_ofText, hlength]

/-- **Steps that differ in a value.**  When another quoted text stands for a quoted text of a step,
or another numeral of its shape for a numeral, no other token changes, and the pattern and the types
of the parameters are the same with every table.  So the two steps, with any one keyword before
them, have the same stub but for what it says of its origin, and together they have one stub, which
is that of the step that comes first. -/
theorem literal_values_share_stub (ht : tokenize t = front ++ .param p :: back)
    (hw : IsReplacement p.matcher p.raw w) :
    let t' := withValue front p back w
    withValue front p back p.raw = t ∧
      tokenize t' = front ++ .param { p with raw := w } :: back ∧
      ∀ table : Option Table,
        (StepPattern.ofText t' table).pattern = (StepPattern.ofText t table).pattern ∧
        (StepPattern.ofText t' table).params.map Param.type =
          (StepPattern.ofText t table).params.map Param.type ∧
        ∀ keyword : Text, Keyword.recognise? keyword ≠ none →
          let line := keyword ++ ' ' :: t
          let line' := keyword ++ ' ' :: t'
          ∃ stub : Stub, stub.sourceText = Text.trim t ∧
            Stub.ofLine? line table = some stub ∧
            Stub.ofLine? line' table = some { stub with sourceText := Text.trim t' } ∧
            synthesize [line, line'] table = [stub] ∧
            synthesize [line', line] table = [{ stub with sourceText := Text.trim t' }] := by
  intro t'
  refine ⟨withValue_raw ht, tokenize_replacement ht hw, fun table => ?_⟩
  have hskeleton := skeleton_eq_of_replacement ht hw table
  refine ⟨?_, ?_, fun keyword hknown => ?_⟩
  · rw [StepPattern.pattern_ofText, StepPattern.pattern_ofText, hskeleton]
  · rw [StepPattern.types_ofText, StepPattern.types_ofText, hskeleton]
  obtain ⟨⟨l, slot⟩, hkeyword⟩ := Option.ne_none_iff_exists'.1 hknown
  intro line line'
  obtain ⟨front', back', htrim, htrim'⟩ := exists_trim_withValue ht hw
  have hsame : StepPattern.skeleton (Text.trim t') table =
      StepPattern.skeleton (Text.trim t) table := by
    rw [htrim']
    exact skeleton_eq_of_replacement htrim hw table
  have hline := ofLine?_append hkeyword t table
  have hline' := ofLine?_append hkeyword t' table
  rw [hsame] at hline'
  refine ⟨_, rfl, hline, hline', ?_, ?_⟩
  · refine synthesize_eq_singleton hline fun other hother r hr => ?_
    rw [List.mem_singleton.1 hother, hline'] at hr
    cases hr
    rfl
  · refine synthesize_eq_singleton hline' fun other hother r hr => ?_
    rw [List.mem_singleton.1 hother, hline] at hr
    cases hr
    rfl

/-- Two orders that differ in a price. -/
theorem order_lines_share_stub :
    let front := tokenize "order \"tea\" at ".toList
    let back := tokenize ".7 <unit> ".toList
    let price : Param := ⟨"12.5".toList, .number, .int⟩
    let line := "Given order \"tea\" at 12.5.7 <unit> ".toList
    let line' := "Given order \"tea\" at 3.25.7 <unit> ".toList
    tokenize (withValue front price back "3.25".toList) =
        front ++ .param { price with raw := "3.25".toList } :: back ∧
      ∃ stub : Stub, stub.sourceText = "order \"tea\" at 12.5.7 <unit>".toList ∧
        synthesize [line, line'] none = [stub] := by
  intro front back price line line'
  have ht : tokenize "order \"tea\" at 12.5.7 <unit> ".toList =
      front ++ .param price :: back := by decide +kernel
  have hw : IsReplacement price.matcher price.raw "3.25".toList :=
    .fraction ⟨"12".toList, "5".toList, rfl, by decide, by decide⟩
      ⟨"3".toList, "25".toList, rfl, by decide, by decide⟩
  obtain ⟨-, htokens, hshared⟩ := literal_values_share_stub ht hw
  obtain ⟨-, -, hkeyword⟩ := hshared none
  obtain ⟨stub, hsource, -, -, hstubs, -⟩ := hkeyword "Given".toList (by decide +kernel)
  have htrim : Text.trim "order \"tea\" at 12.5.7 <unit> ".toList =
      "order \"tea\" at 12.5.7 <unit>".toList := by decide +kernel
  have hline' : "Given".toList ++ ' ' :: withValue front price back "3.25".toList = line' := by
    decide +kernel
  rw [hline'] at hstubs
  exact ⟨htokens, stub, hsource.trans htrim, hstubs⟩

end StorySpec
