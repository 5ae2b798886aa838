import Mathlib.Data.List.Basic
import StorySpec.Stub

/-!
# Collected stubs are first occurrences

Collecting stubs one after the other, with a set of the signatures that are already there, comes to
keeping the first stub of every signature.  The set goes through all sections of a document.

## Main results

* `eraseDupsBy_map`: first occurrences are kept by a map under which the same elements agree.
* `stubs_foldl_addStub`: what collecting adds to a collection.
* `sectionStubs_eq`: the stubs for a document are the first of each signature.
* `synthesize_eq_singleton`: lines of one signature have one stub.
* `exists_ofLine?_of_mem_synthesize`, `exists_ofLine?_of_mem_sectionStubs`: every stub is the
  stub of a line.
* `toList_foldl_addStub`: the signatures of a collection are those of its stubs, in order.
* `exists_mem_sectionStubs`: every line with a stub has one of its signature in the document.
-/

namespace StorySpec

/-- First occurrences are kept by a map under which the same elements agree. -/
theorem eraseDupsBy_map {α β : Type} {r : α → α → Bool} {q : β → β → Bool} {f : α → β}
    (l : List α) (h : ∀ a ∈ l, ∀ b ∈ l, q (f a) (f b) = r a b) :
    (l.map f).eraseDupsBy q = (l.eraseDupsBy r).map f := by
  -- the list without the elements like its first one is shorter, but no tail of it
  induction hn : l.length using Nat.strongRecOn generalizing l with
  | ind n ih =>
    cases l with
    | nil => rfl
    | cons a l =>
      have hfilter : (l.map f).filter (fun b => q b (f a) = false) =
          (l.filter fun b => r b a = false).map f := by
        rw [List.filter_map]
        refine congrArg (List.map f) (List.filter_congr fun b hb => ?_)
        simp only [Function.comp]
        rw [h b (List.mem_cons_of_mem a hb) a List.mem_cons_self]
      have hshorter : (l.filter fun b => r b a = false).length < n := by
        rw [← hn, List.length_cons]
        exact Nat.lt_succ_of_le (List.length_filter_le _ l)
      have hrest := ih _ hshorter (l.filter fun b => r b a = false)
        (fun b hb c hc => h b (List.mem_cons_of_mem a (List.mem_of_mem_filter hb)) c
          (List.mem_cons_of_mem a (List.mem_of_mem_filter hc))) rfl
      rw [List.map_cons, List.eraseDupsBy_cons, hfilter, hrest, List.eraseDupsBy_cons,
        List.map_cons]

/-- Whether two stubs have one signature. -/
def Stub.sameSignature (a b : Stub) : Bool :=
  a.signature == b.signature

/-- **Collecting stubs** adds the first of each signature that is not yet there. -/
theorem Collector.stubs_foldl_addStub (c : Collector) (stubs : List Stub) :
    (stubs.foldl addStub c).stubs =
      c.stubs ++
        (stubs.filter fun s => !c.signatures.contains s.signature).eraseDupsBy
          Stub.sameSignature := by
  induction stubs generalizing c with
  | nil => simp
  | cons s stubs ih =>
    rw [List.foldl_cons, ih]
    by_cases h : s.signature ∈ c.signatures
    · have hthere := SignatureSet.contains_iff_mem.2 h
      simp [addStub_of_mem h, hthere]
    · have hfilter : ∀ r : Stub,
          (!(c.addStub s).signatures.contains r.signature) =
            (!r.sameSignature s && !c.signatures.contains r.signature) := by
        intro r
        rw [signatures_addStub, ← Bool.not_or, Bool.not_inj_iff, Bool.eq_iff_iff, Bool.or_eq_true]
        simp only [SignatureSet.contains_iff_mem, SignatureSet.mem_insert_iff, Stub.sameSignature,
          beq_iff_eq]
      have hkept : (!c.signatures.contains s.signature) = true := by
        rwa [Bool.not_eq_true', ← Bool.not_eq_true, SignatureSet.contains_iff_mem]
      rw [List.filter_congr fun r _ => hfilter r, List.filter_cons, if_pos hkept,
        List.eraseDupsBy_cons]
      simp [addStub_of_not_mem h, List.filter_filter]

/-- The stubs for a document are collected from all of its steps. -/
theorem sectionStubs_eq_foldl (sections : List Section) :
    sectionStubs sections =
      ((sections.flatMap fun s => s.steps.filterMap (Stub.ofLine? · s.table)).foldl
        Collector.addStub {}).stubs := by
  rw [List.foldl_flatMap]
  rfl

/-- The stubs for a document are those of all its steps, the first of each signature. -/
theorem sectionStubs_eq (sections : List Section) :
    sectionStubs sections =
      (sections.flatMap fun s => s.steps.filterMap (Stub.ofLine? · s.table)).eraseDupsBy
        Stub.sameSignature := by
  have hempty : ∀ s : Stub, (!SignatureSet.empty.contains s.signature) = true := fun _ => rfl
  rw [sectionStubs_eq_foldl, Collector.stubs_foldl_addStub,
    List.filter_eq_self.2 fun s _ => hempty s]
  rfl

/-- **Lines that share a stub** have the one of the first of them. -/
theorem synthesize_eq_singleton {s : Stub} {line : Text} {lines : List Text} {table : Option Table}
    (h : Stub.ofLine? line table = some s)
    (hlines : ∀ other ∈ lines, ∀ r, Stub.ofLine? other table = some r →
      r.signature = s.signature) :
    synthesize (line :: lines) table = [s] := by
  let others := lines.filterMap (Stub.ofLine? · table)
  have hgiven : (line :: lines).filterMap (Stub.ofLine? · table) = s :: others :=
    List.filterMap_cons_some h
  have hsame : others.filter (fun r => Stub.sameSignature r s = false) = [] := by
    refine List.filter_eq_nil_iff.2 fun r hr => ?_
    obtain ⟨other, hother, hstub⟩ := List.mem_filterMap.1 hr
    simp [Stub.sameSignature, hlines other hother r hstub]
  have hempty : ∀ r : Stub, (!SignatureSet.empty.contains r.signature) = true := fun _ => rfl
  rw [synthesize, Collector.addSteps, hgiven, Collector.stubs_foldl_addStub,
    List.filter_eq_self.2 fun r _ => hempty r, List.eraseDupsBy_cons, hsame]
  rfl

/-! ## Where stubs come from -/

variable {s : Stub}

/-- Collecting adds nothing but the stubs it is given. -/
theorem Collector.mem_of_mem_stubs_foldl {c : Collector} {stubs : List Stub}
    (h : s ∈ (stubs.foldl addStub c).stubs) : s ∈ c.stubs ∨ s ∈ stubs := by
  induction stubs generalizing c with
  | nil => exact Or.inl h
  | cons r stubs ih =>
    rcases ih h with hc | hmem
    · by_cases hr : r.signature ∈ c.signatures
      · rw [addStub_of_mem hr] at hc
        exact Or.inl hc
      · rw [addStub_of_not_mem hr] at hc
        rcases List.mem_append.1 hc with hc | hr
        · exact Or.inl hc
        · exact Or.inr (List.mem_cons.2 (Or.inl (List.mem_singleton.1 hr)))
    · exact Or.inr (List.mem_cons_of_mem r hmem)

theorem exists_ofLine?_of_mem_synthesize {steps : List Text} {table : Option Table}
    (h : s ∈ synthesize steps table) : ∃ line ∈ steps, Stub.ofLine? line table = some s := by
  rcases Collector.mem_of_mem_stubs_foldl h with h | h
  · cases h
  · exact List.mem_filterMap.1 h

theorem exists_ofLine?_of_mem_sectionStubs {sections : List Section}
    (h : s ∈ sectionStubs sections) :
    ∃ r ∈ sections, ∃ line ∈ r.steps, Stub.ofLine? line r.table = some s := by
  rw [sectionStubs_eq_foldl] at h
  rcases Collector.mem_of_mem_stubs_foldl h with h | h
  · cases h
  · obtain ⟨r, hr, hs⟩ := List.mem_flatMap.1 h
    exact ⟨r, hr, List.mem_filterMap.1 hs⟩

/-! ## Where stubs go -/

/-- A collection and its set of signatures agree when one stub is collected. -/
theorem Collector.toList_addStub {c : Collector}
    (h : c.signatures.toList = c.stubs.map Stub.signature) (r : Stub) :
    (c.addStub r).signatures.toList = (c.addStub r).stubs.map Stub.signature := by
  by_cases hr : r.signature ∈ c.signatures
  · rw [addStub_of_mem hr, h]
  · rw [addStub_of_not_mem hr, SignatureSet.toList_insert_of_not_mem hr, h, List.map_append,
      List.map_singleton]

/-- The signatures of a collection are those of its stubs, in the order of these. -/
theorem Collector.toList_foldl_addStub {c : Collector}
    (h : c.signatures.toList = c.stubs.map Stub.signature) (stubs : List Stub) :
    (stubs.foldl addStub c).signatures.toList =
      (stubs.foldl addStub c).stubs.map Stub.signature := by
  induction stubs generalizing c with
  | nil => exact h
  | cons r stubs ih => exact ih (toList_addStub h r)

/-- No signature is lost: those of the given stubs are collected, and others stay. -/
theorem Collector.mem_signatures_foldl (c : Collector) (stubs : List Stub) (r : Signature) :
    r ∈ (stubs.foldl addStub c).signatures ↔
      r ∈ c.signatures ∨ ∃ stub ∈ stubs, stub.signature = r := by
  induction stubs generalizing c with
  | nil => simp
  | cons stub stubs ih =>
    rw [List.foldl_cons, ih, signatures_addStub, SignatureSet.mem_insert_iff]
    simp only [List.mem_cons, exists_eq_or_imp, eq_comm (a := r)]
    tauto

/-- **Every line with a stub** has one of its signature in the document. -/
theorem exists_mem_sectionStubs {sections : List Section} {r : Section} {line : Text}
    (hr : r ∈ sections) (hline : line ∈ r.steps) (h : Stub.ofLine? line r.table = some s) :
    ∃ stub ∈ sectionStubs sections, stub.signature = s.signature := by
  rw [sectionStubs_eq_foldl]
  have hgiven : s ∈ sections.flatMap fun r => r.steps.filterMap (Stub.ofLine? · r.table) :=
    List.mem_flatMap.2 ⟨r, hr, List.mem_filterMap.2 ⟨line, hline, h⟩⟩
  have hcollected := (Collector.mem_signatures_foldl {} _ s.signature).2 (Or.inr ⟨s, hgiven, rfl⟩)
  -- the set knows no signature without a stub, as it began without any
  change s.signature ∈ (List.foldl Collector.addStub {} _).signatures.toList at hcollected
  rw [Collector.toList_foldl_addStub rfl] at hcollected
  exact List.mem_map.1 hcollected

/-- **A document has no stubs** exactly when none of its lines has a keyword. -/
theorem Synthesis.ofFeature_eq_noSteps_iff {f : Feature} :
    Synthesis.ofFeature f = .noSteps ↔
      ∀ r ∈ f.sections, ∀ line ∈ r.steps, StepLine.ofText? line = none := by
  have hempty : Synthesis.ofFeature f = .noSteps ↔ sectionStubs f.sections = [] := by
    unfold Synthesis.ofFeature
    split <;> simp [*]
  rw [hempty]
  constructor
  · intro hnil r hr line hline
    by_contra hsome
    obtain ⟨step, hstep⟩ := Option.ne_none_iff_exists'.1 hsome
    obtain ⟨stub, hmem, -⟩ :=
      exists_mem_sectionStubs hr hline (Option.map_eq_some_iff.2 ⟨step, hstep, rfl⟩)
    rw [hnil] at hmem
    cases hmem
  · intro hnone
    refine List.eq_nil_iff_forall_not_mem.2 fun stub hmem => ?_
    obtain ⟨r, hr, line, hline, hstub⟩ := exists_ofLine?_of_mem_sectionStubs hmem
    obtain ⟨step, hstep, -⟩ := Option.map_eq_some_iff.1 hstub
    rw [hnone r hr line hline] at hstep
    cases hstep

end StorySpec
