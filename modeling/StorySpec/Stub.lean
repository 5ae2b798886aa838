import StorySpec.Feature
import StorySpec.Pattern
import StorySpec.Step

/-!
# Step stubs

A stub is the skeleton of a step definition.  Steps of one keyword and one pattern share a stub,
which is made from the first of them.

## Main definitions

* `Signature`, `SignatureSet`: the keyword and the pattern of a step, and a set of such pairs that
  remembers the order of insertion.
* `SignatureSet.insertNew set s`: whether `s` is new to a set, and the set with it.
* `Stub`: the skeleton of a step definition.
* `Stub.ofLine? line table`: the stub that a step line would have.
* `Collector`: the stubs collected so far; `Collector.addSteps` adds those of a section.
* `synthesize steps table`: the stubs for some steps.
* `Synthesis.ofFeature f`: the stubs for a document.

## Main results

* `mem_insert_iff`: insertion adds one signature and keeps the others.
* `signatures_addStub`: collecting a stub inserts its signature.
-/

namespace StorySpec

/-- What tells steps apart: a keyword and a pattern. -/
structure Signature where
  /-- The keyword in its canonical spelling. -/
  keyword : Text
  pattern : Text
  deriving DecidableEq, Repr

/-- A set of signatures that remembers the order of insertion.  It keeps its signatures twice, once
in this order and once to tell which of them are there. -/
structure SignatureSet where
  /-- The signatures, the first inserted first. -/
  toList : List Signature
  /-- The signatures in no order that matters; a signature is looked up here. -/
  seen : List Signature
  /-- None of them is listed twice. -/
  nodup : toList.Nodup
  /-- What is listed is what is looked up. -/
  mem_seen_iff : ∀ s, s ∈ seen ↔ s ∈ toList
  deriving DecidableEq, Repr

namespace SignatureSet

/-- The set without signatures. -/
def empty : SignatureSet where
  toList := []
  seen := []
  nodup := List.nodup_nil
  mem_seen_iff := fun _ => Iff.rfl

instance : Membership Signature SignatureSet := ⟨fun set s => s ∈ set.toList⟩

/-- Whether a signature is in the set. -/
def contains (set : SignatureSet) (s : Signature) : Bool :=
  decide (s ∈ set.seen)

theorem contains_iff_mem {set : SignatureSet} {s : Signature} :
    set.contains s = true ↔ s ∈ set :=
  decide_eq_true_iff.trans (set.mem_seen_iff s)

instance (s : Signature) (set : SignatureSet) : Decidable (s ∈ set) :=
  decidable_of_iff _ contains_iff_mem

/-- Whether a signature is new to the set, and the set with it, behind those that were there
before. -/
def insertNew (set : SignatureSet) (s : Signature) : Bool × SignatureSet :=
  if h : s ∈ set.seen then (false, set)
  else
    (true,
      { toList := set.toList ++ [s]
        seen := s :: set.seen
        nodup := by
          rw [List.nodup_append]
          refine ⟨set.nodup, by simp, ?_⟩
          intro a ha b hb
          rw [List.mem_singleton] at hb
          rintro rfl
          exact h ((set.mem_seen_iff s).2 (hb ▸ ha))
        mem_seen_iff := by
          intro r
          rw [List.mem_cons, List.mem_append, List.mem_singleton, set.mem_seen_iff, or_comm] })

/-- The set with one more signature. -/
def insert (set : SignatureSet) (s : Signature) : SignatureSet :=
  (set.insertNew s).2

/-- The number of signatures. -/
def size (set : SignatureSet) : Nat :=
  set.toList.length

/-- Whether there are no signatures. -/
def isEmpty (set : SignatureSet) : Bool :=
  set.toList.isEmpty

/-- Inserting what is there changes nothing. -/
theorem insertNew_of_mem {set : SignatureSet} {s : Signature} (h : s ∈ set) :
    set.insertNew s = (false, set) :=
  dif_pos ((set.mem_seen_iff s).2 h)

theorem insertNew_of_not_mem {set : SignatureSet} {s : Signature} (h : s ∉ set) :
    set.insertNew s = (true, set.insert s) := by
  have hseen : s ∉ set.seen := fun hs => h ((set.mem_seen_iff s).1 hs)
  rw [insert, insertNew, dif_neg hseen]

theorem insert_of_mem {set : SignatureSet} {s : Signature} (h : s ∈ set) : set.insert s = set :=
  congrArg Prod.snd (insertNew_of_mem h)

/-- A signature that is new comes behind the others. -/
theorem toList_insert_of_not_mem {set : SignatureSet} {s : Signature} (h : s ∉ set) :
    (set.insert s).toList = set.toList ++ [s] := by
  have hseen : s ∉ set.seen := fun hs => h ((set.mem_seen_iff s).1 hs)
  rw [insert, insertNew, dif_neg hseen]

/-- Insertion adds one signature and keeps the others. -/
theorem mem_insert_iff {set : SignatureSet} {s r : Signature} :
    r ∈ set.insert s ↔ r = s ∨ r ∈ set := by
  by_cases h : s ∈ set
  · rw [insert_of_mem h]
    exact ⟨Or.inr, fun hr => hr.elim (fun hr => hr ▸ h) id⟩
  · change r ∈ (set.insert s).toList ↔ r = s ∨ r ∈ set.toList
    rw [toList_insert_of_not_mem h, List.mem_append, List.mem_singleton, or_comm]

end SignatureSet

/-- The skeleton of a step definition. -/
structure Stub where
  /-- The keyword in its canonical spelling. -/
  keyword : Text
  pattern : Text
  arguments : List Text
  parameterTypes : List ParamType
  /-- What the step says, parameters and all. -/
  sourceText : Text
  deriving DecidableEq, Repr

namespace Stub

/-- The signature of a stub. -/
def signature (s : Stub) : Signature :=
  ⟨s.keyword, s.pattern⟩

/-- The names of `n` arguments. -/
def argumentNames (n : Nat) : List Text :=
  (List.range' 1 n).map fun i => "arg".toList ++ Text.ofNat i

/-- The stub that a line would have; only lines with a keyword have one. -/
def ofLine? (line : Text) (table : Option Table) : Option Stub :=
  (StepLine.ofText? line).map fun step =>
    let built := StepPattern.ofText step.text table
    { keyword := step.slot.word step.language
      pattern := built.pattern
      arguments := argumentNames built.params.length
      parameterTypes := built.params.map Param.type
      sourceText := step.text }

end Stub

/-- The stubs collected so far and their signatures. -/
structure Collector where
  /-- The signatures that need no further stub. -/
  signatures : SignatureSet := .empty
  /-- The stubs, the first collected first. -/
  stubs : List Stub := []
  deriving DecidableEq, Repr

namespace Collector

/-- The collection with a stub, if its signature is new. -/
def addStub (c : Collector) (s : Stub) : Collector :=
  match c.signatures.insertNew s.signature with
  | (true, signatures) => { signatures, stubs := c.stubs ++ [s] }
  | (false, signatures) => { c with signatures }

theorem addStub_of_mem {c : Collector} {s : Stub} (h : s.signature ∈ c.signatures) :
    c.addStub s = c := by
  rw [addStub, SignatureSet.insertNew_of_mem h]

theorem addStub_of_not_mem {c : Collector} {s : Stub} (h : s.signature ∉ c.signatures) :
    c.addStub s =
      { signatures := c.signatures.insert s.signature, stubs := c.stubs ++ [s] } := by
  rw [addStub, SignatureSet.insertNew_of_not_mem h]

/-- Collecting a stub inserts its signature, be it new or not. -/
theorem signatures_addStub (c : Collector) (s : Stub) :
    (c.addStub s).signatures = c.signatures.insert s.signature := by
  by_cases h : s.signature ∈ c.signatures
  · rw [addStub_of_mem h, SignatureSet.insert_of_mem h]
  · rw [addStub_of_not_mem h]

/-- The collection with the stubs of the given steps. -/
def addSteps (c : Collector) (steps : List Text) (table : Option Table) : Collector :=
  (steps.filterMap (Stub.ofLine? · table)).foldl addStub c

end Collector

/-- The stubs for some steps. -/
def synthesize (steps : List Text) (table : Option Table) : List Stub :=
  (({} : Collector).addSteps steps table).stubs

/-- The stubs for one document. -/
structure StepFile where
  /-- The name of the document, without extension. -/
  featureName : Text
  /-- The language of the document. -/
  language : Language
  stubs : List Stub
  deriving DecidableEq, Repr

/-- What the stubs for a document come to. -/
inductive Synthesis where
  | noSteps
  | stubs (file : StepFile)
  deriving DecidableEq, Repr

/-- The stubs for the sections of a document; one signature has one stub in the whole of it. -/
def sectionStubs (sections : List Section) : List Stub :=
  (sections.foldl (fun c s => c.addSteps s.steps s.table) ({} : Collector)).stubs

/-- The stubs for a document. -/
def Synthesis.ofFeature (f : Feature) : Synthesis :=
  if sectionStubs f.sections = [] then .noSteps
  else
    .stubs
      { featureName := f.fileName, language := f.language, stubs := sectionStubs f.sections }

/-- The stubs for a document are in a step file with the name and the language of the document. -/
theorem Synthesis.eq_of_ofFeature {f : Feature} {file : StepFile}
    (h : Synthesis.ofFeature f = .stubs file) :
    file =
      { featureName := f.fileName, language := f.language, stubs := sectionStubs f.sections } := by
  unfold Synthesis.ofFeature at h
  split at h
  · cases h
  · exact (Synthesis.stubs.inj h).symm

end StorySpec
