import Mathlib.Data.Finset.Card
import Mathlib.Data.Finset.Dedup
import StorySpec.Proofs.Stub.FirstOccurrence

/-!
# Sets of signatures along a run

A set of signatures is given signatures and asked for others, any number of times.  All that it
tells is said by the signatures that it was given: it lists the first of each, in order.  A
collection that is filled from several sections keeps its stubs in the order of its set.

## Main definitions

* `SignatureSet.Request`: what a set is asked to do; `Request.answerAfter inserted r`, the answer
  that it is due.
* `SignatureSet.serve set r`, `SignatureSet.run rs`: the answer to a request and the set after it,
  and those to some requests, from the empty set on.
* `SignatureSet.IsRecordOf set inserted`: the set tells all about the signatures inserted.
* `Collector.ofCalls calls`: the collection from the steps of some sections.

## Main results

* `toList_serve`, `toList_run`: the list of a set after one request, and after a run of them.
* `isRecordOf_of_toList`: the list of a set decides all that it tells.
* `toList_foldl_addSteps`, `stubs_isPrefix_foldl_addSteps`: the stubs of a collection after some
  more sections.
* `signatures_keep_insertion_order`: a run of requests, and a collection from some sections.
-/

namespace StorySpec

namespace SignatureSet

variable {set : SignatureSet} {inserted : List Signature}

/-! ## Requests -/

/-- What a set of signatures is asked to do. -/
inductive Request where
  /-- To take a signature in and to tell whether it is new. -/
  | insert (s : Signature)
  /-- To tell whether a signature is there. -/
  | contains (s : Signature)
  deriving DecidableEq, Repr

/-- The signature that a request gives to the set, if it gives one. -/
def Request.inserted? : Request → Option Signature
  | .insert s => some s
  | .contains _ => none

/-- The answer that is due to a request after the given signatures were inserted. -/
def Request.answerAfter (inserted : List Signature) : Request → Bool
  | .insert s => decide (s ∉ inserted)
  | .contains s => decide (s ∈ inserted)

/-- The answer to a request, and the set after it. -/
def serve (set : SignatureSet) : Request → Bool × SignatureSet
  | .insert s => set.insertNew s
  | .contains s => (set.contains s, set)

/-- The answers to some requests, one after the other from the empty set on, and the set after
them. -/
def run (requests : List Request) : List Bool × SignatureSet :=
  requests.foldl
    (fun before request =>
      let (answer, set) := before.2.serve request
      (before.1 ++ [answer], set))
    ([], empty)

/-- The signatures that some requests insert, as often as they do. -/
def insertions (requests : List Request) : List Signature :=
  requests.filterMap Request.inserted?

/-- What a set tells is right when the given signatures were inserted into it. -/
structure IsRecordOf (set : SignatureSet) (inserted : List Signature) : Prop where
  /-- What is looked up is what is listed. -/
  seen : ∀ s, s ∈ set.seen ↔ s ∈ set.toList
  /-- No signature is listed twice. -/
  distinct : set.toList.Nodup
  /-- The signatures are listed in the order in which they were first inserted. -/
  order : set.toList = inserted.eraseDups
  /-- A signature is there when it was inserted. -/
  contains : ∀ s, set.contains s = true ↔ s ∈ inserted
  /-- A signature is new when it was not. -/
  isNew : ∀ s, (set.insertNew s).1 = true ↔ s ∉ inserted
  /-- A signature that is not new changes nothing. -/
  unchanged : ∀ s, (set.insertNew s).1 = false → (set.insertNew s).2 = set
  /-- The size is the number of distinct signatures. -/
  size : set.size = inserted.toFinset.card
  isEmpty : set.isEmpty = true ↔ inserted = []

/-! ## One request -/

theorem eraseDups_concat (l : List Signature) (s : Signature) :
    (l ++ [s]).eraseDups = if s ∈ l then l.eraseDups else l.eraseDups ++ [s] := by
  rw [List.eraseDups_append]
  split
  · simp [List.removeAll, *]
  · simp [List.removeAll, *, List.eraseDups_cons]

/-- Insertion goes on with the list of first insertions. -/
theorem toList_insertNew (h : set.toList = inserted.eraseDups) (s : Signature) :
    (set.insertNew s).2.toList = (inserted ++ [s]).eraseDups := by
  have hmem : s ∈ set ↔ s ∈ inserted := by
    change s ∈ set.toList ↔ s ∈ inserted
    rw [h, List.mem_eraseDups]
  rw [eraseDups_concat]
  by_cases hs : s ∈ set
  · rw [insertNew_of_mem hs, if_pos (hmem.1 hs), h]
  · rw [insertNew_of_not_mem hs, if_neg fun hs' => hs (hmem.2 hs'), toList_insert_of_not_mem hs, h]

/-- **After one request** the list is still that of first insertions. -/
theorem toList_serve (h : set.toList = inserted.eraseDups) (request : Request) :
    (set.serve request).2.toList = (inserted ++ request.inserted?.toList).eraseDups := by
  cases request with
  | insert s => exact toList_insertNew h s
  | contains s =>
    rw [show (inserted ++ (Request.contains s).inserted?.toList) = inserted from
      List.append_nil inserted]
    exact h

/-- **The list of a set** decides all that the set tells. -/
theorem isRecordOf_of_toList (h : set.toList = inserted.eraseDups) : set.IsRecordOf inserted := by
  have hmem : ∀ s, s ∈ set ↔ s ∈ inserted := by
    intro s
    change s ∈ set.toList ↔ s ∈ inserted
    rw [h, List.mem_eraseDups]
  have hnew : ∀ s, (set.insertNew s).1 = true ↔ s ∉ set := by
    intro s
    by_cases hs : s ∈ set
    · simp [insertNew_of_mem hs, hs]
    · simp [insertNew_of_not_mem hs, hs]
  refine
    { seen := set.mem_seen_iff
      distinct := set.nodup
      order := h
      contains := fun s => contains_iff_mem.trans (hmem s)
      isNew := fun s => (hnew s).trans (not_congr (hmem s))
      unchanged := fun s hold => ?_
      size := ?_
      isEmpty := ?_ }
  · have hs : s ∈ set := by
      by_contra hs
      rw [(hnew s).2 hs] at hold
      cases hold
    rw [insertNew_of_mem hs]
  · have hsame : set.toList.toFinset = inserted.toFinset := by
      ext s
      rw [List.mem_toFinset, List.mem_toFinset]
      exact hmem s
    rw [SignatureSet.size, ← hsame, List.toFinset_card_of_nodup set.nodup]
  · rw [SignatureSet.isEmpty, List.isEmpty_iff, List.eq_nil_iff_forall_not_mem,
      List.eq_nil_iff_forall_not_mem]
    exact forall_congr' fun s => not_congr (hmem s)

theorem IsRecordOf.serve_fst (h : set.IsRecordOf inserted) (request : Request) :
    (set.serve request).1 = request.answerAfter inserted := by
  cases request with
  | insert s =>
    rw [Bool.eq_iff_iff]
    exact (h.isNew s).trans decide_eq_true_iff.symm
  | contains s =>
    rw [Bool.eq_iff_iff]
    exact (h.contains s).trans decide_eq_true_iff.symm

/-! ## Runs of requests -/

theorem run_concat (requests : List Request) (request : Request) :
    run (requests ++ [request]) =
      ((run requests).1 ++ [((run requests).2.serve request).1],
        ((run requests).2.serve request).2) := by
  simp only [run, List.foldl_append, List.foldl_cons, List.foldl_nil]

/-- **After a run of requests** the first insertions are listed. -/
theorem toList_run (requests : List Request) :
    (run requests).2.toList = (insertions requests).eraseDups := by
  -- the run is continued at its end, where the set has served all requests before
  induction requests using List.reverseRecOn with
  | nil => rfl
  | append_singleton requests request ih =>
    rw [run_concat, toList_serve ih, insertions, insertions, List.filterMap_append]
    cases request <;> rfl

theorem isRecordOf_run (requests : List Request) :
    (run requests).2.IsRecordOf (insertions requests) :=
  isRecordOf_of_toList (toList_run requests)

end SignatureSet

/-! ## Collections from several sections -/

namespace Collector

/-- The collection from the steps of some sections, each of which has a table of its own. -/
def ofCalls (calls : List (List Text × Option Table)) : Collector :=
  calls.foldl (fun c call => c.addSteps call.1 call.2) {}

variable {c : Collector}

/-- The signatures of a collection stay those of its stubs through any number of sections. -/
theorem toList_foldl_addSteps (h : c.signatures.toList = c.stubs.map Stub.signature)
    (calls : List (List Text × Option Table)) :
    (calls.foldl (fun c call => c.addSteps call.1 call.2) c).signatures.toList =
      (calls.foldl (fun c call => c.addSteps call.1 call.2) c).stubs.map Stub.signature := by
  induction calls generalizing c with
  | nil => exact h
  | cons call calls ih => exact ih (toList_foldl_addStub h _)

theorem stubs_isPrefix_addSteps (c : Collector) (steps : List Text) (table : Option Table) :
    c.stubs <+: (c.addSteps steps table).stubs :=
  ⟨_, (stubs_foldl_addStub c _).symm⟩

/-- More sections add stubs behind those that are there. -/
theorem stubs_isPrefix_foldl_addSteps (c : Collector)
    (calls : List (List Text × Option Table)) :
    c.stubs <+: (calls.foldl (fun c call => c.addSteps call.1 call.2) c).stubs := by
  induction calls generalizing c with
  | nil => exact List.prefix_refl _
  | cons call calls ih => exact (stubs_isPrefix_addSteps c call.1 call.2).trans (ih _)

theorem stubs_ofCalls_isPrefix (calls more : List (List Text × Option Table)) :
    (ofCalls calls).stubs <+: (ofCalls (calls ++ more)).stubs := by
  rw [ofCalls, ofCalls, List.foldl_append]
  exact stubs_isPrefix_foldl_addSteps _ more

end Collector

theorem sectionStubs_eq_ofCalls (sections : List Section) :
    sectionStubs sections =
      (Collector.ofCalls (sections.map fun s => (s.steps, s.table))).stubs := by
  rw [Collector.ofCalls, List.foldl_map]
  rfl

/-- **Signatures keep the order of insertion.**  Whatever a set of signatures is asked to do, from
the empty set on, it lists the distinct signatures that were inserted, in the order in which they
first were, and all that it tells agrees with that; each request gets the answer that the
insertions before it make due.  And a collection that is filled from any number of sections has
stubs whose signatures are those of its set, in the same order, while more sections put more stubs
behind them. -/
theorem signatures_keep_insertion_order :
    (∀ requests : List SignatureSet.Request,
      (SignatureSet.run requests).2.IsRecordOf (SignatureSet.insertions requests) ∧
        ∀ request, (SignatureSet.run (requests ++ [request])).1 =
          (SignatureSet.run requests).1 ++
            [request.answerAfter (SignatureSet.insertions requests)]) ∧
      (∀ calls : List (List Text × Option Table),
        (Collector.ofCalls calls).stubs.map Stub.signature =
            (Collector.ofCalls calls).signatures.toList ∧
          ∀ more, (Collector.ofCalls calls).stubs <+: (Collector.ofCalls (calls ++ more)).stubs) ∧
      ∀ sections more, sectionStubs sections <+: sectionStubs (sections ++ more) := by
  refine ⟨fun requests => ⟨SignatureSet.isRecordOf_run requests, fun request => ?_⟩,
    fun calls => ⟨?_, Collector.stubs_ofCalls_isPrefix calls⟩, fun sections more => ?_⟩
  · rw [SignatureSet.run_concat, (SignatureSet.isRecordOf_run requests).serve_fst]
  · exact (Collector.toList_foldl_addSteps rfl calls).symm
  · rw [sectionStubs_eq_ofCalls, sectionStubs_eq_ofCalls, List.map_append]
    exact Collector.stubs_ofCalls_isPrefix _ _

example :
    let given : Signature := ⟨"Given".toList, "a user".toList⟩
    let outcome : Signature := ⟨"Then".toList, "a user".toList⟩
    let run := SignatureSet.run [.insert outcome, .insert given, .insert outcome, .contains given]
    run.1 = [true, true, false, true] ∧ run.2.toList = [outcome, given] := by decide

end StorySpec
