import StorySpec.Feature.OfDocument
import StorySpec.Proofs.Step
import StorySpec.Proofs.Stub.FirstOccurrence

/-!
# No step of a document is lost

The parts of a document that have steps are its backgrounds and its scenarios, those of the rules
behind the others.  Each of them becomes a section, and each of its steps becomes a line that is
read as that step again: the keyword is known, since an unknown one is replaced, and it ends where
the space behind it stands, whatever the text of the step begins with.

## Main definitions

* `Gherkin.Part`: a background or a scenario.
* `Gherkin.Document.parts d`: the parts of a document, in order.
* `Gherkin.Step.reading s l`: what the line of a step is read as.

## Main results

* `sections_eq_map_parts`: the sections are those of the parts.
* `ofText?_line`: the line of a step is read as that step.
* `ofDocument_keeps_steps`: every step has its line, and every line has its stub.
-/

namespace StorySpec

namespace Gherkin

/-! ## Parts -/

/-- A part of a document that has steps. -/
inductive Part where
  | background (b : Background)
  | scenario (s : Scenario)
  deriving DecidableEq, Repr

namespace Part

def steps : Part → List Step
  | .background b => b.steps
  | .scenario s => s.steps

/-- The section of a part. -/
def toSection (l : Language) : Part → Section
  | .background b => b.toSection l
  | .scenario s => s.toSection l

theorem steps_toSection (l : Language) (part : Part) :
    (part.toSection l).steps = part.steps.map (Step.line · l) := by
  cases part <;> rfl

end Part

/-- A background, if there is one, and the scenarios behind it. -/
def blockParts (before : Option Background) (found : List Scenario) : List Part :=
  (before.map Part.background).toList ++ found.map Part.scenario

/-- The parts of a document: its own, and then those of one rule after the other. -/
def Document.parts (d : Document) : List Part :=
  blockParts d.background d.scenarios ++
    d.rules.flatMap fun r => blockParts r.background r.scenarios

theorem blockSections_eq_map (before : Option Background) (found : List Scenario) (l : Language) :
    blockSections before found l = (blockParts before found).map (Part.toSection l) := by
  cases before <;> simp [blockSections, blockParts, Part.toSection, Function.comp_def]

/-- **The sections of a document** are those of its parts. -/
theorem Document.sections_eq_map_parts (d : Document) :
    d.sections = d.parts.map (Part.toSection d.language) := by
  simp only [Document.sections, Document.parts, blockSections_eq_map, List.map_append,
    List.map_flatMap]

/-! ## Steps -/

namespace Step

/-- What the line of a step is read as, in a document of the language `l`.  A keyword that is known
says by itself what it plays and in which language; for another one the type of the step says the
former. -/
def reading (s : Step) (l : Language) : StepLine :=
  match Keyword.recognise? (Text.trim s.keyword) with
  | some (language, slot) =>
    { slot, language, word := Text.trim s.keyword, text := Text.trim s.value }
  | none =>
    { slot := s.type.slot, language := l, word := s.type.slot.word l, text := Text.trim s.value }

/-- **The line of a step** is read as that step. -/
theorem ofText?_line (s : Step) (l : Language) :
    StepLine.ofText? (s.line l) = some (s.reading l) := by
  have hvalue : Text.trim (Text.trim s.value) = Text.trim s.value := Text.trim_trim _
  cases hknown : Keyword.recognise? (Text.trim s.keyword) with
  | some known =>
    simpa [line, word, reading, hknown] using StepLine.ofText?_append hknown hvalue
  | none =>
    simpa [line, word, reading, hknown] using
      StepLine.ofText?_append (Keyword.recognise?_word s.type.slot l) hvalue

/-- The signature of the stub that a step needs, under a table for its placeholders. -/
def signature (s : Step) (l : Language) (table : Option Table) : Signature where
  keyword := (s.reading l).slot.word (s.reading l).language
  pattern := (StepPattern.ofText (Text.trim s.value) table).pattern

@[simp] theorem text_reading (s : Step) (l : Language) :
    (s.reading l).text = Text.trim s.value := by
  unfold reading
  split <;> rfl

/-- The line of a step has a stub with the signature that the step needs and with the types of its
parameters. -/
theorem exists_ofLine?_line (s : Step) (l : Language) (table : Option Table) :
    ∃ stub, Stub.ofLine? (s.line l) table = some stub ∧ stub.signature = s.signature l table ∧
      stub.parameterTypes =
        (StepPattern.ofText (Text.trim s.value) table).params.map Param.type := by
  rw [Stub.ofLine?, ofText?_line]
  refine ⟨_, rfl, ?_, ?_⟩ <;> simp only [Stub.signature, signature, text_reading]

end Step

/-- The lines of a part are read as its steps, one for one. -/
theorem Part.map_ofText?_toSection (l : Language) (part : Part) :
    (part.toSection l).steps.map StepLine.ofText? =
      part.steps.map fun s => some (s.reading l) := by
  simp only [steps_toSection, List.map_map, Function.comp_def, Step.ofText?_line]

end Gherkin

open Gherkin

section Document

variable (name t : Text) (d : Document)

/-- The sections of what a document comes to. -/
theorem sections_ofDocument :
    (Feature.ofDocument name t d).sections = d.parts.map (Part.toSection d.language) :=
  d.sections_eq_map_parts

/-- There are no stubs for a document exactly when no part of it has a step. -/
theorem ofFeature_ofDocument_eq_noSteps_iff :
    Synthesis.ofFeature (Feature.ofDocument name t d) = .noSteps ↔
      ∀ part ∈ d.parts, part.steps = [] := by
  rw [Synthesis.ofFeature_eq_noSteps_iff, sections_ofDocument, List.forall_mem_map]
  refine forall₂_congr fun part _ => ?_
  rw [part.steps_toSection, List.forall_mem_map, List.eq_nil_iff_forall_not_mem]
  simp only [Step.ofText?_line, reduceCtorEq, imp_false]

variable {d} {part : Part} {s : Step}

/-- **Every step of a document** has the stub that it needs. -/
theorem exists_stub_of_mem_steps (hpart : part ∈ d.parts) (hs : s ∈ part.steps) :
    ∃ file, Synthesis.ofFeature (Feature.ofDocument name t d) = .stubs file ∧
      file.stubs = sectionStubs (Feature.ofDocument name t d).sections ∧
      ∃ stub ∈ file.stubs,
        stub.signature = s.signature d.language (part.toSection d.language).table := by
  cases hfile : Synthesis.ofFeature (Feature.ofDocument name t d) with
  | noSteps =>
    rw [(ofFeature_ofDocument_eq_noSteps_iff name t d).1 hfile part hpart] at hs
    cases hs
  | stubs file =>
    obtain ⟨stub, hstub, hsignature, -⟩ :=
      s.exists_ofLine?_line d.language (part.toSection d.language).table
    have hsection : part.toSection d.language ∈ (Feature.ofDocument name t d).sections := by
      rw [sections_ofDocument]
      exact List.mem_map_of_mem hpart
    have hline : s.line d.language ∈ (part.toSection d.language).steps := by
      rw [part.steps_toSection]
      exact List.mem_map.2 ⟨s, hs, rfl⟩
    have hstubs : file.stubs = sectionStubs (Feature.ofDocument name t d).sections :=
      congrArg StepFile.stubs (Synthesis.eq_of_ofFeature hfile)
    refine ⟨file, rfl, hstubs, ?_⟩
    rw [hstubs, ← hsignature]
    exact exists_mem_sectionStubs hsection hline hstub

end Document

/-- **No step of a document is lost.**  The sections are those of the backgrounds and scenarios, in
the order of the document; the lines of each are read as its steps, one for one, with the trimmed
texts of these and with the slots of their own keywords where these are known.  So there are no
stubs only when there are no steps, and every step has the stub that it needs. -/
theorem ofDocument_keeps_steps (name t : Text) (d : Document) :
    let f := Feature.ofDocument name t d
    f.sections = d.parts.map (Part.toSection f.language) ∧
      (∀ part ∈ d.parts, (part.toSection f.language).steps.map StepLine.ofText? =
        part.steps.map fun s => some (s.reading f.language)) ∧
      (Synthesis.ofFeature f = .noSteps ↔ ∀ part ∈ d.parts, part.steps = []) ∧
      ∀ part ∈ d.parts, ∀ s ∈ part.steps,
        ∃ file, Synthesis.ofFeature f = .stubs file ∧
          ∃ stub ∈ file.stubs,
            stub.signature = s.signature f.language (part.toSection f.language).table := by
  intro f
  refine ⟨sections_ofDocument name t d, fun part _ => part.map_ofText?_toSection _,
    ofFeature_ofDocument_eq_noSteps_iff name t d, fun part hpart s hs => ?_⟩
  obtain ⟨file, hfile, -, hstub⟩ := exists_stub_of_mem_steps name t hpart hs
  exact ⟨file, hfile, hstub⟩

end StorySpec
