import StorySpec.Language
import StorySpec.Table

/-!
# Stories

A user story has three header lines, which say who wants what to what end, and groups of steps.
Each group shows one kind of behaviour, and may have examples.

## Main definitions

* `GroupKind`: the kinds of behaviour.
* `GroupKind.tag k`, `GroupKind.label k l`: the kind as stories name it, and as titles do.
* `GroupKind.ofTag t`: the kind with a given tag.
* `Group`, `Story`: a group of steps, and a story.

## Main results

* `ofTag_tag`: every tag is read back.
-/

namespace StorySpec

/-- The kind of behaviour that a group shows. -/
inductive GroupKind where
  /-- Shared preconditions. -/
  | context
  /-- What should happen. -/
  | success
  /-- The expected failure of an operation. -/
  | failure
  /-- An error of the system. -/
  | error
  /-- An exceptional course of events. -/
  | exception
  /-- The validation of inputs. -/
  | validation
  /-- Authorisation. -/
  | permission
  /-- Boundary values. -/
  | edgeCase
  /-- Speed and load. -/
  | performance
  /-- A business rule. -/
  | rule
  deriving DecidableEq, Repr

/-- A tag that names no kind of group. -/
structure UnknownGroupKind where
  /-- The tag, trimmed and in ASCII upper case. -/
  tag : Text
  deriving DecidableEq, Repr

/-- The wording of the error. -/
def UnknownGroupKind.message (e : UnknownGroupKind) : Text :=
  "unknown block kind: ".toList ++ e.tag

namespace GroupKind

/-- The kinds, in the order in which they are listed. -/
def all : List GroupKind :=
  [.context, .success, .failure, .error, .exception, .validation, .permission, .edgeCase,
    .performance, .rule]

/-- The kind as stories name it. -/
def tag : GroupKind → Text
  | .context => "CONTEXT".toList
  | .success => "SUCCESS".toList
  | .failure => "FAILURE".toList
  | .error => "ERROR".toList
  | .exception => "EXCEPTION".toList
  | .validation => "VALIDATION".toList
  | .permission => "PERMISSION".toList
  | .edgeCase => "EDGE_CASE".toList
  | .performance => "PERFORMANCE".toList
  | .rule => "RULE".toList

/-- The kind as the titles of scenarios name it. -/
def label : GroupKind → Language → Text
  | .context, .portuguese => "Contexto".toList
  | .success, .portuguese => "Teste Positivo".toList
  | .failure, .portuguese => "Teste Negativo".toList
  | .error, .portuguese => "Teste de Erro".toList
  | .exception, .portuguese => "Teste de Exceção".toList
  | .validation, .portuguese => "Teste de Validação".toList
  | .permission, .portuguese => "Teste de Permissão".toList
  | .edgeCase, .portuguese => "Teste de Limite".toList
  | .performance, .portuguese => "Teste de Desempenho".toList
  | .rule, .portuguese => "Regra de Negócio".toList
  | .context, .english => "Context".toList
  | .success, .english => "Positive test".toList
  | .failure, .english => "Negative test".toList
  | .error, .english => "Error test".toList
  | .exception, .english => "Exception test".toList
  | .validation, .english => "Validation test".toList
  | .permission, .english => "Permission test".toList
  | .edgeCase, .english => "Boundary test".toList
  | .performance, .english => "Performance test".toList
  | .rule, .english => "Business rule".toList

/-- The kind with a given tag, blanks around the tag and the case of its letters aside. -/
def ofTag (t : Text) : Except UnknownGroupKind GroupKind :=
  let upper := Text.upperAscii (Text.trim t)
  match all.find? fun k => k.tag == upper with
  | some k => .ok k
  | none => .error ⟨upper⟩

/-- Every tag is read back. -/
theorem ofTag_tag (k : GroupKind) : ofTag k.tag = .ok k := by
  cases k <;> rfl

end GroupKind

/-- A group of steps that show one kind of behaviour. -/
structure Group where
  kind : GroupKind
  /-- The name given to the group on its opening line. -/
  tag : Option Text := none
  steps : List Text := []
  examples : List Text := []
  /-- Whether examples are announced. -/
  declaresExamples : Bool := false
  deriving DecidableEq, Repr

namespace Group

/-- Whether the group is shown as an outline: it has lines of examples. -/
def isOutline (g : Group) : Bool :=
  g.examples != []

/-- The table of the examples. -/
def table (g : Group) : Except TableError Table :=
  Table.ofLines g.examples

end Group

/-- A user story.  A header line that is missing is empty. -/
structure Story where
  /-- The language of the story and of the document made from it. -/
  language : Language := .portuguese
  /-- The line that says who asks. -/
  role : Text := []
  /-- The line that says what is wanted. -/
  want : Text := []
  /-- The line that says to what end. -/
  goal : Text := []
  groups : List Group := []
  /-- The numbers of the lines that announce examples before there is a group. -/
  orphanExamples : List Nat := []
  deriving DecidableEq, Repr

end StorySpec
