import StorySpec.Keyword

/-!
# Gherkin documents

What a Gherkin document says: a feature with a background, scenarios, and rules that have
backgrounds and scenarios of their own.  Descriptions, step arguments and the titles of features,
rules and examples are left out, since nothing is made of them.

## Main definitions

* `Gherkin.Document` and its parts.
* `Gherkin.StepType.slot ty`: the slot that a step of the type `ty` plays.
-/

namespace StorySpec.Gherkin

/-- The part that a step plays, where `And` and `But` repeat the part of the step before. -/
inductive StepType where
  | setup
  | action
  | outcome
  deriving DecidableEq, Repr

/-- The slot of the steps of a type. -/
def StepType.slot : StepType → Slot
  | .setup => .setup
  | .action => .action
  | .outcome => .outcome

/-- A step. -/
structure Step where
  /-- The keyword as it is written, with the space after it where it has one. -/
  keyword : Text
  /-- The part that the step plays. -/
  type : StepType
  /-- What follows the keyword. -/
  value : Text
  deriving DecidableEq, Repr

/-- The steps that come before every scenario. -/
structure Background where
  name : Text
  steps : List Step
  deriving DecidableEq, Repr

/-- The examples of a scenario. -/
structure Examples where
  /-- The cells of the table, if there is one. -/
  table : Option (List (List Text))
  deriving DecidableEq, Repr

/-- A scenario or an outline. -/
structure Scenario where
  name : Text
  /-- The tags, without their at signs. -/
  tags : List Text
  steps : List Step
  examples : List Examples
  deriving DecidableEq, Repr

/-- Scenarios under a common rule. -/
structure Rule where
  background : Option Background
  scenarios : List Scenario
  deriving DecidableEq, Repr

/-- A whole document. -/
structure Document where
  /-- The keyword before the title. -/
  keyword : Text
  /-- The background of all scenarios. -/
  background : Option Background
  /-- The scenarios outside of rules. -/
  scenarios : List Scenario
  rules : List Rule
  deriving DecidableEq, Repr

end StorySpec.Gherkin
