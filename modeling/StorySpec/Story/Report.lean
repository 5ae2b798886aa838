import StorySpec.Story

/-!
# Validation of stories

The validation of a story names all of its faults, in a fixed order: those of the header, the lack
of groups, those of each group in turn, and the examples without a group.

## Main definitions

* `Fault`: a fault of a story, and `Fault.message`, its wording.
* `Report`: the faults of a story; the story is valid when there are none.
* `Story.validate s`: the report on the story `s`.
-/

namespace StorySpec

/-- A header line of a story. -/
inductive HeaderField where
  | role
  | want
  | goal
  deriving DecidableEq, Repr

/-- The name of a header line in messages. -/
def HeaderField.name : HeaderField → Text
  | .role => "as_a".toList
  | .want => "i_want".toList
  | .goal => "so_that".toList

/-- A fault of a story.  Groups are numbered from 1. -/
inductive Fault where
  | incompleteHeader (missing : List HeaderField)
  | noBlocks
  /-- A group has neither steps nor examples. -/
  | emptyGroup (index : Nat) (kind : GroupKind)
  /-- A group announces examples and has no table row. -/
  | missingTable (index : Nat)
  /-- A row of a group's table is not as long as its header. -/
  | raggedTable (index row expected found : Nat)
  /-- Examples are announced before there is a group. -/
  | orphanExamples (line : Nat)
  deriving DecidableEq, Repr

/-- The wording of a fault. -/
def Fault.message : Fault → Text
  | .incompleteHeader missing =>
    "incomplete header: missing ".toList ++
      Text.joined ", ".toList (missing.map HeaderField.name)
  | .noBlocks => "no blocks detected".toList
  | .emptyGroup index kind =>
    "group ".toList ++ Text.ofNat index ++ " of type ".toList ++ kind.tag ++ " is empty".toList
  | .missingTable index =>
    "examples block ".toList ++ Text.ofNat index ++ " has no valid table".toList
  | .raggedTable index row expected found =>
    "examples block ".toList ++ Text.ofNat index ++ ": row ".toList ++ Text.ofNat row ++
      " has ".toList ++ Text.ofNat found ++ " columns, expected ".toList ++ Text.ofNat expected
  | .orphanExamples line =>
    "examples block at line ".toList ++ Text.ofNat line ++ " has no open group".toList

/-- The faults of a story. -/
structure Report where
  /-- The faults, in the order in which they are looked for. -/
  faults : List Fault
  deriving DecidableEq, Repr

namespace Report

/-- Whether there are no faults. -/
def isValid (r : Report) : Bool :=
  r.faults.isEmpty

/-- The wordings of the faults. -/
def messages (r : Report) : List Text :=
  r.faults.map Fault.message

/-- The wordings of the faults in one line. -/
def display (r : Report) : Text :=
  Text.joined "; ".toList r.messages

end Report

/-- The faults of a group, which has the given number. -/
def Group.faults (g : Group) (index : Nat) : List Fault :=
  let empty := if g.steps = [] ∧ g.examples = [] then [Fault.emptyGroup index g.kind] else []
  let table :=
    if g.declaresExamples ∨ g.examples ≠ [] then
      match g.table with
      | .ok _ => []
      | .error .missingHeader => [Fault.missingTable index]
      | .error (.raggedRow row expected found) => [Fault.raggedTable index row expected found]
    else []
  empty ++ table

namespace Story

/-- The header lines that are blank. -/
def missingFields (s : Story) : List HeaderField :=
  ([(.role, s.role), (.want, s.want), (.goal, s.goal)].filter fun field : HeaderField × Text =>
    Text.trim field.2 == []).map Prod.fst

/-- The faults of the header. -/
def headerFaults (s : Story) : List Fault :=
  if s.missingFields = [] then [] else [.incompleteHeader s.missingFields]

/-- All faults of a story. -/
def validate (s : Story) : Report where
  faults :=
    s.headerFaults ++ (if s.groups = [] then [.noBlocks] else []) ++
      (s.groups.zipIdx 1).flatMap (fun (g, index) => g.faults index) ++
      s.orphanExamples.map .orphanExamples

end Story

end StorySpec
