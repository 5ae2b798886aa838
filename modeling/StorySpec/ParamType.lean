import StorySpec.Text

/-!
# Parameter types

The types that step patterns give to the changing parts of a step.

## Main definitions

* `ParamType`: the four types.
* `ParamType.name ty`, `ParamType.marker ty`: the name of a type, and the name in braces that
  stands for a parameter in a pattern.
-/

namespace StorySpec

/-- The type of a step parameter. -/
inductive ParamType where
  | string
  | int
  | float
  | boolean
  deriving DecidableEq, Repr

namespace ParamType

/-- The four types. -/
def all : List ParamType :=
  [.string, .int, .float, .boolean]

/-- The name of a type. -/
def name : ParamType → Text
  | .string => "string".toList
  | .int => "int".toList
  | .float => "float".toList
  | .boolean => "boolean".toList

/-- What stands for a parameter in a pattern: the name of its type, in braces. -/
def marker (ty : ParamType) : Text :=
  '\x7b' :: ty.name ++ ['\x7d']

end ParamType

end StorySpec
