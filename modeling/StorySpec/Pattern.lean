import StorySpec.Pattern.Token
import StorySpec.Table

/-!
# Step patterns

A pattern is the text of a step with the name of its type, in braces, in place of every parameter.
It is written for two readers.  The inner one takes it as an expression in which `(`, `{`, `/` and
`\` have a meaning, so that each of them gets a backslash.  The outer one takes that expression as
a text in double quotes, in which `"`, `#` and `\` have one, so that each of them gets another.

## Main definitions

* `Param.typed p table`: the parameter with the type that its column has.
* `StepPattern.tokens t table`: the tokens of a step with their types.
* `StepPattern.ofText t table`: the pattern of a step and its parameters.
* `escaped c`: a literal character as a pattern has it.
-/

namespace StorySpec

/-- The parameter with the type of the column that it names, if it is a placeholder and the table
has that column. -/
def Param.typed (p : Param) (table : Option Table) : Param :=
  match table with
  | some t =>
    if p.matcher.isPlaceholder && t.hasColumn p.raw then { p with type := t.columnType p.raw }
    else p
  | none => p

/-- The token with the type of the column that it names. -/
def Token.typed (table : Option Table) : Token → Token
  | .literal text => .literal text
  | .param p => .param (p.typed table)

/-- A literal character as a pattern has it. -/
def escaped (c : Char) : Text :=
  if c = '(' ∨ c = '\x7b' ∨ c = '/' then ['\\', '\\', c]
  else if c = '\\' then ['\\', '\\', '\\', '\\']
  else if c = '"' ∨ c = '#' then ['\\', c]
  else [c]

/-- A token as a pattern has it. -/
def Token.pattern : Token → Text
  | .literal text => text.flatMap escaped
  | .param p => p.type.marker

/-- The parameter that a token is. -/
def Token.param? : Token → Option Param
  | .literal _ => none
  | .param p => some p

/-- A pattern and the parameters that it stands for. -/
structure StepPattern where
  pattern : Text
  /-- The parameters, in the order of their appearance. -/
  params : List Param
  deriving DecidableEq, Repr

namespace StepPattern

/-- The tokens of a step, with the types that the table gives to its placeholders. -/
def tokens (t : Text) (table : Option Table) : List Token :=
  (tokenize t).map (Token.typed table)

/-- The pattern of a step. -/
def ofText (t : Text) (table : Option Table) : StepPattern where
  pattern := (tokens t table).flatMap Token.pattern
  params := (tokens t table).filterMap Token.param?

end StepPattern

end StorySpec
