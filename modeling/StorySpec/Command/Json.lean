import StorySpec.Text

/-!
# JSON texts

Strings and lists as JSON, laid out over several lines with two spaces for every level.

## Main definitions

* `Json.escape c`: a character as a JSON string has it.
* `Json.string t`: a text as a JSON string.
* `Json.block opening closing level items`: items on lines of their own between two brackets.
-/

namespace StorySpec.Json

/-- The hexadecimal digit of a number below 16. -/
def hexDigit (n : Nat) : Char :=
  (Nat.digitChar n)

/-- A character as a JSON string has it: quotes, backslashes and control characters are escaped,
and everything else stands for itself. -/
def escape (c : Char) : Text :=
  if c = '"' then "\\\"".toList
  else if c = '\\' then "\\\\".toList
  else if c = '\n' then "\\n".toList
  else if c = '\r' then "\\r".toList
  else if c = '\t' then "\\t".toList
  else if c.toNat = 8 then "\\b".toList
  else if c.toNat = 12 then "\\f".toList
  else if c.toNat < 32 then
    "\\u00".toList ++ [hexDigit (c.toNat / 16), hexDigit (c.toNat % 16)]
  else [c]

/-- A text as a JSON string. -/
def string (t : Text) : Text :=
  '"' :: t.flatMap escape ++ ['"']

/-- A truth value. -/
def bool (b : Bool) : Text :=
  if b then "true".toList else "false".toList

/-- A line break and the spaces before what stands at the given level. -/
def newLine (level : Nat) : Text :=
  '\n' :: List.replicate (2 * level) ' '

/-- Items between brackets, each on a line of its own; the brackets stand at the given level.
Without items nothing stands between them. -/
def block (opening closing : Char) (level : Nat) (items : List Text) : Text :=
  if items = [] then [opening, closing]
  else
    opening :: Text.joined [','] (items.map (newLine (level + 1) ++ ·)) ++ newLine level ++
      [closing]

/-- A list whose brackets stand at the given level. -/
def list (level : Nat) (items : List Text) : Text :=
  block '[' ']' level items

/-- An object, given by its keys and values, whose braces stand at the given level. -/
def object (level : Nat) (members : List (Text × Text)) : Text :=
  block '\x7b' '\x7d' level
    (members.map fun member => string member.1 ++ ": ".toList ++ member.2)

end StorySpec.Json
