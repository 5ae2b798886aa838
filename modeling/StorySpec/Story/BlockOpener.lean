import StorySpec.Story

/-!
# Block openers and language directives

A line in square brackets opens a block of a story: a group of steps, or the examples of the group
before it.  The first line of a story may name its language.

## Main definitions

* `BlockOpener`: a line that opens a block.
* `BlockOpener.ofLine? line`: the block that a line opens.
* `directiveCode? line`: the language code in a directive line.
-/

namespace StorySpec

/-- A line that opens a block. -/
inductive BlockOpener where
  /-- A group of the given kind, with the name it is given. -/
  | group (kind : GroupKind) (tag : Option Text)
  /-- The examples of the group before. -/
  | examples
  deriving DecidableEq, Repr

/-- The tags that open examples. -/
def examplesTags : List Text :=
  ["EXAMPLES".toList, "EXEMPLO".toList, "EXEMPLOS".toList]

/-- Whether a character may stand in brackets: an ASCII letter or an underscore. -/
def isTagChar (c : Char) : Bool :=
  c.isAlpha || c == '_'

/-- Whether a character may stand in the name of a group: an ASCII letter or digit, an underscore
or a hyphen. -/
def isNameChar (c : Char) : Bool :=
  c.isAlphanum || c == '_' || c == '-'

/-- The tag in brackets and the name after it, when the line consists of a tag in brackets and of
an at sign with a name, if it has one. -/
def bracketed? : Text → Option (Text × Option Text)
  | '[' :: t =>
    match t.takeWhile isTagChar, t.dropWhile isTagChar with
    | [], _ => none
    | tag, [']'] => some (tag, none)
    | tag, ']' :: '@' :: name =>
      if name ≠ [] ∧ name.all isNameChar then some (tag, some name) else none
    | _, _ => none
  | _ => none

/-- The block that a line opens.  Other tags in brackets open none. -/
def BlockOpener.ofLine? (line : Text) : Option BlockOpener :=
  match bracketed? (Text.trim line) with
  | none => none
  | some (tag, name) =>
    if Text.upperAscii tag ∈ examplesTags then some .examples
    else match GroupKind.ofTag tag with
      | .ok kind => some (.group kind name)
      | .error _ => none

/-- What follows `word` at the beginning of a text, the case of ASCII letters aside. -/
def afterWord? (word t : Text) : Option Text :=
  if Text.eqIgnoringAsciiCase (t.take word.length) word then some (t.drop word.length) else none

/-- What follows the word `language`, or its abbreviation `lang`, at the beginning of a text. -/
def afterLanguage? (t : Text) : Option Text :=
  (afterWord? "lang".toList t).map fun rest =>
    match afterWord? "uage".toList rest with
    | some rest' => rest'
    | none => rest

/-- The code in a language directive: a line that consists of a number sign, the word `language`
or its abbreviation, a colon and a code without blanks, with blanks between them or not. -/
def directiveCode? : Text → Option Text
  | '#' :: t =>
    match (afterLanguage? (Text.trimStart t)).map Text.trimStart with
    | some (':' :: t') =>
      let code := (Text.trimStart t').takeWhile fun c => !isBlank c
      let rest := (Text.trimStart t').dropWhile fun c => !isBlank c
      if code ≠ [] ∧ Text.trimStart rest = [] then some code else none
    | _ => none
  | _ => none

end StorySpec
