import StorySpec.Text.Blank

/-!
# Parsers

A parser takes something from the beginning of a text, or fails and takes nothing.  Choices are
ordered: a later alternative is tried only where an earlier one fails.  Repetitions take as much
as they can and give nothing back.

## Main definitions

* `Parser α`: parsers of `α`.
* `satisfy p`, `word w`, `oneOf ws`: parsers of characters and of given texts.
* `repeatFrom p s`, `many p`: repetitions, with and without a state that is passed on.
* `sepBy p sep`: repetition with something in between.
-/

namespace StorySpec.Gherkin

/-- A parser takes something from the beginning of a text, or fails. -/
abbrev Parser := StateT Text Option

namespace Parser

variable {α β σ : Type}

/-- A character that satisfies `p`. -/
def satisfy (p : Char → Bool) : Parser Char
  | [] => none
  | c :: t => if p c then some (c, t) else none

/-- The longest run of characters that satisfy `p`, which may be empty. -/
def run (p : Char → Bool) : Parser Text :=
  fun t => some (t.takeWhile p, t.dropWhile p)

/-- Exactly the text `w`. -/
def word (w : Text) : Parser Unit :=
  fun t => (w.isPrefixOf? t).map fun rest => ((), rest)

/-- The first of the texts `ws` that is there, even if a later one is longer. -/
def oneOf (ws : List Text) : Parser Text :=
  fun t => ws.findSome? fun w => (w.isPrefixOf? t).map fun rest => (w, rest)

/-- The end of the text. -/
def atEnd : Parser Unit
  | [] => some ((), [])
  | _ => none

/-- Succeeds where `p` fails, and takes nothing. -/
def notAhead (p : Parser α) : Parser Unit :=
  fun t => if (p t).isSome then none else some ((), t)

/-- Repeats a parser, whose state is passed on, until it fails.  A repetition that takes nothing
ends the whole, too. -/
def repeatFrom (p : σ → Parser (α × σ)) (s : σ) (t : Text) : List α × Text :=
  match p s t with
  | none => ([], t)
  | some ((a, s'), rest) =>
    if rest.length < t.length then
      let others := repeatFrom p s' rest
      (a :: others.1, others.2)
    else ([], t)
termination_by t.length

/-- Repeats a parser until it fails. -/
def many (p : Parser α) : Parser (List α) :=
  fun t => some (repeatFrom (fun _ => (fun a => (a, ())) <$> p) () t)

/-- Repeats a parser, for what it takes only. -/
def skipMany (p : Parser α) : Parser Unit :=
  (fun _ => ()) <$> many p

/-- Repeats a parser, with `sep` between one time and the next; `sep` is not taken at the end. -/
def sepBy (p : Parser α) (sep : Parser β) : Parser (List α) :=
  (do
    let first ← p
    let others ← many (do let _ ← sep; p)
    return first :: others) <|> pure []

end Parser

end StorySpec.Gherkin
