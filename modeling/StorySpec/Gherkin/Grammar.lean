import StorySpec.Gherkin.Dialect
import StorySpec.Gherkin.Document
import StorySpec.Gherkin.Parser

/-!
# The grammar of Gherkin

A Gherkin document is a feature with tags, a description, a background, scenarios and rules.  All
of it has to be understood, or nothing is.

A description takes every line that does not begin with a tag or with a word for one of the parts
that may follow it.  A step that adds to another one needs a step before it in its list.

## Main definitions

* `Gherkin.document`: the parser of a whole document.
* `Gherkin.Document.ofText? t`: the document in `t`.
-/

namespace StorySpec.Gherkin

open StorySpec.Gherkin.Parser

/-! ## Spaces, line ends and comments -/

/-- Whether a character is a space or a tab. -/
def isSpace (c : Char) : Bool :=
  c == ' ' || c == '\t'

/-- Spaces and tabs, or nothing. -/
def spaces : Parser Unit :=
  (fun _ => ()) <$> run isSpace

/-- A line break: a line feed, and a carriage return before it or not. -/
def newline : Parser Unit :=
  (do word ['\r']; word ['\n']) <|> word ['\n']

/-- The text up to the next line break, and what begins there. -/
def splitLine : Text → Text × Text
  | [] => ([], [])
  | '\n' :: t => ([], '\n' :: t)
  | '\r' :: '\n' :: t => ([], '\r' :: '\n' :: t)
  | c :: t => (c :: (splitLine t).1, (splitLine t).2)

/-- The rest of a line, which must not be empty. -/
def restOfLine : Parser Text :=
  fun t => if (splitLine t).1 = [] then none else some (splitLine t)

/-- A comment: from a number sign, with spaces before it or not, to the end of the line. -/
def remark : Parser Unit := do
  spaces
  word ['#']
  fun t => some ((), (splitLine t).2)

/-- The end of a line, where a comment may stand. -/
def lineEnd : Parser Unit := do
  let _ ← optional remark
  newline

/-- Spaces, line ends and comments, or nothing. -/
def gap : Parser Unit :=
  skipMany ((fun _ => ()) <$> satisfy isSpace <|> lineEnd)

/-- The end of a line and all blank lines and comments after it, or the end of the text. -/
def blockEnd : Parser Unit :=
  (do
    let blank := lineEnd <|> (fun _ => ()) <$> satisfy isSpace
    blank
    skipMany blank) <|> atEnd

/-- A comment on lines of its own. -/
def comment : Parser Unit := do
  remark
  blockEnd

/-! ## Words, tags and descriptions -/

/-- One of the words `ws`, after comments. -/
def keyword (ws : List Text) : Parser Text := do
  skipMany comment
  oneOf ws

/-- A tag, without its at sign. -/
def tag : Parser Text := do
  word ['@']
  let isTagChar (c : Char) : Bool := !isBlank c && c != '@'
  let first ← satisfy isTagChar
  let rest ← run isTagChar
  return first :: rest

/-- The tags before a part of the document. -/
def tags : Parser (List Text) := do
  let found ← sepBy tag gap
  spaces
  skipMany lineEnd
  return found

/-- A line of a description, which ends where a tag or one of the words `ws` comes. -/
def descriptionLine (ws : List Text) : Parser Unit := do
  spaces
  notAhead (word ['@'])
  notAhead (keyword ws)
  spaces
  let _ ← restOfLine
  blockEnd

/-- A description, which may be empty. -/
def description (ws : List Text) : Parser Unit := do
  let _ ← sepBy (descriptionLine ws) spaces
  gap

/-- A title behind a colon, which may be missing, and the end of its line. -/
def title : Parser Text := do
  word [':']
  spaces
  let written ← optional restOfLine
  spaces
  blockEnd
  return Text.trimEnd (written.getD [])

/-! ## Tables and quoted blocks -/

/-- Whether a text begins with a line break or is at its end. -/
def lineIsOver : Parser Unit :=
  newline <|> atEnd

/-- The text up to the next bar or line break, which may be empty. -/
def cellText : Parser Text :=
  fun t =>
    let (line, rest) := splitLine t
    some (line.takeWhile (· != '|'), line.dropWhile (· != '|') ++ rest)

/-- A cell and the bar before it. -/
def cell : Parser Text := do
  word ['|']
  spaces
  notAhead lineIsOver
  return Text.trim (← cellText)

/-- A row of a table. -/
def row : Parser (List Text) := do
  let found ← sepBy cell spaces
  spaces
  word ['|']
  spaces
  blockEnd
  return found

/-- A table, in which no row may be shorter than the first; longer ones are cut. -/
def table : Parser (List (List Text)) := do
  spaces
  let first ← row
  let others ← many (do spaces; row)
  if others.all fun r => first.length ≤ r.length then
    return first :: others.map (·.take first.length)
  else failure

/-- A quoted block between two of the given marks. -/
def quotedBlock (mark : Text) : Parser Unit := do
  word mark
  skipMany (do
    notAhead (word mark)
    lineEnd <|> (fun _ => ()) <$> satisfy fun _ => true)
  word mark
  blockEnd

/-- The quoted block of a step. -/
def docString : Parser Unit :=
  quotedBlock "\"\"\"".toList <|> quotedBlock "```".toList

/-! ## Steps -/

/-- What follows the keyword of a step: its text, and a quoted block or a table. -/
def stepRest (written : Text) (type : StepType) : Parser Step := do
  spaces
  let value ← restOfLine
  spaces
  blockEnd
  spaces
  let _ ← optional docString
  let _ ← optional table
  return { keyword := written, type, value := Text.trimEnd value }

/-- A step whose keyword says by itself which part the step plays. -/
def ownStep (ws : List Text) (type : StepType) : Parser Step := do
  let written ← keyword ws
  stepRest written type

/-- A step that plays the part of the step before. -/
def addedStep (ws : List Text) (last : Option StepType) : Parser Step := do
  let written ← keyword ws
  match last with
  | some type => stepRest written type
  | none => failure

/-- A step, when the step before has the type `last`. -/
def step (d : Dialect) (last : Option StepType) : Parser Step :=
  ownStep d.setup .setup <|> ownStep d.action .action <|> ownStep d.outcome .outcome <|>
    addedStep d.addition last <|> addedStep d.contrast last

/-- The steps of a background or a scenario. -/
def steps (d : Dialect) : Parser (List Step) :=
  fun t => some (repeatFrom (fun last => do
    spaces
    let s ← step d last
    return (s, some s.type)) none t)

/-! ## Scenarios, rules and documents -/

/-- A background. -/
def background (d : Dialect) : Parser Background := do
  skipMany comment
  spaces
  let _ ← keyword d.background
  let name ← title
  description d.scenarioWords
  let found ← steps d
  return { name, steps := found }

/-- Examples of a scenario. -/
def examples (d : Dialect) : Parser Examples := do
  skipMany comment
  spaces
  let _ ← tags
  spaces
  let _ ← keyword d.examples
  let _ ← title
  description (d.scenarioWords ++ [['|']])
  let found ← optional table
  return { table := found }

/-- A scenario that is marked by one of the words `ws`. -/
def scenarioMarked (d : Dialect) (ws : List Text) : Parser Scenario := do
  skipMany comment
  spaces
  let labels ← tags
  spaces
  let _ ← keyword ws
  let name ← title
  description d.scenarioWords
  let found ← steps d
  let tables ← many (examples d)
  return { name, tags := labels, steps := found, examples := tables }

/-- A scenario or an outline. -/
def scenario (d : Dialect) : Parser Scenario :=
  scenarioMarked d d.scenario <|> scenarioMarked d d.outline

/-- Scenarios one after the other. -/
def scenarios (d : Dialect) : Parser (List Scenario) := do
  spaces
  sepBy (scenario d) spaces

/-- A rule. -/
def rule (d : Dialect) : Parser Rule := do
  spaces
  let _ ← tags
  spaces
  let _ ← keyword d.rule
  let _ ← title
  description (d.background ++ d.scenario ++ d.outline)
  let before ← optional (background d)
  skipMany lineEnd
  let found ← scenarios d
  skipMany lineEnd
  return { background := before, scenarios := found }

/-- The code of the dialect in a directive before the document. -/
def directive : Parser Text := do
  skipMany ((fun _ => ()) <$> satisfy isSpace <|> newline)
  word ['#']
  spaces
  word "language".toList
  spaces
  word [':']
  spaces
  let code ← restOfLine
  spaces
  lineEnd
  return code

/-- A feature, which is all of the text. -/
def feature (d : Dialect) : Parser Document := do
  skipMany lineEnd
  let _ ← tags
  let written ← keyword d.feature
  let _ ← title
  description (d.background ++ d.rule ++ d.scenario ++ d.outline)
  let before ← optional (background d)
  skipMany lineEnd
  let outside ← scenarios d
  skipMany lineEnd
  spaces
  let grouped ← sepBy (rule d) spaces
  skipMany lineEnd
  atEnd
  return { keyword := written, background := before, scenarios := outside, rules := grouped }

/-- A document: a directive, if there is one, and a feature in the dialect that it names. -/
def document : Parser Document := do
  spaces
  match ← optional directive with
  | none => feature .english
  | some code =>
    match Dialect.ofCode? code with
    | some d => feature d
    | none => failure

/-- The text with a line break at its end. -/
def closeLastLine (t : Text) : Text :=
  if t.getLast? = some '\n' then t else t ++ ['\n']

/-- The document that a text holds. -/
def Document.ofText? (t : Text) : Option Document :=
  (document (closeLastLine t)).map Prod.fst

end StorySpec.Gherkin
