import StorySpec.Text.Blank
import StorySpec.Text.LowerCase

/-!
# Languages

Stories and the documents made from them are written in Portuguese or in English.  A language fixes
the words of a document and the openings by which the three header lines of a story are known.

## Main definitions

* `Language`: the two languages, of which Portuguese is the default.
* `Language.code l`, `Language.ofCode t`: the two-letter code of a language, and its reading.
* `Language.words l`: the words of documents and step files in that language.
* `Language.openers l`: the openings of the role, want and goal lines.

## Main results

* `ofCode_code`: every code is read back.
-/

namespace StorySpec

/-- The language of a story and of the document made from it. -/
inductive Language where
  | portuguese
  | english
  deriving DecidableEq, Repr

instance : Inhabited Language := ⟨.portuguese⟩

/-- The words that documents and step files need in one language. -/
structure Vocabulary where
  /-- The keyword before the title of a document. -/
  feature : Text
  /-- The keyword of a plain scenario. -/
  scenario : Text
  /-- The keyword of a scenario with examples. -/
  outline : Text
  /-- The keyword of an examples table. -/
  examples : Text
  /-- The word that counts the outlines. -/
  exampleTitle : Text
  /-- What stands in a title for a first step without text. -/
  condition : Text
  /-- What stands in a title for a last step without text. -/
  result : Text
  /-- The opening of the pending message of a stub. -/
  pending : Text
  /-- The opening of the heading of a step file. -/
  stepsHeading : Text
  deriving DecidableEq, Repr

/-- The openings, in lower case, of the three header lines of a story.  The longer of two that
begin alike comes first. -/
structure HeaderOpeners where
  /-- Openings of the line that says who asks. -/
  role : List Text
  /-- Openings of the line that says what is wanted. -/
  want : List Text
  /-- Openings of the line that says to what end. -/
  goal : List Text
  deriving DecidableEq, Repr

/-- A language code that is neither of the two. -/
structure UnsupportedLanguage where
  /-- The code, trimmed and in ASCII lower case. -/
  code : Text
  deriving DecidableEq, Repr

/-- The wording of the error. -/
def UnsupportedLanguage.message (e : UnsupportedLanguage) : Text :=
  "unsupported language code `".toList ++ e.code ++ "` (expected pt or en)".toList

namespace Language

/-- Both languages, the default first. -/
def all : List Language :=
  [.portuguese, .english]

/-- The code of a language in directives and settings. -/
def code : Language → Text
  | .portuguese => "pt".toList
  | .english => "en".toList

/-- The other language. -/
def other : Language → Language
  | .portuguese => .english
  | .english => .portuguese

/-- The words of documents and step files. -/
def words : Language → Vocabulary
  | .portuguese =>
    { feature := "Funcionalidade".toList
      scenario := "Cenário".toList
      outline := "Esquema do Cenário".toList
      examples := "Exemplos".toList
      exampleTitle := "Exemplo".toList
      condition := "Condição".toList
      result := "Resultado".toList
      pending := "Implementar passo".toList
      stepsHeading := "Definições de passos para".toList }
  | .english =>
    { feature := "Feature".toList
      scenario := "Scenario".toList
      outline := "Scenario Outline".toList
      examples := "Examples".toList
      exampleTitle := "Example".toList
      condition := "condition".toList
      result := "result".toList
      pending := "Implement step".toList
      stepsHeading := "Step definitions for".toList }

/-- The openings of the header lines. -/
def openers : Language → HeaderOpeners
  | .portuguese =>
    { role := ["eu como".toList, "como".toList]
      want := ["eu quero que".toList, "eu quero".toList, "quero que".toList, "quero".toList]
      goal := ["para que".toList, "para eu".toList, "para".toList] }
  | .english =>
    { role := ["as an".toList, "as a".toList]
      want := ["i want to".toList, "i want".toList]
      goal := ["so that".toList, "in order to".toList] }

/-- The language with a given code, blanks around the code and the case of its letters aside. -/
def ofCode (t : Text) : Except UnsupportedLanguage Language :=
  match all.find? fun l => Text.eqIgnoringAsciiCase (Text.trim t) l.code with
  | some l => .ok l
  | none => .error ⟨Text.lowerAscii (Text.trim t)⟩

theorem mem_all (l : Language) : l ∈ all := by
  cases l <;> decide

@[simp] theorem other_other (l : Language) : l.other.other = l := by
  cases l <;> rfl

/-- Every code is read back. -/
theorem ofCode_code (l : Language) : ofCode l.code = .ok l := by
  cases l <;> rfl

end Language

end StorySpec
