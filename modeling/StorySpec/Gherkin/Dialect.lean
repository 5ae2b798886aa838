import StorySpec.Text

/-!
# Dialects of Gherkin

A dialect is the set of words by which a Gherkin document marks its parts.  A document names its
dialect by a code; without one it is English.

## Main definitions

* `Gherkin.Dialect`: the words of a dialect.
* `Gherkin.Dialect.ofCode? t`: the dialect with the code `t`.
-/

namespace StorySpec.Gherkin

/-- The words of a dialect.  Of the words for one part, the first that fits is taken. -/
structure Dialect where
  /-- Words before the title of a document. -/
  feature : List Text
  background : List Text
  rule : List Text
  scenario : List Text
  /-- Words for a scenario with examples. -/
  outline : List Text
  examples : List Text
  /-- Keywords of steps that say what holds beforehand. -/
  setup : List Text
  /-- Keywords of steps that say what is done. -/
  action : List Text
  /-- Keywords of steps that say what is expected. -/
  outcome : List Text
  /-- Keywords of steps that say more of what the step before says. -/
  addition : List Text
  /-- Keywords of steps that stand against the step before. -/
  contrast : List Text
  deriving DecidableEq, Repr

namespace Dialect

/-- The texts of string literals. -/
def words (ws : List String) : List Text :=
  ws.map String.toList

/-- English. -/
def english : Dialect where
  feature := words ["Feature", "Business Need", "Ability"]
  background := words ["Background"]
  rule := words ["Rule"]
  scenario := words ["Example", "Scenario"]
  outline := words ["Scenario Outline", "Scenario Template"]
  examples := words ["Examples", "Scenarios"]
  setup := words ["* ", "Given "]
  action := words ["* ", "When "]
  outcome := words ["* ", "Then "]
  addition := words ["* ", "And "]
  contrast := words ["* ", "But "]

/-- Portuguese. -/
def portuguese : Dialect where
  feature := words ["Funcionalidade", "Característica", "Caracteristica"]
  background := words ["Contexto", "Cenário de Fundo", "Cenario de Fundo", "Fundo"]
  rule := words ["Regra"]
  scenario := words ["Exemplo", "Cenário", "Cenario"]
  outline := words [
    "Esquema do Cenário", "Esquema do Cenario", "Delineação do Cenário", "Delineacao do Cenario"]
  examples := words ["Exemplos", "Cenários", "Cenarios"]
  setup := words ["* ", "Dado ", "Dada ", "Dados ", "Dadas "]
  action := words ["* ", "Quando "]
  outcome := words ["* ", "Então ", "Entao "]
  addition := words ["* ", "E "]
  contrast := words ["* ", "Mas "]

/-- Spanish. -/
def spanish : Dialect where
  feature := words ["Característica", "Necesidad del negocio", "Requisito"]
  background := words ["Antecedentes"]
  rule := words ["Regla", "Regla de negocio"]
  scenario := words ["Ejemplo", "Escenario"]
  outline := words ["Esquema del escenario"]
  examples := words ["Ejemplos"]
  setup := words ["* ", "Dado ", "Dada ", "Dados ", "Dadas "]
  action := words ["* ", "Cuando "]
  outcome := words ["* ", "Entonces "]
  addition := words ["* ", "Y ", "E "]
  contrast := words ["* ", "Pero "]

/-- French. -/
def french : Dialect where
  feature := words ["Fonctionnalité"]
  background := words ["Contexte"]
  rule := words ["Règle"]
  scenario := words ["Exemple", "Scénario"]
  outline := words ["Plan du scénario", "Plan du Scénario"]
  examples := words ["Exemples"]
  setup := words [
    "* ", "Soit ", "Sachant que ", "Sachant qu'", "Sachant ", "Etant donné que ",
    "Etant donné qu'", "Etant donné ", "Etant donnée ", "Etant donnés ", "Etant données ",
    "Étant donné que ", "Étant donné qu'", "Étant donné ", "Étant donnée ", "Étant donnés ",
    "Étant données "]
  action := words ["* ", "Quand ", "Lorsque ", "Lorsqu'"]
  outcome := words ["* ", "Alors ", "Donc "]
  addition := words ["* ", "Et que ", "Et qu'", "Et "]
  contrast := words ["* ", "Mais que ", "Mais qu'", "Mais "]

/-- The English of Liverpool. -/
def scouse : Dialect where
  feature := words ["Feature"]
  background := words ["Dis is what went down"]
  rule := words ["Rule"]
  scenario := words ["The thing of it is"]
  outline := words ["Wharrimean is"]
  examples := words ["Examples"]
  setup := words ["* ", "Givun ", "Youse know when youse got "]
  action := words ["* ", "Wun ", "Youse know like when "]
  outcome := words ["* ", "Dun ", "Den youse gotta "]
  addition := words ["* ", "An "]
  contrast := words ["* ", "Buh "]

/-- The words of formal proofs; no blank has to follow a step keyword. -/
def formal : Dialect where
  feature := words ["Section"]
  background := words ["Context"]
  rule := words ["Rule"]
  scenario := words ["Proof", "Evidence"]
  outline := words ["Demonstration"]
  examples := words ["Examples"]
  setup := words ["Given"]
  action := words ["When"]
  outcome := words ["Then"]
  addition := words ["*", "And"]
  contrast := words ["But"]

/-- The dialects and their codes. -/
def table : List (Text × Dialect) :=
  [
    ("en".toList, english),
    ("pt".toList, portuguese),
    ("es".toList, spanish),
    ("fr".toList, french),
    ("en-Scouse".toList, scouse),
    ("formal".toList, formal)
  ]

/-- The dialect with a given code, which has to be written exactly. -/
def ofCode? (t : Text) : Option Dialect :=
  (table.find? fun entry => entry.1 == t).map Prod.snd

/-- The keywords of steps. -/
def stepKeywords (d : Dialect) : List Text :=
  d.setup ++ d.action ++ d.outcome ++ d.addition ++ d.contrast

/-- The words that begin a scenario or a step, and so end a description. -/
def scenarioWords (d : Dialect) : List Text :=
  d.scenario ++ d.outline ++ d.stepKeywords

end Dialect

end StorySpec.Gherkin
