import StorySpec.Proofs.Gherkin.Parser
import StorySpec.Proofs.Pattern.Reading
import StorySpec.Proofs.Stub.FirstOccurrence
import StorySpec.Stub.File

/-!
# Step files read back

A step file is read by the rules of quoting alone: a text in double quotes and one in single quotes
end at the first quote that no backslash goes before.  What the steps say is in such texts only, so
no step can end one of them early and add something to the file, and the stubs are found again.

## Main definitions

* `singleQuoted?`: the meaning of a text in single quotes.
* `Block`, `nextBlock`: a block of a step file, and its parser.
* `readBlocks? t`: the blocks that the text `t` consists of.

## Main results

* `singleQuoted?_append`: a text in single quotes ends where it was meant to.
* `isReadable_of_ofLine?`: whatever a step says, its stub can be read.
* `nextBlock_write`, `many_nextBlock`: a block is read as its stub, and a list of blocks as a list
  of stubs.
* `readBlocks?_render`: a step file is read as the stubs that it was made from.
-/

namespace StorySpec

open Gherkin (Parser)
open Gherkin.Parser

variable {t rest : Text} {s : Stub}

/-! ## Texts in single quotes -/

/-- The meaning of a text in single quotes, up to the quote that ends it.  A backslash takes the
meaning from a quote or a backslash after it; before any other character it stands for itself. -/
def singleQuoted? : Parser Text
  | [] => none
  | '\'' :: t => some ([], t)
  | '\\' :: c :: t =>
    if c = '\'' ∨ c = '\\' then (singleQuoted? t).map fun x => (c :: x.1, x.2)
    else (singleQuoted? (c :: t)).map fun x => ('\\' :: x.1, x.2)
  | c :: t => (singleQuoted? t).map fun x => (c :: x.1, x.2)

/-- A text in single quotes ends where it was meant to. -/
theorem singleQuoted?_append (t rest : Text) :
    singleQuoted? (singleQuoted t ++ '\'' :: rest) = some (t, rest) := by
  induction t with
  | nil => rfl
  | cons c t ih =>
    rw [show singleQuoted (c :: t) =
      (if c = '\'' ∨ c = '\\' then ['\\', c] else [c]) ++ singleQuoted t from rfl,
      List.append_assoc]
    split
    · rename_i hc
      simp [singleQuoted?, hc, ih]
    · rename_i hc
      rw [not_or] at hc
      simp [singleQuoted?, hc.1, hc.2, ih]

theorem singleQuoted_append (t u : Text) :
    singleQuoted (t ++ u) = singleQuoted t ++ singleQuoted u :=
  List.flatMap_append

/-! ## Blocks -/

/-- A block of a step file. -/
structure Block where
  keyword : Text
  /-- The body of the text in double quotes, as it is written. -/
  pattern : Text
  /-- The names between the bars; none where there are no bars. -/
  arguments : Option (List Text)
  /-- What the text in single quotes means. -/
  message : Text
  deriving DecidableEq, Repr

/-- The keywords of both languages. -/
def Keyword.words : List Text :=
  Language.all.flatMap ofLanguage

/-- The name of an argument: ASCII letters and digits. -/
def argumentName : Parser Text := do
  let name ← Parser.run Char.isAlphanum
  if name = [] then failure else return name

/-- The names of arguments between bars. -/
def argumentList : Parser (List Text) := do
  word " |".toList
  let names ← sepBy argumentName (word ", ".toList)
  word ['|']
  return names

/-- A block, from its keyword to the blank line behind it. -/
def nextBlock : Parser Block := do
  let keyword ← oneOf Keyword.words
  word "(\"".toList
  let pattern ← doubleQuoted
  word ") do".toList
  let arguments ← optional argumentList
  word "\n  pending '".toList
  let message ← singleQuoted?
  word "\nend\n\n".toList
  return { keyword, pattern, arguments, message }

/-- The blocks that a text consists of; there are none when anything is left over. -/
def readBlocks? (t : Text) : Option (List Block) :=
  match many nextBlock t with
  | some (blocks, []) => some blocks
  | _ => none

/-- The block that a stub has in a file whose messages begin with `pending`. -/
def Stub.block (s : Stub) (pending : Text) : Block where
  keyword := s.keyword
  pattern := s.pattern
  arguments := if s.arguments = [] then none else some s.arguments
  message := pending ++ ": ".toList ++ s.sourceText

/-! ## Arguments -/

/-- A word that may name an argument. -/
structure IsArgumentName (name : Text) : Prop where
  ne_nil : name ≠ []
  chars : ∀ c ∈ name, c.isAlphanum = true

theorem isArgumentName_of_mem_argumentNames {n : Nat} {name : Text}
    (h : name ∈ Stub.argumentNames n) : IsArgumentName name := by
  obtain ⟨i, -, rfl⟩ := List.mem_map.1 h
  refine ⟨by simp, fun c hc => ?_⟩
  rcases List.mem_append.1 hc with hc | hc
  · have hword : ("arg".toList).all Char.isAlphanum = true := by decide
    exact List.all_eq_true.1 hword c hc
  · have hdigit : c.isDigit = true := Nat.isDigit_of_mem_toDigits (by decide) (by decide) hc
    simp [Char.isAlphanum, hdigit]

theorem argumentName_append {name : Text} (h : IsArgumentName name)
    (hrest : ∀ c ∈ rest.head?, c.isAlphanum = false) :
    argumentName (name ++ rest) = some (name, rest) := by
  rw [argumentName, bind_apply, run_append h.chars hrest, Option.bind_some, if_neg h.ne_nil]
  rfl

/-- A list of names behind the first one: a comma before each, and the bar that ends the list. -/
def behindName (names : List Text) (rest : Text) : Text :=
  names.flatMap (", ".toList ++ ·) ++ '|' :: rest

theorem argumentName_behindName {name : Text} (h : IsArgumentName name) (names : List Text)
    (rest : Text) :
    argumentName (name ++ behindName names rest) = some (name, behindName names rest) := by
  refine argumentName_append h ?_
  cases names <;> simp [behindName]

theorem many_behindName {names : List Text} (h : ∀ name ∈ names, IsArgumentName name) :
    many (do word ", ".toList; argumentName) (behindName names rest) =
      some (names, '|' :: rest) := by
  induction names with
  | nil => exact many_of_none rfl
  | cons name names ih =>
    have hone : (do word ", ".toList; argumentName : Parser Text)
        (behindName (name :: names) rest) = some (name, behindName names rest) := by
      have hname := argumentName_behindName (h name List.mem_cons_self) names rest
      rw [show behindName (name :: names) rest = ", ".toList ++ (name ++ behindName names rest) by
        simp [behindName], bind_apply, word_append, Option.bind_some, hname]
    have hshorter : (behindName names rest).length < (behindName (name :: names) rest).length := by
      simp [behindName]
      omega
    rw [many_cons hone hshorter, ih fun n hn => h n (List.mem_cons_of_mem name hn)]
    rfl

theorem joined_append_bar (name : Text) (names : List Text) (rest : Text) :
    Text.joined ", ".toList (name :: names) ++ '|' :: rest = name ++ behindName names rest := by
  induction names generalizing name with
  | nil => simp [behindName]
  | cons next names ih =>
    rw [Text.joined_cons_cons, List.append_assoc, ih]
    simp [behindName]

/-- The arguments of a block are read where there are any. -/
theorem optional_argumentList {names : List Text} (h : ∀ name ∈ names, IsArgumentName name)
    (rest : Text) :
    optional argumentList (blockArguments names ++ '\n' :: rest) =
      some (if names = [] then none else some names, '\n' :: rest) := by
  cases names with
  | nil => exact optional_of_none rfl
  | cons name names =>
    have harguments : blockArguments (name :: names) ++ '\n' :: rest =
        " |".toList ++ (name ++ behindName names ('\n' :: rest)) := by
      rw [← joined_append_bar, blockArguments, if_neg (by simp)]
      simp
    refine optional_of_some ?_
    rw [harguments, argumentList, bind_apply, word_append, Option.bind_some, bind_apply,
      sepBy_cons (argumentName_behindName (h name List.mem_cons_self) names _),
      many_behindName fun n hn => h n (List.mem_cons_of_mem name hn)]
    rfl

/-! ## Stubs that can be read -/

/-- A stub whose block is read as it was written. -/
structure Stub.IsReadable (s : Stub) : Prop where
  keyword : ∃ slot language, s.keyword = Slot.word slot language
  pattern : ∃ e, unquote? s.pattern = some e
  arguments : ∀ name ∈ s.arguments, IsArgumentName name
  /-- There are as many arguments as parameters in the pattern. -/
  aligned : ∃ pieces, readPattern? s.pattern = some pieces ∧
    (pieces.filterMap Piece.type?).length = s.arguments.length

theorem length_argumentNames (n : Nat) : (Stub.argumentNames n).length = n := by
  simp [Stub.argumentNames]

/-- **Whatever a step says**, its stub can be read. -/
theorem Stub.isReadable_of_ofLine? {line : Text} {table : Option Table}
    (h : Stub.ofLine? line table = some s) : s.IsReadable := by
  obtain ⟨step, -, rfl⟩ := Option.map_eq_some_iff.1 h
  refine ⟨⟨step.slot, step.language, rfl⟩, StepPattern.exists_unquote?_pattern step.text table,
    fun name => isArgumentName_of_mem_argumentNames, _,
    StepPattern.readPattern?_ofText step.text table, ?_⟩
  rw [← StepPattern.types_ofText, List.length_map]
  exact (length_argumentNames _).symm

/-! ## Blocks of stubs -/

theorem oneOf_words (slot : Slot) (language : Language) (rest : Text) :
    oneOf Keyword.words (slot.word language ++ '(' :: rest) =
      some (slot.word language, '(' :: rest) := by
  cases slot <;> cases language <;> rfl

/-- The words before a message need no escaping. -/
theorem singleQuoted_pending (language : Language) :
    singleQuoted (language.words.pending ++ ": ".toList) =
      language.words.pending ++ ": ".toList := by
  cases language <;> decide

/-- **A block is read** as its stub, whatever follows it. -/
theorem nextBlock_write (h : s.IsReadable) (language : Language) (rest : Text) :
    nextBlock (s.write language.words.pending ++ rest) =
      some (s.block language.words.pending, rest) := by
  obtain ⟨⟨slot, own, hkeyword⟩, ⟨e, hpattern⟩, harguments, -⟩ := h
  have hmessage : language.words.pending ++ (": ".toList ++ (singleQuoted s.sourceText ++
      ("'\nend\n\n".toList ++ rest))) =
      singleQuoted (language.words.pending ++ ": ".toList ++ s.sourceText) ++
        '\'' :: ("\nend\n\n".toList ++ rest) := by
    rw [singleQuoted_append, singleQuoted_pending]
    simp
  have hwrite : s.write language.words.pending ++ rest =
      slot.word own ++ '(' :: '"' :: (s.pattern ++ '"' :: (") do".toList ++
        (blockArguments s.arguments ++ '\n' :: ("  pending '".toList ++
          (singleQuoted (language.words.pending ++ ": ".toList ++ s.sourceText) ++
            '\'' :: ("\nend\n\n".toList ++ rest)))))) := by
    rw [← hmessage, Stub.write, hkeyword]
    simp
  -- words that end or begin with a character at which something else is read
  have hopen : ∀ u : Text, word "(\"".toList ('(' :: '"' :: u) = some ((), u) :=
    fun u => word_append "(\"".toList u
  have hpending : ∀ u : Text, word "\n  pending '".toList ('\n' :: ("  pending '".toList ++ u)) =
      some ((), u) := fun u => word_append "\n  pending '".toList u
  rw [hwrite, nextBlock, bind_apply, oneOf_words, Option.bind_some, bind_apply, hopen,
    Option.bind_some, bind_apply, doubleQuoted_of_unquote? hpattern, Option.bind_some, bind_apply,
    word_append, Option.bind_some, bind_apply, optional_argumentList harguments, Option.bind_some,
    bind_apply, hpending, Option.bind_some, bind_apply, singleQuoted?_append, Option.bind_some,
    bind_apply, word_append, Option.bind_some, pure_apply, Stub.block, hkeyword]

/-- **Blocks are read** one after the other, and nothing is left over. -/
theorem many_nextBlock {stubs : List Stub} (h : ∀ s ∈ stubs, s.IsReadable) (language : Language) :
    many nextBlock (stubs.flatMap (Stub.write · language.words.pending)) =
      some (stubs.map (Stub.block · language.words.pending), []) := by
  induction stubs with
  | nil => exact many_of_none rfl
  | cons s stubs ih =>
    have hone := nextBlock_write (h s List.mem_cons_self) language
      (stubs.flatMap (Stub.write · language.words.pending))
    have hshorter : (stubs.flatMap (Stub.write · language.words.pending)).length <
        (s.write language.words.pending ++
          stubs.flatMap (Stub.write · language.words.pending)).length := by
      simp [Stub.write]
      omega
    rw [List.flatMap_cons, many_cons hone hshorter, ih fun r hr => h r (List.mem_cons_of_mem s hr)]
    rfl

/-! ## Step files -/

/-- **A step file is read** as the stubs that it was made from, whatever the steps say: behind the
heading there is a block for each of them and nothing else, with its pattern, its arguments and its
text, and with as many arguments as the pattern has parameters. -/
theorem StepFile.readBlocks?_render {f : StepFile}
    (h : (∃ steps table, f.stubs = synthesize steps table) ∨
      ∃ feature file, Synthesis.ofFeature feature = .stubs file ∧ f.stubs = file.stubs) :
    (∃ body, f.render = f.heading ++ body ∧
      readBlocks? body = some (f.stubs.map (Stub.block · f.language.words.pending))) ∧
    ∀ s ∈ f.stubs, ∃ pieces, readPattern? s.pattern = some pieces ∧
      (pieces.filterMap Piece.type?).length = s.arguments.length := by
  have hreadable : ∀ s ∈ f.stubs, s.IsReadable := by
    intro s hs
    rcases h with ⟨steps, table, hstubs⟩ | ⟨feature, file, hfile, hstubs⟩
    · rw [hstubs] at hs
      obtain ⟨line, -, hline⟩ := exists_ofLine?_of_mem_synthesize hs
      exact Stub.isReadable_of_ofLine? hline
    · rw [hstubs, Synthesis.eq_of_ofFeature hfile] at hs
      obtain ⟨r, -, line, -, hline⟩ := exists_ofLine?_of_mem_sectionStubs hs
      exact Stub.isReadable_of_ofLine? hline
  refine ⟨⟨_, rfl, ?_⟩, fun s hs => (hreadable s hs).aligned⟩
  rw [readBlocks?, many_nextBlock hreadable f.language]

/-- A step whose text tries to end every text in quotes that it comes to stand in, and to go on with
code. -/
def hostileText : Text :=
  "it's \\\") do |x| #\x7bexit\x7d '\nend\n\nThen(\"<n>\") do \\".toList

/-- The step file of the hostile step and of a step without parameters. -/
def hostileFile : StepFile where
  featureName := "hostile".toList
  language := .english
  stubs := synthesize ["Given ".toList ++ hostileText, "When I wait".toList] none

/-- The hostile step stays within its block. -/
theorem readBlocks?_hostileFile :
    hostileFile.stubs.map Stub.sourceText = [hostileText, "I wait".toList] ∧
      ∃ body, hostileFile.render = hostileFile.heading ++ body ∧
        readBlocks? body = some (hostileFile.stubs.map (Stub.block · "Implement step".toList)) := by
  refine ⟨by decide +kernel, ?_⟩
  exact (StepFile.readBlocks?_render (Or.inl ⟨_, _, rfl⟩)).1

end StorySpec
