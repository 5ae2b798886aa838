import StorySpec.Proofs.Pattern.Decode

/-!
# Skeletons of steps

The skeleton of a step is what is left of its tokens when the values of the parameters are
forgotten: the literal texts, and the types of the parameters between them.  A pattern is the
skeleton in writing, and no two skeletons are written alike.

## Main definitions

* `Piece`: a literal text or the type of a parameter.
* `StepPattern.skeleton t table`: the skeleton of the step text `t`.

## Main results

* `unquote?_pattern`: the outer reader of a pattern finds an expression, and the inner reader of
  that finds the symbols of the skeleton.
* `pattern_eq_iff`: patterns are equal exactly when skeletons are.
-/

namespace StorySpec

/-- What is left of a token when the value of a parameter is forgotten. -/
inductive Piece where
  | literal (text : Text)
  | param (type : ParamType)
  deriving DecidableEq, Repr

/-- The piece that a token leaves. -/
def Token.piece : Token → Piece
  | .literal text => .literal text
  | .param p => .param p.type

/-- The symbols that a piece consists of. -/
def Piece.symbols : Piece → List Symbol
  | .literal text => text.map .literal
  | .param type => [.param type]

/-- A piece as a pattern has it. -/
def Piece.pattern (p : Piece) : Text :=
  (p.symbols.flatMap Symbol.expression).flatMap quoted

/-- The type of the parameter that a piece is. -/
def Piece.type? : Piece → Option ParamType
  | .literal _ => none
  | .param type => some type

/-- The skeleton of a step: its tokens without the values of the parameters. -/
def StepPattern.skeleton (t : Text) (table : Option Table) : List Piece :=
  (tokens t table).map Token.piece

/-! ## Skeletons in writing -/

theorem Token.pattern_eq_piece (token : Token) : token.pattern = token.piece.pattern := by
  cases token with
  | literal text => exact flatMap_escaped_eq text
  | param p =>
    simp only [Token.pattern, Token.piece, Piece.pattern, Piece.symbols, List.flatMap_singleton]
    exact marker_eq_flatMap_quoted p.type

namespace StepPattern

variable (t : Text) (table : Option Table)

/-- A pattern is the skeleton in writing. -/
theorem pattern_ofText : (ofText t table).pattern = (skeleton t table).flatMap Piece.pattern := by
  simp only [ofText, skeleton, List.flatMap_map]
  exact congrArg (List.flatMap · _) (funext Token.pattern_eq_piece)

/-- The parameters of a pattern have the types of the skeleton. -/
theorem types_ofText :
    (ofText t table).params.map Param.type = (skeleton t table).filterMap Piece.type? := by
  simp only [ofText, skeleton, List.map_filterMap, List.filterMap_map]
  refine congrArg (List.filterMap · _) (funext fun token => ?_)
  cases token <;> rfl

/-- The expression within a pattern. -/
theorem pattern_ofText_eq_quoted :
    (ofText t table).pattern =
      (((skeleton t table).flatMap Piece.symbols).flatMap Symbol.expression).flatMap quoted := by
  rw [pattern_ofText, List.flatMap_assoc, List.flatMap_assoc]
  exact congrArg (List.flatMap · _) (funext fun piece => by rw [Piece.pattern, List.flatMap_assoc])

/-- **Both readers of a pattern** undo what was written for them: the outer one finds an
expression, and in that the inner one finds the symbols of the skeleton. -/
theorem unquote?_pattern :
    (unquote? (ofText t table).pattern).bind readExpression? =
      some ((skeleton t table).flatMap Piece.symbols) := by
  rw [pattern_ofText_eq_quoted, unquote?_flatMap_quoted]
  exact readExpression?_flatMap_expression _

end StepPattern

/-! ## Skeletons from their symbols -/

/-- The pieces with a literal character before them; it joins a literal text that is there. -/
def consLiteral (c : Char) : List Piece → List Piece
  | .literal text :: pieces => .literal (c :: text) :: pieces
  | pieces => .literal [c] :: pieces

/-- The pieces that symbols make up, when neighbouring characters belong together. -/
def assemble : List Symbol → List Piece
  | [] => []
  | .literal c :: symbols => consLiteral c (assemble symbols)
  | .param type :: symbols => .param type :: assemble symbols

theorem map_piece_consChar (table : Option Table) (c : Char) (tokens : List Token) :
    ((consChar c tokens).map (Token.typed table)).map Token.piece =
      consLiteral c ((tokens.map (Token.typed table)).map Token.piece) := by
  cases tokens with
  | nil => rfl
  | cons token tokens => cases token <;> rfl

theorem flatMap_symbols_consLiteral (c : Char) (pieces : List Piece) :
    (consLiteral c pieces).flatMap Piece.symbols =
      .literal c :: pieces.flatMap Piece.symbols := by
  cases pieces with
  | nil => rfl
  | cons piece pieces => cases piece <;> rfl

/-- The symbols of a skeleton make up that skeleton: no two of its literal texts are neighbours,
and none is empty. -/
theorem StepPattern.assemble_skeleton (t : Text) (table : Option Table) :
    assemble ((skeleton t table).flatMap Piece.symbols) = skeleton t table := by
  -- as the tokens are found: literal text grows a character at a time, up to the next parameter
  unfold skeleton tokens
  fun_induction tokenize t with
  | case1 => rfl
  | case2 c t p rest h ih =>
    simp only [List.map_cons, List.flatMap_cons, Token.typed, Token.piece, Piece.symbols,
      List.singleton_append, assemble, ih]
  | case3 c t h ih =>
    rw [map_piece_consChar, flatMap_symbols_consLiteral, assemble, ih]

/-- **Patterns are equal exactly when skeletons are**: no two different steps get one pattern. -/
theorem StepPattern.pattern_eq_iff {t u : Text} {table table' : Option Table} :
    (ofText t table).pattern = (ofText u table').pattern ↔
      skeleton t table = skeleton u table' := by
  constructor
  · intro h
    have hsymbols : some ((skeleton t table).flatMap Piece.symbols) =
        some ((skeleton u table').flatMap Piece.symbols) := by
      rw [← unquote?_pattern, ← unquote?_pattern, h]
    rw [← assemble_skeleton t table, ← assemble_skeleton u table', Option.some.inj hsymbols]
  · intro h
    rw [pattern_ofText, pattern_ofText, h]

end StorySpec
