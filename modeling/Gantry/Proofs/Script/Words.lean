import Gantry.Parser.Expression

/-
  This file writes a script's tree as the words that it was
  read from, in order: everything but commas, parentheses
  and layout, which leave no trace in the tree.

  Key definitions include:
    * `Gantry.BinaryOp.kind`
    * `Gantry.Literal.kind`
    * `Gantry.Expr.words`
    * `Gantry.Stmt.words`
    * `Gantry.Program.words`
    * `Gantry.content`
-/

------------------------------------------------------------
-- Operators And Literals
------------------------------------------------------------

namespace Gantry

/- The token of an operator between two operands. -/
def BinaryOp.kind :
    BinaryOp → TokenKind
| .or => .keyword .orWord
| .and => .keyword .andWord
| .equal => .symbol .eqEq
| .notEqual => .symbol .bangEq
| .less => .symbol .less
| .greater => .symbol .greater
| .lessEqual => .symbol .lessEq
| .greaterEqual => .symbol .greaterEq
| .isIn => .keyword .inWord
| .add => .symbol .plus
| .sub => .symbol .minus
| .mul => .symbol .star
| .div => .symbol .slash
| .floorDiv => .symbol .slashSlash
| .mod => .symbol .percent

/- The token of an operator in front of its operand. -/
def UnaryOp.kind :
    UnaryOp → TokenKind
| .neg => .symbol .minus
| .not => .keyword .notWord

/- The token of a literal. -/
def Literal.kind :
    Literal → TokenKind
| .number numeral => .number numeral
| .string text => .string text
| .bool true => .keyword .trueWord
| .bool false => .keyword .falseWord
| .none => .keyword .noneWord

end Gantry

------------------------------------------------------------
-- Words
------------------------------------------------------------

namespace Gantry

namespace Expr

mutual

/- The words of an expression. -/
def words :
    Expr → List TokenKind
| literal value _ => [value.kind]
| name word _ => [.name word]
| list items _ =>
    .symbol .leftBracket ::
      (listWords items ++ [.symbol .rightBracket])
| unary op operand _ => op.kind :: operand.words
| binary op left right _ =>
    left.words ++ op.kind :: right.words
| call callee args _ => callee.words ++ listWords args
| index object key _ =>
    object.words ++
      .symbol .leftBracket ::
        (key.words ++ [.symbol .rightBracket])
| attr object field _ =>
    object.words ++ [.symbol .dot, .name field.name]

/- The words of several expressions. -/
def listWords :
    List Expr → List TokenKind
| [] => []
| item :: items => item.words ++ listWords items

end

end Expr

/- The words of names. -/
def Ident.words
    (names : List Ident) : List TokenKind :=
  names.map fun ident => .name ident.name

mutual

/- The words of a statement. -/
def Stmt.words :
    Stmt → List TokenKind
| .assign target value _ =>
    .name target.name :: .symbol .eq :: value.words
| .setIndex object key value _ =>
    object.words ++
      .symbol .leftBracket ::
        (key.words ++
          .symbol .rightBracket :: .symbol .eq ::
            value.words)
| .branch test body elifs orElse _ =>
    .keyword .ifWord ::
      (test.words ++
        .symbol .colon ::
          (body.words ++
            (Elif.listWords elifs ++
              Block.elseWords orElse)))
| .forLoop target iterable body _ =>
    .keyword .forWord :: .name target.name ::
      .keyword .inWord ::
        (iterable.words ++ .symbol .colon :: body.words)
| .whileLoop test body _ =>
    .keyword .whileWord ::
      (test.words ++ .symbol .colon :: body.words)
| .define name params body _ =>
    .keyword .defWord :: .name name.name ::
      (Ident.words params ++ .symbol .colon :: body.words)
| .returnValue (some value) _ =>
    .keyword .returnWord :: value.words
| .returnValue none _ => [.keyword .returnWord]
| .breakLoop _ => [.keyword .breakWord]
| .continueLoop _ => [.keyword .continueWord]
| .pass _ => [.keyword .passWord]
| .expr expr _ => expr.words

/- The words of several statements. -/
def Stmt.listWords :
    List Stmt → List TokenKind
| [] => []
| stmt :: stmts => stmt.words ++ Stmt.listWords stmts

/- The words of a block. -/
def Block.words :
    Block → List TokenKind
| .mk stmts _ => Stmt.listWords stmts

/- The words of the body for when no condition holds. -/
def Block.elseWords :
    Option Block → List TokenKind
| some body =>
    .keyword .elseWord :: .symbol .colon :: body.words
| none => []

/- The words of a further condition. -/
def Elif.words :
    Elif → List TokenKind
| .mk test body _ =>
    .keyword .elifWord ::
      (test.words ++ .symbol .colon :: body.words)

/- The words of several further conditions. -/
def Elif.listWords :
    List Elif → List TokenKind
| [] => []
| clause :: clauses =>
    clause.words ++ Elif.listWords clauses

end

/- The words of a script. -/
def Program.words
    (program : Program) : List TokenKind :=
  Stmt.listWords program.body

end Gantry

------------------------------------------------------------
-- What A Tree Keeps
------------------------------------------------------------

namespace Gantry

/- Parentheses, commas and layout only group. -/
def TokenKind.groups :
    TokenKind → Bool
| .symbol .leftParen => true
| .symbol .rightParen => true
| .symbol .comma => true
| .newline => true
| .indent => true
| .dedent => true
| _ => false

/- The words among the kinds of tokens. -/
def content
    (tokens : List Token) : List TokenKind :=
  (tokens.map (·.kind)).filter fun kind => !kind.groups

@[simp] theorem content_nil :
    content [] = [] := rfl

@[simp] theorem content_append
    (first second : List Token) :
    content (first ++ second) =
      content first ++ content second := by
  simp [content]

/- A wider text does not change the words. -/
@[simp] theorem Expr.words_withSpan
    (expr : Expr)
    (span : Span) :
    (expr.withSpan span).words = expr.words := by
  cases expr <;> rfl

end Gantry

------------------------------------------------------------
-- Reading Words Back
------------------------------------------------------------

namespace Gantry

namespace Parser

theorem literal?_eq_some_iff
    (kind : TokenKind)
    (value : Literal) :
    literal? kind = some value ↔ kind = value.kind := by
  constructor
  · intro hLiteral
    unfold literal? at hLiteral
    split at hLiteral <;> cases hLiteral <;> rfl
  · rintro rfl
    cases value with
    | bool value => cases value <;> rfl
    | _ => rfl

theorem kind_of_orOp?
    {kind : TokenKind}
    {op : BinaryOp}
    (hOp : orOp? kind = some op) :
    kind = op.kind := by
  unfold orOp? at hOp
  split at hOp
  · cases hOp
    rfl
  · cases hOp

theorem kind_of_andOp?
    {kind : TokenKind}
    {op : BinaryOp}
    (hOp : andOp? kind = some op) :
    kind = op.kind := by
  unfold andOp? at hOp
  split at hOp
  · cases hOp
    rfl
  · cases hOp

theorem kind_of_comparisonOp?
    {kind : TokenKind}
    {op : BinaryOp}
    (hOp : comparisonOp? kind = some op) :
    kind = op.kind := by
  unfold comparisonOp? at hOp
  split at hOp <;> cases hOp <;> rfl

theorem kind_of_sumOp?
    {kind : TokenKind}
    {op : BinaryOp}
    (hOp : sumOp? kind = some op) :
    kind = op.kind := by
  unfold sumOp? at hOp
  split at hOp <;> cases hOp <;> rfl

theorem kind_of_productOp?
    {kind : TokenKind}
    {op : BinaryOp}
    (hOp : productOp? kind = some op) :
    kind = op.kind := by
  unfold productOp? at hOp
  split at hOp <;> cases hOp <;> rfl

end Parser

end Gantry
