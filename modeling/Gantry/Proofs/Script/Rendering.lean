import Gantry.Proofs.Script.Words
import Gantry.Proofs.Script.Shape

/-
  This file writes a script's tree as the kinds of a token
  stream. Every statement ends its line, a block is indented,
  and an expression is put in parentheses just where it binds
  less tightly than its place asks for.

  Key definitions include:
    * `Gantry.Expr.level`
    * `Gantry.Expr.render`
    * `Gantry.Expr.renderAt`
    * `Gantry.Stmt.render`
    * `Gantry.Program.render`
    * `Gantry.TokenKind.binds`
    * `Gantry.Opens`

  Main statements:
    * `Gantry.Expr.opens_render`
    * `Gantry.Stmt.starts_render`
-/

------------------------------------------------------------
-- Levels
------------------------------------------------------------

namespace Gantry

/- How tightly an operator binds its operands. -/
def BinaryOp.level :
    BinaryOp → Nat
| .or => 1
| .and => 2
| .add => 5
| .sub => 5
| .mul => 6
| .div => 6
| .floorDiv => 6
| .mod => 6
| _ => 4

def UnaryOp.level :
    UnaryOp → Nat
| .not => 3
| .neg => 7

/-
  How tightly an expression holds together. One that can take
  a suffix as it stands holds together best.
-/
def Expr.level :
    Expr → Nat
| .unary op _ _ => op.level
| .binary op _ _ _ => op.level
| _ => 8

/-
  The level at which a token carries on the expression before
  it, or zero if no expression goes on with it.
-/
def TokenKind.binds :
    TokenKind → Nat
| .keyword .orWord => 1
| .keyword .andWord => 2
| .keyword .inWord => 4
| .symbol .eqEq => 4
| .symbol .bangEq => 4
| .symbol .less => 4
| .symbol .greater => 4
| .symbol .lessEq => 4
| .symbol .greaterEq => 4
| .symbol .plus => 5
| .symbol .minus => 5
| .symbol .star => 6
| .symbol .slash => 6
| .symbol .slashSlash => 6
| .symbol .percent => 6
| .symbol .leftParen => 8
| .symbol .leftBracket => 8
| .symbol .dot => 8
| _ => 0

@[simp] theorem BinaryOp.binds_kind
    (op : BinaryOp) :
    op.kind.binds = op.level := by
  cases op <;> rfl

theorem BinaryOp.level_lt
    (op : BinaryOp) :
    op.level < 8 := by
  cases op <;> decide

theorem UnaryOp.level_lt
    (op : UnaryOp) :
    op.level < 8 := by
  cases op <;> decide

theorem Expr.level_pos
    (expr : Expr) :
    0 < expr.level := by
  cases expr with
  | unary op operand span =>
      rw [level]
      cases op <;> decide
  | binary op left right span =>
      rw [level]
      cases op <;> decide
  | _ => exact Nat.succ_pos 7

/- An expression of a binary operator's level has one. -/
theorem Expr.binary_of_level
    {expr : Expr}
    {op : BinaryOp}
    (hLevel : expr.level = op.level) :
    ∃ op left right span,
      expr = .binary op left right span := by
  cases expr with
  | binary op left right span =>
      exact ⟨op, left, right, span, rfl⟩
  | unary mark operand span =>
      cases mark <;> cases op <;> cases hLevel
  | _ => cases op <;> cases hLevel

/- An expression of a prefix's level starts with it. -/
theorem Expr.unary_of_level
    {expr : Expr}
    {op : UnaryOp}
    (hLevel : expr.level = op.level) :
    ∃ operand span, expr = .unary op operand span := by
  cases expr with
  | binary other left right span =>
      cases other <;> cases op <;> cases hLevel
  | unary mark operand span =>
      cases mark <;> cases op <;>
        first
        | exact ⟨operand, span, rfl⟩
        | cases hLevel
  | _ => cases op <;> cases hLevel

end Gantry

------------------------------------------------------------
-- Rendering Expressions
------------------------------------------------------------

namespace Gantry

namespace Expr

/-
  Put an expression in parentheses if its place asks for a
  tighter one.
-/
def guarded
    (least : Nat)
    (expr : Expr)
    (kinds : List TokenKind) : List TokenKind :=
  if expr.level < least then
    .symbol .leftParen :: (kinds ++ [.symbol .rightParen])
  else
    kinds

mutual

/-
  The tokens of an expression. A chain of operators groups
  to the left, so that only the right operand has to bind
  more tightly.
-/
def render :
    Expr → List TokenKind
| literal value _ => [value.kind]
| name word _ => [.name word]
| list items _ =>
    .symbol .leftBracket ::
      (listRender items ++ [.symbol .rightBracket])
| unary op operand _ =>
    op.kind :: guarded op.level operand operand.render
| binary op left right _ =>
    guarded op.level left left.render ++
      op.kind :: guarded (op.level + 1) right right.render
| call callee args _ =>
    guarded 8 callee callee.render ++
      .symbol .leftParen ::
        (listRender args ++ [.symbol .rightParen])
| index object key _ =>
    guarded 8 object object.render ++
      .symbol .leftBracket ::
        (key.render ++ [.symbol .rightBracket])
| attr object field _ =>
    guarded 8 object object.render ++
      [.symbol .dot, .name field.name]

/- Expressions with commas between them. -/
def listRender :
    List Expr → List TokenKind
| [] => []
| [item] => item.render
| item :: next :: items =>
    item.render ++
      .symbol .comma :: listRender (next :: items)

end

/- The tokens of an expression at a place of some level. -/
def renderAt
    (least : Nat)
    (expr : Expr) : List TokenKind :=
  guarded least expr expr.render

theorem renderAt_of_le
    {least : Nat}
    {expr : Expr}
    (hLevel : least ≤ expr.level) :
    expr.renderAt least = expr.render := by
  unfold renderAt guarded
  rw [if_neg (Nat.not_lt.mpr hLevel)]

theorem renderAt_of_lt
    {least : Nat}
    {expr : Expr}
    (hLevel : expr.level < least) :
    expr.renderAt least =
      .symbol .leftParen ::
        (expr.render ++ [.symbol .rightParen]) := by
  unfold renderAt guarded
  rw [if_pos hLevel]

/- The next level asks for more only of its own operators. -/
theorem renderAt_succ
    {least : Nat}
    {expr : Expr}
    (hLevel : expr.level ≠ least) :
    expr.renderAt (least + 1) = expr.renderAt least := by
  by_cases hLess : expr.level < least
  · rw [renderAt_of_lt hLess, renderAt_of_lt (by omega)]
  · rw [renderAt_of_le (by omega), renderAt_of_le (by omega)]

theorem renderAt_binary
    (op : BinaryOp)
    (left right : Expr)
    (span : Span) :
    (binary op left right span).renderAt op.level =
      left.renderAt op.level ++
        op.kind :: right.renderAt (op.level + 1) := by
  have hLevel : op.level ≤ (binary op left right span).level :=
    Nat.le_refl op.level
  rw [renderAt_of_le hLevel, render]
  rfl

theorem renderAt_unary
    (op : UnaryOp)
    (operand : Expr)
    (span : Span) :
    (unary op operand span).renderAt op.level =
      op.kind :: operand.renderAt op.level := by
  have hLevel : op.level ≤ (unary op operand span).level :=
    Nat.le_refl op.level
  rw [renderAt_of_le hLevel, render]
  rfl

@[simp] theorem renderAt_one
    (expr : Expr) :
    expr.renderAt 1 = expr.render :=
  renderAt_of_le expr.level_pos

end Expr

end Gantry

------------------------------------------------------------
-- Rendering Statements
------------------------------------------------------------

namespace Gantry

/- Parameters with commas between them. -/
def Ident.render :
    List Ident → List TokenKind
| [] => []
| [param] => [.name param.name]
| param :: next :: params =>
    .name param.name ::
      .symbol .comma :: Ident.render (next :: params)

mutual

/- The tokens of a statement. -/
def Stmt.render :
    Stmt → List TokenKind
| .assign target value _ =>
    .name target.name :: .symbol .eq ::
      (value.render ++ [.newline])
| .setIndex object key value span =>
    (Expr.index object key span).render ++
      .symbol .eq :: (value.render ++ [.newline])
| .branch test body elifs orElse _ =>
    .keyword .ifWord ::
      (test.render ++
        .symbol .colon ::
          (body.render ++
            (Elif.listRender elifs ++
              Block.elseRender orElse)))
| .forLoop target iterable body _ =>
    .keyword .forWord :: .name target.name ::
      .keyword .inWord ::
        (iterable.render ++ .symbol .colon :: body.render)
| .whileLoop test body _ =>
    .keyword .whileWord ::
      (test.render ++ .symbol .colon :: body.render)
| .define name params body _ =>
    .keyword .defWord :: .name name.name ::
      .symbol .leftParen ::
        (Ident.render params ++
          .symbol .rightParen :: .symbol .colon ::
            body.render)
| .returnValue (some value) _ =>
    .keyword .returnWord :: (value.render ++ [.newline])
| .returnValue none _ =>
    [.keyword .returnWord, .newline]
| .breakLoop _ => [.keyword .breakWord, .newline]
| .continueLoop _ => [.keyword .continueWord, .newline]
| .pass _ => [.keyword .passWord, .newline]
| .expr expr _ => expr.render ++ [.newline]

def Stmt.listRender :
    List Stmt → List TokenKind
| [] => []
| stmt :: stmts => stmt.render ++ Stmt.listRender stmts

/- A block stands on lines of its own. -/
def Block.render :
    Block → List TokenKind
| .mk stmts _ =>
    .newline :: .indent ::
      (Stmt.listRender stmts ++ [.dedent])

def Block.elseRender :
    Option Block → List TokenKind
| some body =>
    .keyword .elseWord :: .symbol .colon :: body.render
| none => []

def Elif.render :
    Elif → List TokenKind
| .mk test body _ =>
    .keyword .elifWord ::
      (test.render ++ .symbol .colon :: body.render)

def Elif.listRender :
    List Elif → List TokenKind
| [] => []
| clause :: clauses =>
    clause.render ++ Elif.listRender clauses

end

/- The tokens of a script. -/
def Program.render
    (program : Program) : List TokenKind :=
  Stmt.listRender program.body ++ [.endOfFile]

end Gantry

------------------------------------------------------------
-- First Tokens
------------------------------------------------------------

namespace Gantry

/- The tokens that an expression can begin with. -/
def TokenKind.startsExpr :
    TokenKind → Bool
| .number _ => true
| .string _ => true
| .name _ => true
| .keyword .trueWord => true
| .keyword .falseWord => true
| .keyword .noneWord => true
| .keyword .notWord => true
| .symbol .minus => true
| .symbol .leftBracket => true
| .symbol .leftParen => true
| _ => false

/- The tokens that a statement can begin with. -/
def TokenKind.startsStmt :
    TokenKind → Bool
| .keyword .defWord => true
| .keyword .ifWord => true
| .keyword .forWord => true
| .keyword .whileWord => true
| .keyword .returnWord => true
| .keyword .breakWord => true
| .keyword .continueWord => true
| .keyword .passWord => true
| kind => kind.startsExpr

/-
  Tokens begin like an expression of some level, and with no
  prefix of a lower one.
-/
def Opens
    (least : Nat)
    (kinds : List TokenKind) : Prop :=
  ∃ kind rest,
    kinds = kind :: rest ∧
      kind.startsExpr = true ∧
      ∀ op : UnaryOp, op.level < least → kind ≠ op.kind

theorem Opens.append
    {least : Nat}
    {kinds : List TokenKind}
    (hOpens : Opens least kinds)
    (more : List TokenKind) :
    Opens least (kinds ++ more) := by
  rcases hOpens with ⟨kind, rest, rfl, hStarts, hMark⟩
  exact ⟨kind, rest ++ more, rfl, hStarts, hMark⟩

namespace Expr

theorem opens_guarded
    {expr : Expr}
    {kinds : List TokenKind}
    (least : Nat)
    (hOpens : Opens expr.level kinds) :
    Opens least (guarded least expr kinds) := by
  unfold guarded
  split
  · refine ⟨_, _, rfl, rfl, ?_⟩
    intro op _
    cases op <;> simp [UnaryOp.kind]
  · rcases hOpens with ⟨kind, rest, rfl, hStarts, hMark⟩
    refine ⟨kind, rest, rfl, hStarts, ?_⟩
    intro op hLevel
    exact hMark op (by omega)

theorem opens_single
    {kind : TokenKind}
    (rest : List TokenKind)
    (hStarts : kind.startsExpr = true)
    (hMark : ∀ op : UnaryOp, kind ≠ op.kind) :
    Opens 8 (kind :: rest) :=
  ⟨kind, rest, rfl, hStarts, fun op _ => hMark op⟩

/- An expression begins like one of its own level. -/
theorem opens_render
    (expr : Expr) :
    Opens expr.level expr.render := by
  cases expr with
  | literal value _ =>
      apply opens_single []
      · cases value with
        | bool value => cases value <;> rfl
        | _ => rfl
      · intro op
        cases op <;> cases value with
        | bool value =>
            cases value <;> simp [Literal.kind, UnaryOp.kind]
        | _ => simp [Literal.kind, UnaryOp.kind]
  | name word _ =>
      apply opens_single [] rfl
      intro op
      cases op <;> simp [UnaryOp.kind]
  | list items _ =>
      rw [render]
      apply opens_single _ rfl
      intro op
      cases op <;> simp [UnaryOp.kind]
  | unary op operand _ =>
      rw [render]
      refine ⟨op.kind, _, rfl, by cases op <;> rfl, ?_⟩
      intro other hLevel
      cases op <;> cases other <;>
        simp [UnaryOp.kind, UnaryOp.level, level] at *
  | binary op left right _ =>
      rw [render]
      exact (opens_guarded op.level left.opens_render).append _
  | call callee args _ =>
      rw [render]
      exact (opens_guarded 8 callee.opens_render).append _
  | index object key _ =>
      rw [render]
      exact (opens_guarded 8 object.opens_render).append _
  | attr object field _ =>
      rw [render]
      exact (opens_guarded 8 object.opens_render).append _

theorem opens_renderAt
    (least : Nat)
    (expr : Expr) :
    Opens least (expr.renderAt least) :=
  opens_guarded least expr.opens_render

end Expr

/- A statement begins with a word or with an expression. -/
theorem Stmt.starts_render
    (stmt : Stmt) :
    ∃ kind rest,
      stmt.render = kind :: rest ∧
        kind.startsStmt = true := by
  have hExpr :
      ∀ (expr : Expr) (more : List TokenKind),
        ∃ kind rest,
          expr.render ++ more = kind :: rest ∧
            kind.startsStmt = true := by
    intro expr more
    rcases expr.opens_render with
      ⟨kind, rest, hRender, hStarts, _⟩
    refine ⟨kind, rest ++ more, by rw [hRender]; rfl, ?_⟩
    unfold TokenKind.startsStmt
    split <;> first | rfl | exact hStarts
  cases stmt with
  | setIndex object key value span => exact hExpr _ _
  | expr expr span => exact hExpr _ _
  | returnValue value span =>
      cases value <;> exact ⟨_, _, rfl, rfl⟩
  | _ => exact ⟨_, _, rfl, rfl⟩

end Gantry
