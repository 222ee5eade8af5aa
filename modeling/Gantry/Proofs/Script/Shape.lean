import Gantry.Parser.Statement

/-
  This file looks at a script's tree apart from the text it
  was read from: the tree without its spans, the rules that
  the tree of a script obeys, and the expressions that stand
  in its statements.

  Key definitions include:
    * `Gantry.Expr.erase`
    * `Gantry.Program.erase`
    * `Gantry.Stmt.WellFormed`
    * `Gantry.Program.WellFormed`
    * `Gantry.Program.expressions`
-/

------------------------------------------------------------
-- Trees Without Spans
------------------------------------------------------------

namespace Gantry

/- The same name, wherever it stands. -/
def Ident.erase
    (ident : Ident) : Ident :=
  { ident with span := Span.unset }

mutual

/- The same expression, whatever text it was read from. -/
def Expr.erase :
    Expr → Expr
| .literal value _ => .literal value Span.unset
| .name word _ => .name word Span.unset
| .list items _ => .list (Expr.listErase items) Span.unset
| .unary op operand _ =>
    .unary op operand.erase Span.unset
| .binary op left right _ =>
    .binary op left.erase right.erase Span.unset
| .call callee args _ =>
    .call callee.erase (Expr.listErase args) Span.unset
| .index object key _ =>
    .index object.erase key.erase Span.unset
| .attr object field _ =>
    .attr object.erase field.erase Span.unset

def Expr.listErase :
    List Expr → List Expr
| [] => []
| item :: items => item.erase :: Expr.listErase items

end

mutual

/- The same statement, whatever text it was read from. -/
def Stmt.erase :
    Stmt → Stmt
| .assign target value _ =>
    .assign target.erase value.erase Span.unset
| .setIndex object key value _ =>
    .setIndex object.erase key.erase value.erase Span.unset
| .branch test body elifs orElse _ =>
    .branch test.erase body.erase (Elif.listErase elifs)
      (Block.elseErase orElse) Span.unset
| .forLoop target iterable body _ =>
    .forLoop target.erase iterable.erase body.erase
      Span.unset
| .whileLoop test body _ =>
    .whileLoop test.erase body.erase Span.unset
| .define name params body _ =>
    .define name.erase (params.map Ident.erase) body.erase
      Span.unset
| .returnValue value _ =>
    .returnValue (value.map Expr.erase) Span.unset
| .breakLoop _ => .breakLoop Span.unset
| .continueLoop _ => .continueLoop Span.unset
| .pass _ => .pass Span.unset
| .expr expr _ => .expr expr.erase Span.unset

def Stmt.listErase :
    List Stmt → List Stmt
| [] => []
| stmt :: stmts => stmt.erase :: Stmt.listErase stmts

def Block.erase :
    Block → Block
| .mk stmts _ => .mk (Stmt.listErase stmts) Span.unset

def Block.elseErase :
    Option Block → Option Block
| some body => some body.erase
| none => none

def Elif.erase :
    Elif → Elif
| .mk test body _ => .mk test.erase body.erase Span.unset

def Elif.listErase :
    List Elif → List Elif
| [] => []
| clause :: clauses =>
    clause.erase :: Elif.listErase clauses

end

/- The same script, whatever text it was read from. -/
def Program.erase
    (program : Program) : Program :=
  ⟨Stmt.listErase program.body, Span.unset⟩

/- A wider text makes no other expression. -/
@[simp] theorem Expr.erase_withSpan
    (expr : Expr)
    (span : Span) :
    (expr.withSpan span).erase = expr.erase := by
  cases expr <;> rfl

end Gantry

------------------------------------------------------------
-- Well-Formed Trees
------------------------------------------------------------

namespace Gantry

mutual

/-
  A statement fits what encloses it. A loop is left only
  from inside it and a function only from inside one, no
  body is empty, and no two parameters have the same name.
-/
def Stmt.WellFormed
    (context : Parser.Context) :
    Stmt → Prop
| .branch _ body elifs orElse _ =>
    body.WellFormed context ∧
      Elif.ListWellFormed context elifs ∧
      Block.ElseWellFormed context orElse
| .forLoop _ _ body _ =>
    body.WellFormed { context with inLoop := true }
| .whileLoop _ body _ =>
    body.WellFormed { context with inLoop := true }
| .define _ params body _ =>
    (params.map (·.name)).Nodup ∧
      body.WellFormed { inLoop := false, inFunction := true }
| .returnValue _ _ => context.inFunction = true
| .breakLoop _ => context.inLoop = true
| .continueLoop _ => context.inLoop = true
| _ => True

def Stmt.ListWellFormed
    (context : Parser.Context) :
    List Stmt → Prop
| [] => True
| stmt :: stmts =>
    stmt.WellFormed context ∧
      Stmt.ListWellFormed context stmts

def Block.WellFormed
    (context : Parser.Context) :
    Block → Prop
| .mk stmts _ =>
    stmts ≠ [] ∧ Stmt.ListWellFormed context stmts

def Block.ElseWellFormed
    (context : Parser.Context) :
    Option Block → Prop
| some body => body.WellFormed context
| none => True

def Elif.WellFormed
    (context : Parser.Context) :
    Elif → Prop
| .mk _ body _ => body.WellFormed context

def Elif.ListWellFormed
    (context : Parser.Context) :
    List Elif → Prop
| [] => True
| clause :: clauses =>
    clause.WellFormed context ∧
      Elif.ListWellFormed context clauses

end

/- Nothing encloses the statements of a script. -/
def Program.WellFormed
    (program : Program) : Prop :=
  Stmt.ListWellFormed {} program.body

end Gantry

------------------------------------------------------------
-- Expressions Of A Tree
------------------------------------------------------------

namespace Gantry

mutual

/-
  The expressions that stand in a statement, each of them as
  a whole. An element that is assigned to is one of them.
-/
def Stmt.expressions :
    Stmt → List Expr
| .assign _ value _ => [value]
| .setIndex object key value span =>
    [.index object key span, value]
| .branch test body elifs orElse _ =>
    test ::
      (body.expressions ++
        (Elif.listExpressions elifs ++
          Block.elseExpressions orElse))
| .forLoop _ iterable body _ =>
    iterable :: body.expressions
| .whileLoop test body _ => test :: body.expressions
| .define _ _ body _ => body.expressions
| .returnValue value _ => value.toList
| .expr expr _ => [expr]
| _ => []

def Stmt.listExpressions :
    List Stmt → List Expr
| [] => []
| stmt :: stmts =>
    stmt.expressions ++ Stmt.listExpressions stmts

def Block.expressions :
    Block → List Expr
| .mk stmts _ => Stmt.listExpressions stmts

def Block.elseExpressions :
    Option Block → List Expr
| some body => body.expressions
| none => []

def Elif.expressions :
    Elif → List Expr
| .mk test body _ => test :: body.expressions

def Elif.listExpressions :
    List Elif → List Expr
| [] => []
| clause :: clauses =>
    clause.expressions ++ Elif.listExpressions clauses

end

/- The expressions that stand in a script. -/
def Program.expressions
    (program : Program) : List Expr :=
  Stmt.listExpressions program.body

end Gantry
