import Gantry.Number.Numeral
import Gantry.Source

/-
  This file defines the tree of a script. Every node knows
  the text it was read from.

  Key definitions include:
    * `Gantry.Literal`
    * `Gantry.BinaryOp`
    * `Gantry.Expr`
    * `Gantry.Stmt`
    * `Gantry.Block`
    * `Gantry.Program`
-/

------------------------------------------------------------
-- Operators
------------------------------------------------------------

namespace Gantry

/- An operator between two operands. -/
inductive BinaryOp where
  | or
  | and
  | equal
  | notEqual
  | less
  | greater
  | lessEqual
  | greaterEqual
  | isIn
  | add
  | sub
  | mul
  | div
  | floorDiv
  | mod
deriving DecidableEq, Repr

/- The spelling of an operator. -/
def BinaryOp.text :
    BinaryOp → String
| .or => "or"
| .and => "and"
| .equal => "=="
| .notEqual => "!="
| .less => "<"
| .greater => ">"
| .lessEqual => "<="
| .greaterEqual => ">="
| .isIn => "in"
| .add => "+"
| .sub => "-"
| .mul => "*"
| .div => "/"
| .floorDiv => "//"
| .mod => "%"

/- An operator in front of its operand. -/
inductive UnaryOp where
  | neg
  | not
deriving DecidableEq, Repr

/- The spelling of an operator. -/
def UnaryOp.text :
    UnaryOp → String
| .neg => "-"
| .not => "not"

end Gantry

------------------------------------------------------------
-- Expressions
------------------------------------------------------------

namespace Gantry

/- A name where it stands. -/
structure Ident where
  name : String
  span : Span
deriving DecidableEq, Repr

/- A value written out in the script. -/
inductive Literal where
  | number (numeral : Numeral)
  | string (text : String)
  | bool (value : Bool)
  | none
deriving DecidableEq, Repr

/- An expression. -/
inductive Expr where
  | literal (value : Literal) (span : Span)
  | name (word : String) (span : Span)
  | list (items : List Expr) (span : Span)
  | unary (op : UnaryOp) (operand : Expr) (span : Span)
  | binary (op : BinaryOp) (left right : Expr) (span : Span)
  | call (callee : Expr) (args : List Expr) (span : Span)
  | index (object key : Expr) (span : Span)
  | attr (object : Expr) (field : Ident) (span : Span)
deriving Repr

namespace Expr

/- The text of an expression. -/
def span :
    Expr → Span
| literal _ span => span
| name _ span => span
| list _ span => span
| unary _ _ span => span
| binary _ _ _ span => span
| call _ _ span => span
| index _ _ span => span
| attr _ _ span => span

/-
  The same expression read from a wider text, such as one
  with parentheses around it.
-/
def withSpan
    (span : Span) :
    Expr → Expr
| literal value _ => literal value span
| name word _ => name word span
| list items _ => list items span
| unary op operand _ => unary op operand span
| binary op left right _ => binary op left right span
| call callee args _ => call callee args span
| index object key _ => index object key span
| attr object field _ => attr object field span

end Expr

end Gantry

------------------------------------------------------------
-- Statements
------------------------------------------------------------

namespace Gantry

mutual

/- A statement. -/
inductive Stmt where
  | assign (target : Ident) (value : Expr) (span : Span)
  | setIndex (object key value : Expr) (span : Span)
  | branch (test : Expr) (body : Block)
      (elifs : List Elif) (orElse : Option Block)
      (span : Span)
  | forLoop (target : Ident) (iterable : Expr)
      (body : Block) (span : Span)
  | whileLoop (test : Expr) (body : Block) (span : Span)
  | define (name : Ident) (params : List Ident)
      (body : Block) (span : Span)
  | returnValue (value : Option Expr) (span : Span)
  | breakLoop (span : Span)
  | continueLoop (span : Span)
  | pass (span : Span)
  | expr (expr : Expr) (span : Span)

/- Statements one level further in. -/
inductive Block where
  | mk (stmts : List Stmt) (span : Span)

/- A further condition of a branch and its body. -/
inductive Elif where
  | mk (test : Expr) (body : Block) (span : Span)

end

deriving instance Repr for Stmt, Block, Elif

/- The text of a statement. -/
def Stmt.span :
    Stmt → Span
| .assign _ _ span => span
| .setIndex _ _ _ span => span
| .branch _ _ _ _ span => span
| .forLoop _ _ _ span => span
| .whileLoop _ _ span => span
| .define _ _ _ span => span
| .returnValue _ span => span
| .breakLoop span => span
| .continueLoop span => span
| .pass span => span
| .expr _ span => span

/- The statements of a block. -/
def Block.stmts :
    Block → List Stmt
| .mk stmts _ => stmts

/- The text of a block. -/
def Block.span :
    Block → Span
| .mk _ span => span

/- The text of a further condition with its body. -/
def Elif.span :
    Elif → Span
| .mk _ _ span => span

/- A whole script. -/
structure Program where
  body : List Stmt
  span : Span
deriving Repr

end Gantry
