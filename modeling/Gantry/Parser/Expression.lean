import Gantry.Parser.Cursor

/-
  This file reads expressions. From weakest to strongest the
  levels are

    or
    and
    not
    == != < > <= >= in
    + -
    * / // %
    unary minus
    calls, indexing and attributes

  and every binary operator groups to the left.

  The nesting of an expression is limited. Each level of
  reading is given the `room` it has left: a bracketed
  expression, an operand of a prefix operator and each
  further link of a chain take one level of it. Since the
  room shrinks on every way around, it also bounds the
  recursion.

  Key definitions include:
    * `Gantry.Parser.chain`
    * `Gantry.Parser.primary`
    * `Gantry.Parser.suffixes`
    * `Gantry.Parser.expressionWithin`
    * `Gantry.Parser.expression`
-/

------------------------------------------------------------
-- Operators
------------------------------------------------------------

namespace Gantry

namespace Parser

/- The operator of a disjunction. -/
def orOp? :
    TokenKind → Option BinaryOp
| .keyword .orWord => some .or
| _ => none

/- The operator of a conjunction. -/
def andOp? :
    TokenKind → Option BinaryOp
| .keyword .andWord => some .and
| _ => none

/- The operators of a comparison. -/
def comparisonOp? :
    TokenKind → Option BinaryOp
| .symbol .eqEq => some .equal
| .symbol .bangEq => some .notEqual
| .symbol .less => some .less
| .symbol .greater => some .greater
| .symbol .lessEq => some .lessEqual
| .symbol .greaterEq => some .greaterEqual
| .keyword .inWord => some .isIn
| _ => none

/- The operators of a sum. -/
def sumOp? :
    TokenKind → Option BinaryOp
| .symbol .plus => some .add
| .symbol .minus => some .sub
| _ => none

/- The operators of a product. -/
def productOp? :
    TokenKind → Option BinaryOp
| .symbol .star => some .mul
| .symbol .slash => some .div
| .symbol .slashSlash => some .floorDiv
| .symbol .percent => some .mod
| _ => none

end Parser

end Gantry

------------------------------------------------------------
-- Chains
------------------------------------------------------------

namespace Gantry

namespace Parser

variable {α : Type}

/- There is no room for another level. -/
def tooDeep : Parser α :=
  rejectHere .nestingTooDeep

/- Two operands joined by an operator. -/
def join
    (op : BinaryOp)
    (left right : Expr) : Expr :=
  .binary op left right (left.span.merge right.span)

/-
  The further links of a chain of operators, grouped to the
  left. Each link leaves less room for the ones behind it.
-/
def chain
    (op? : TokenKind → Option BinaryOp)
    (operand : Nat → Parser Expr) :
    Nat → Expr → Parser Expr
| 0, left => do
    match op? (← peek) with
    | none => return left
    | some _ =>
        let _ ← advance
        tooDeep
| room + 1, left => do
    match op? (← peek) with
    | none => return left
    | some op =>
        let _ ← advance
        let right ← operand room
        chain op? operand room (join op left right)

/- A chain of operators of one level. -/
def level
    (op? : TokenKind → Option BinaryOp)
    (operand : Nat → Parser Expr)
    (room : Nat) : Parser Expr := do
  let left ← operand room
  chain op? operand room left

/- Any number of one operator in front of an operand. -/
def prefixed
    (op : UnaryOp)
    (mark : TokenKind)
    (operand : Nat → Parser Expr) :
    Nat → Parser Expr
| 0 => do
    if ← check mark then
      let _ ← advance
      tooDeep
    else
      operand 0
| room + 1 => do
    if ← check mark then
      let start ← advance
      let inner ← prefixed op mark operand room
      return .unary op inner (start.merge inner.span)
    else
      operand (room + 1)

end Parser

end Gantry

------------------------------------------------------------
-- Primaries And Suffixes
------------------------------------------------------------

namespace Gantry

namespace Parser

/-
  Expressions between commas, up to a closing mark; a last
  comma is allowed. Every round takes a token, so that the
  tokens at hand bound the rounds.
-/
def commaList
    (item : Parser Expr)
    (close : Symbol) :
    List Token → Parser (List Expr)
| [] => do
    let last ← item
    return [last]
| _ :: rounds => do
    if ← check (.symbol close) then
      return []
    else
      let first ← item
      if ← eat (.symbol .comma) then
        let others ← commaList item close rounds
        return first :: others
      else
        return [first]

/- A list of expressions with its closing mark. -/
def enclosed
    (item : Parser Expr)
    (close : Symbol) : Parser (List Expr × Span) := do
  let items ← commaList item close (← get).rest
  let stop ← expect (.symbol close)
  return (items, stop)

/- The literal that a token is. -/
def literal? :
    TokenKind → Option Literal
| .number numeral => some (.number numeral)
| .string text => some (.string text)
| .keyword .trueWord => some (.bool true)
| .keyword .falseWord => some (.bool false)
| .keyword .noneWord => some .none
| _ => none

/-
  A literal, a name, a list, or an expression in parentheses,
  which then includes them in its text.
-/
def primary
    (inner : Parser Expr) : Parser Expr := do
  let start ← here
  match ← peek with
  | .name word =>
      let _ ← advance
      return .name word start
  | .symbol .leftBracket =>
      let _ ← advance
      let (items, stop) ← enclosed inner .rightBracket
      return .list items (start.merge stop)
  | .symbol .leftParen =>
      let _ ← advance
      let expr ← inner
      let stop ← expect (.symbol .rightParen)
      return expr.withSpan (start.merge stop)
  | found =>
      match literal? found with
      | some value =>
          let _ ← advance
          return .literal value start
      | none => rejectHere (.expectedExpression found)

/- The symbols that start a suffix. -/
def startsSuffix :
    TokenKind → Bool
| .symbol .leftParen => true
| .symbol .leftBracket => true
| .symbol .dot => true
| _ => false

/- One call, index or attribute behind an expression. -/
def suffix
    (inner : Parser Expr)
    (object : Expr) : Parser Expr := do
  match ← peek with
  | .symbol .leftParen =>
      let _ ← advance
      let (args, stop) ← enclosed inner .rightParen
      return .call object args (object.span.merge stop)
  | .symbol .leftBracket =>
      let _ ← advance
      let key ← inner
      let stop ← expect (.symbol .rightBracket)
      return .index object key (object.span.merge stop)
  | _ =>
      let _ ← advance
      let field ← identifier
      return .attr object field
        (object.span.merge field.span)

/-
  The suffixes of an expression. Room for each is needed
  before its first symbol is taken.
-/
def suffixes
    (inner : Nat → Parser Expr) :
    Nat → Expr → Parser Expr
| 0, object => do
    if startsSuffix (← peek) then
      tooDeep
    else
      return object
| room + 1, object => do
    if startsSuffix (← peek) then
      let longer ← suffix (inner room) object
      suffixes inner room longer
    else
      return object

/- A primary with its suffixes. -/
def operand
    (inner : Nat → Parser Expr)
    (room : Nat) : Parser Expr := do
  let object ← primary (inner room)
  suffixes inner room object

end Parser

end Gantry

------------------------------------------------------------
-- Levels
------------------------------------------------------------

namespace Gantry

namespace Parser

/- Unary minus. -/
def signed
    (inner : Nat → Parser Expr) :
    Nat → Parser Expr :=
  prefixed .neg (.symbol .minus) (operand inner)

/- Products. -/
def product
    (inner : Nat → Parser Expr) :
    Nat → Parser Expr :=
  level productOp? (signed inner)

/- Sums. -/
def sum
    (inner : Nat → Parser Expr) :
    Nat → Parser Expr :=
  level sumOp? (product inner)

/- Comparisons. -/
def comparison
    (inner : Nat → Parser Expr) :
    Nat → Parser Expr :=
  level comparisonOp? (sum inner)

/- Negations. -/
def negation
    (inner : Nat → Parser Expr) :
    Nat → Parser Expr :=
  prefixed .not (.keyword .notWord) (comparison inner)

/- Conjunctions. -/
def conjunction
    (inner : Nat → Parser Expr) :
    Nat → Parser Expr :=
  level andOp? (negation inner)

/- Disjunctions. -/
def disjunction
    (inner : Nat → Parser Expr) :
    Nat → Parser Expr :=
  level orOp? (conjunction inner)

/-
  An expression with some room left. The first argument
  bounds the brackets around one another; it is never less
  than the room, which runs out first.
-/
def expressionWithin :
    Nat → Nat → Parser Expr
| 0, _ => tooDeep
| _ + 1, 0 => tooDeep
| brackets + 1, room + 1 =>
    disjunction (expressionWithin brackets) room

/- An expression with all the room there is. -/
def expression : Parser Expr :=
  expressionWithin maxNesting maxNesting

end Parser

end Gantry
