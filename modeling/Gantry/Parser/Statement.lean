import Gantry.Parser.Expression
import Gantry.Token.Lexer

/-
  This file reads statements, blocks and whole scripts. A
  statement that cannot be read is skipped together with the
  block under it, and reading goes on behind it.

  Key definitions include:
    * `Gantry.Parser.Context`
    * `Gantry.Parser.statement`
    * `Gantry.Parser.block`
    * `Gantry.Parser.statements`
    * `Gantry.Parser.program`
    * `Gantry.Source.parse`
-/

------------------------------------------------------------
-- Simple Statements
------------------------------------------------------------

namespace Gantry

namespace Parser

/-
  What encloses a statement: a loop of the same function, and
  a function.
-/
structure Context where
  inLoop : Bool := false
  inFunction : Bool := false
deriving DecidableEq, Repr

/- A statement of one word. -/
def passStatement : Parser Stmt := do
  let span ← advance
  lineEnd
  return .pass span

/- A statement that leaves a loop or its round. -/
def loopJump
    (context : Context)
    (word : Keyword)
    (make : Span → Stmt) : Parser Stmt := do
  let span ← advance
  if !context.inLoop then
    report (.outsideLoop word) span
  lineEnd
  return make span

/- The value behind the word `return`, if there is one. -/
def returnedValue : Parser (Option Expr) := do
  match ← peek with
  | .newline => return none
  | .endOfFile => return none
  | .dedent => return none
  | _ =>
      let value ← expression
      return some value

/- A statement that leaves a function. -/
def returnStatement
    (context : Context) : Parser Stmt := do
  let start ← advance
  if !context.inFunction then
    report .outsideFunction start
  let value ← returnedValue
  let span :=
    match value with
    | some expr => start.merge expr.span
    | none => start
  lineEnd
  return .returnValue value span

/- An assignment to an expression, if one can be made. -/
def assignment?
    (target value : Expr) : Option Stmt :=
  let span := target.span.merge value.span
  match target with
  | .name word place =>
      some (.assign ⟨word, place⟩ value span)
  | .index object key _ =>
      some (.setIndex object key value span)
  | _ => none

/- An expression, or an assignment to one. -/
def exprStatement : Parser Stmt := do
  let expr ← expression
  if ← check (.symbol .eq) then
    let mark ← advance
    let value ← expression
    match assignment? expr value with
    | some stmt =>
        lineEnd
        return stmt
    | none =>
        reject .invalidTarget (expr.span.merge mark)
  else
    lineEnd
    return .expr expr expr.span

/-
  Parameters between commas. One that repeats an earlier
  name is reported and kept. Every round takes a token, so
  that the tokens at hand bound the rounds.
-/
def parameters :
    List Token → List Ident → Parser (List Ident)
| [], seen => do
    let last ← identifier
    return seen ++ [last]
| _ :: rounds, seen => do
    if ← check (.symbol .rightParen) then
      return seen
    else
      let param ← identifier
      if seen.any (·.name == param.name) then
        report (.duplicateParameter param.name) param.span
      if ← eat (.symbol .comma) then
        parameters rounds (seen ++ [param])
      else
        return seen ++ [param]

/- A function's name and its parameters in parentheses. -/
def signature : Parser (Ident × List Ident) := do
  let name ← identifier
  let _ ← expect (.symbol .leftParen)
  let params ← parameters (← get).rest []
  let _ ← expect (.symbol .rightParen)
  return (name, params)

/- A condition with its colon. -/
def condition : Parser Expr := do
  let test ← expression
  let _ ← expect (.symbol .colon)
  return test

/-
  The end of the line before a block, and the start of the
  block.
-/
def blockStart : Parser Span := do
  let found ← peek
  if found == .newline then
    let _ ← advance
    if ← check .indent then
      advance
    else
      rejectHere .expectedBlock
  else
    rejectHere (.expectedBody found)

/- A block covers its start and its last statement. -/
def blockSpan
    (start : Span)
    (stmts : List Stmt) : Span :=
  match stmts.getLast? with
  | some last => start.merge last.span
  | none => start

end Parser

end Gantry

------------------------------------------------------------
-- Blocks
------------------------------------------------------------

namespace Gantry

namespace Parser

mutual

/-
  A statement. Every way from a statement to one inside it
  takes a token, so that the number of tokens bounds the
  recursion, here and below.
-/
def statement
    (bound : Nat)
    (context : Context) : Parser Stmt :=
  match bound with
  | 0 => failure
  | bound + 1 => do
      match ← peek with
      | .keyword .defWord =>
          let start ← advance
          let (name, params) ← signature
          let _ ← expect (.symbol .colon)
          let body ←
            block bound
              { inLoop := false, inFunction := true }
          return .define name params body
            (start.merge body.span)
      | .keyword .ifWord =>
          let start ← advance
          let test ← condition
          let body ← block bound context
          let elifs ← elifClauses bound context
          let orElse ← elseClause bound context
          let stop :=
            match orElse, elifs.getLast? with
            | some last, _ => last.span
            | none, some last => last.span
            | none, none => body.span
          return .branch test body elifs orElse
            (start.merge stop)
      | .keyword .forWord =>
          let start ← advance
          let target ← identifier
          let _ ← expect (.keyword .inWord)
          let iterable ← condition
          let body ←
            block bound { context with inLoop := true }
          return .forLoop target iterable body
            (start.merge body.span)
      | .keyword .whileWord =>
          let start ← advance
          let test ← condition
          let body ←
            block bound { context with inLoop := true }
          return .whileLoop test body
            (start.merge body.span)
      | .keyword .returnWord => returnStatement context
      | .keyword .breakWord =>
          loopJump context .breakWord .breakLoop
      | .keyword .continueWord =>
          loopJump context .continueWord .continueLoop
      | .keyword .passWord => passStatement
      | _ => exprStatement

/- An indented block behind a colon. -/
def block
    (bound : Nat)
    (context : Context) : Parser Block :=
  match bound with
  | 0 => failure
  | bound + 1 => do
      let start ← blockStart
      let stmts ← statements bound context
      return .mk stmts (blockSpan start stmts)

/- The further conditions of a branch. -/
def elifClauses
    (bound : Nat)
    (context : Context) : Parser (List Elif) :=
  match bound with
  | 0 => return []
  | bound + 1 => do
      if ← check (.keyword .elifWord) then
        let start ← advance
        let test ← condition
        let body ← block bound context
        let others ← elifClauses bound context
        return .mk test body (start.merge body.span) ::
          others
      else
        return []

/- The body of a branch for when no condition holds. -/
def elseClause
    (bound : Nat)
    (context : Context) : Parser (Option Block) :=
  match bound with
  | 0 => return none
  | bound + 1 => do
      if ← eat (.keyword .elseWord) then
        let _ ← expect (.symbol .colon)
        let body ← block bound context
        return some body
      else
        return none

/-
  The statements of a block through its closing dedent. An
  indented region that nothing opened is reported, read, and
  left out.
-/
def statements
    (bound : Nat)
    (context : Context) :
    StateM Cursor (List Stmt) :=
  match bound with
  | 0 => return []
  | bound + 1 => do
      skipNewlines
      let cursor ← get
      if cursor.log.isFull || cursor.atEnd then
        return []
      else
        match cursor.kind with
        | .dedent =>
            set cursor.next
            return []
        | .indent =>
            set (cursor.next.report .unexpectedIndent
              cursor.here)
            let _ ← statements bound context
            statements bound context
        | _ =>
            match ← (statement bound context).run with
            | some stmt =>
                let others ← statements bound context
                return stmt :: others
            | none =>
                synchronize
                statements bound context

end

end Parser

end Gantry

------------------------------------------------------------
-- Scripts
------------------------------------------------------------

namespace Gantry

namespace Parser

/-
  The statements of a script. A dedent out of place has been
  reported by the lexer and is skipped.
-/
def topLevel
    (bound : Nat) : StateM Cursor (List Stmt) :=
  match bound with
  | 0 => return []
  | bound + 1 => do
      skipNewlines
      let cursor ← get
      if cursor.log.isFull || cursor.atEnd then
        return []
      else
        match cursor.kind with
        | .dedent =>
            set cursor.next
            topLevel bound
        | .indent =>
            set (cursor.next.report .unexpectedIndent
              cursor.here)
            let _ ← statements bound {}
            topLevel bound
        | _ =>
            match ← (statement bound {}).run with
            | some stmt =>
                let others ← topLevel bound
                return stmt :: others
            | none =>
                synchronize
                topLevel bound

/- A bound that no token stream exhausts. -/
def boundFor
    (tokens : List Token) : Nat :=
  2 * tokens.length + 4

/- A whole script. -/
def program : StateM Cursor Program := do
  let cursor ← get
  let body ← topLevel (boundFor cursor.rest)
  let stop := (← get).previous
  return ⟨body, cursor.here.merge stop⟩

end Parser

/- A script's tree, if nothing was wrong with the script. -/
structure Parsed where
  program? : Option Program
  log : Log Issue
deriving Repr

/- Read a token stream as a script. -/
def Parser.parse
    (tokens : List Token) : Parsed :=
  let (program, cursor) := Parser.program.run { rest := tokens }
  { program? :=
      if cursor.log.isEmpty then some program else none
    log := cursor.log }

/-
  Read a script. A script whose characters are at fault is
  not looked at any further.
-/
def Source.parse
    (source : Source) : Parsed :=
  let lexed := source.lex
  if lexed.log.isEmpty then
    Parser.parse lexed.tokens
  else
    { program? := none, log := lexed.log }

end Gantry
