import Gantry.Parser.Statement

/-
  This file reads scripts a second time. What encloses a
  statement or an expression is not handed down but counted:
  a count is raised on the way in and put back on the way
  out.

  Such a reading need not have an outcome. It has none if it
  takes the last token, or if it skips out of an indented
  region that it has not gone into. It is also given some
  fuel, of which every round of a loop and every bracket or
  region inside of another takes one, and has no outcome if
  the fuel does not last. A reading that does not end has no
  outcome whatever the fuel.

  A reading leaves behind where it has tried to read a
  statement, at which level, and how often it has met the
  end of a region outside of all regions.

  Key definitions include:
    * `Gantry.Counts`
    * `Gantry.Tally`
    * `Gantry.Counting`
    * `Gantry.Counting.expression`
    * `Gantry.Counting.synchronize`
    * `Gantry.Counting.trial`
    * `Gantry.Counting.program`
-/

------------------------------------------------------------
-- Tallies
------------------------------------------------------------

namespace Gantry

/-
  The loops of the same function and the functions around
  what is being read, and the levels of the expression.
-/
structure Counts where
  loops : Nat := 0
  functions : Nat := 0
  depth : Nat := 0
deriving DecidableEq, Repr

namespace Counts

/- One more loop around what is read next. -/
def inLoop
    (counts : Counts) : Counts :=
  { counts with loops := counts.loops + 1 }

/- The loop that was entered last has been read. -/
def pastLoop
    (counts : Counts) : Counts :=
  { counts with loops := counts.loops - 1 }

/-
  One more function around what is read next. Loops around
  the function do not count inside.
-/
def inFunction
    (counts : Counts) : Counts :=
  { counts with
    loops := 0
    functions := counts.functions + 1 }

/-
  The function that was entered last has been read. The
  loops around it count again.
-/
def pastFunction
    (loops : Nat)
    (counts : Counts) : Counts :=
  { counts with
    loops := loops
    functions := counts.functions - 1 }

end Counts

/- Where reading stands, and in how many regions. -/
structure Post where
  cursor : Cursor
  counts : Counts := {}
  level : Nat := 0
deriving DecidableEq, Repr

/-
  A trial to read a statement: where it started, and
  where reading goes on behind the statement or behind what
  was skipped in its place.
-/
structure Trial where
  start : Post
  stop : Post
deriving DecidableEq, Repr

/- Where reading stands, and what it leaves behind. -/
structure Tally extends Post where
  strays : Nat := 0
  trials : List Trial := []
deriving DecidableEq, Repr

/- A step of reading that may have no outcome. -/
abbrev Steady (α : Type) := StateT Tally Option α

/- Such a step that may also fail. -/
abbrev Counting (α : Type) := OptionT (StateT Tally Option) α

end Gantry

------------------------------------------------------------
-- Steps
------------------------------------------------------------

namespace Gantry

namespace Counting

variable {α : Type}

/- There is no outcome. -/
def lost : Steady α :=
  fun _ => none

/- The kind of the next token. -/
def kind : Steady TokenKind := do
  return (← get).cursor.kind

/- The text of the next token. -/
def here : Steady Span := do
  return (← get).cursor.here

/- Take the next token, which must not be the last. -/
def take : Steady Span := do
  let tally ← get
  if tally.cursor.rest.length ≤ 1 then
    lost
  else
    set { tally with cursor := tally.cursor.next }
    return tally.cursor.here

/- Report an issue and go on. -/
def report
    (fault : Fault)
    (span : Span) : Steady Unit :=
  modify fun tally =>
    { tally with cursor := tally.cursor.report fault span }

/- Report an issue and fail. -/
def reject
    (fault : Fault)
    (span : Span) : Counting α := do
  report fault span
  failure

/- Report an issue at the next token and fail. -/
def rejectHere
    (fault : Fault) : Counting α := do
  reject fault (← here)

/- The next token is of the given kind. -/
def check
    (expected : TokenKind) : Steady Bool := do
  return (← kind) == expected

/- Take the next token if it is of the given kind. -/
def eat
    (expected : TokenKind) : Steady Bool := do
  if ← check expected then
    let _ ← take
    return true
  else
    return false

/- Take a token of the given kind. -/
def expect
    (expected : TokenKind) : Counting Span := do
  let found ← kind
  if found == expected then
    take
  else
    rejectHere (.expectedToken expected found)

/- Take a name. -/
def identifier : Counting Ident := do
  match ← kind with
  | .name name =>
      let span ← take
      return ⟨name, span⟩
  | .keyword word => rejectHere (.reservedName word)
  | found => rejectHere (.expectedName found)

/- Take the end of a line. -/
def lineEnd : Counting Unit := do
  match ← kind with
  | .newline =>
      let _ ← take
      return ()
  | .endOfFile => return ()
  | .dedent => return ()
  | found => rejectHere (.expectedLineEnd found)

/- How deep the expression is nested here. -/
def depth : Steady Nat := do
  return (← get).counts.depth

/- Put the depth back to what it was. -/
def restore
    (depth : Nat) : Steady Unit :=
  modify fun tally =>
    { tally with
      counts := { tally.counts with depth := depth } }

/- One more level of the expression. -/
def deeper : Counting Unit := do
  restore ((← depth) + 1)
  if maxNesting < (← depth) then
    rejectHere .nestingTooDeep

end Counting

end Gantry

------------------------------------------------------------
-- Recovery
------------------------------------------------------------

namespace Gantry

namespace Counting

/- Skip blank lines. -/
def skipNewlines :
    Nat → Steady Unit
| 0 => lost
| fuel + 1 => do
    if ← check .newline then
      let _ ← take
      skipNewlines fuel

/-
  Skip an indented region through its end, of which `depth`
  levels are open.
-/
def skipRegion :
    Nat → Nat → Steady Unit
| 0, _ => lost
| fuel + 1, depth => do
    match ← kind with
    | .endOfFile => return ()
    | .indent =>
        let _ ← take
        skipRegion fuel (depth + 1)
    | .dedent =>
        match depth with
        | 0 => lost
        | 1 =>
            let _ ← take
            return ()
        | depth + 1 =>
            let _ ← take
            skipRegion fuel depth
    | _ =>
        let _ ← take
        skipRegion fuel depth

/-
  Skip to the next line after a fault, and what is indented
  under the line skipped.
-/
def synchronize :
    Nat → Steady Unit
| 0 => lost
| fuel + 1 => do
    match ← kind with
    | .endOfFile => return ()
    | .newline =>
        let _ ← take
        if ← check .indent then
          skipRegion fuel 0
    | .indent => return ()
    | .dedent => return ()
    | _ =>
        let _ ← take
        synchronize fuel

end Counting

end Gantry

------------------------------------------------------------
-- Operators
------------------------------------------------------------

namespace Gantry

namespace Counting

variable {α : Type}

/- A reading behind which the depth is put back. -/
def nested
    (body : Counting α) : Counting α :=
  OptionT.mk do
    let outside ← depth
    let value? ← body.run
    restore outside
    return value?

/- The further links of a chain, grouped to the left. -/
def links
    (op? : TokenKind → Option BinaryOp)
    (operand : Counting Expr) :
    Nat → Expr → Counting Expr
| 0, _ => lost
| fuel + 1, left => do
    match op? (← kind) with
    | none => return left
    | some op =>
        let _ ← take
        deeper
        let right ← operand
        links op? operand fuel (Parser.join op left right)

/- A chain of operators of one level. -/
def chain
    (fuel : Nat)
    (op? : TokenKind → Option BinaryOp)
    (operand : Counting Expr) : Counting Expr :=
  nested do
    let left ← operand
    links op? operand fuel left

/- Any number of one operator in front of an operand. -/
def prefixed
    (op : UnaryOp)
    (mark : TokenKind)
    (operand : Counting Expr) :
    Nat → Counting Expr
| 0 => lost
| fuel + 1 => do
    if ← check mark then
      let start ← take
      let inner ← nested do
        deeper
        prefixed op mark operand fuel
      return .unary op inner (start.merge inner.span)
    else
      operand

end Counting

end Gantry

------------------------------------------------------------
-- Primaries And Suffixes
------------------------------------------------------------

namespace Gantry

namespace Counting

/- Expressions between commas, up to a closing mark. -/
def commaList
    (item : Counting Expr)
    (close : Symbol) :
    Nat → Counting (List Expr)
| 0 => lost
| fuel + 1 => do
    if ← check (.symbol close) then
      return []
    else
      let first ← item
      if ← eat (.symbol .comma) then
        let others ← commaList item close fuel
        return first :: others
      else
        return [first]

/- A list of expressions with its closing mark. -/
def enclosed
    (fuel : Nat)
    (item : Counting Expr)
    (close : Symbol) : Counting (List Expr × Span) := do
  let items ← commaList item close fuel
  let stop ← expect (.symbol close)
  return (items, stop)

/- A literal, a name, a list, or an expression in brackets. -/
def primary
    (fuel : Nat)
    (inner : Counting Expr) : Counting Expr := do
  let start ← here
  match ← kind with
  | .name word =>
      let _ ← take
      return .name word start
  | .symbol .leftBracket =>
      let _ ← take
      let (items, stop) ← enclosed fuel inner .rightBracket
      return .list items (start.merge stop)
  | .symbol .leftParen =>
      let _ ← take
      let expr ← inner
      let stop ← expect (.symbol .rightParen)
      return expr.withSpan (start.merge stop)
  | found =>
      match Parser.literal? found with
      | some value =>
          let _ ← take
          return .literal value start
      | none => rejectHere (.expectedExpression found)

/- One call, index or attribute behind an expression. -/
def suffix
    (fuel : Nat)
    (inner : Counting Expr)
    (object : Expr) : Counting Expr := do
  match ← kind with
  | .symbol .leftParen =>
      let _ ← take
      let (args, stop) ← enclosed fuel inner .rightParen
      return .call object args (object.span.merge stop)
  | .symbol .leftBracket =>
      let _ ← take
      let key ← inner
      let stop ← expect (.symbol .rightBracket)
      return .index object key (object.span.merge stop)
  | _ =>
      let _ ← take
      let field ← identifier
      return .attr object field
        (object.span.merge field.span)

/- The suffixes of an expression. -/
def suffixes
    (inner : Counting Expr) :
    Nat → Expr → Counting Expr
| 0, _ => lost
| fuel + 1, object => do
    if Parser.startsSuffix (← kind) then
      deeper
      let longer ← suffix fuel inner object
      suffixes inner fuel longer
    else
      return object

/- A primary with its suffixes. -/
def operand
    (fuel : Nat)
    (inner : Counting Expr) : Counting Expr :=
  nested do
    let object ← primary fuel inner
    suffixes inner fuel object

end Counting

end Gantry

------------------------------------------------------------
-- Expressions
------------------------------------------------------------

namespace Gantry

namespace Counting

/- Unary minus. -/
def signed
    (fuel : Nat)
    (inner : Counting Expr) : Counting Expr :=
  prefixed .neg (.symbol .minus) (operand fuel inner) fuel

/- Products. -/
def product
    (fuel : Nat)
    (inner : Counting Expr) : Counting Expr :=
  chain fuel Parser.productOp? (signed fuel inner)

/- Sums. -/
def sum
    (fuel : Nat)
    (inner : Counting Expr) : Counting Expr :=
  chain fuel Parser.sumOp? (product fuel inner)

/- Comparisons. -/
def comparison
    (fuel : Nat)
    (inner : Counting Expr) : Counting Expr :=
  chain fuel Parser.comparisonOp? (sum fuel inner)

/- Negations. -/
def negation
    (fuel : Nat)
    (inner : Counting Expr) : Counting Expr :=
  prefixed .not (.keyword .notWord) (comparison fuel inner)
    fuel

/- Conjunctions. -/
def conjunction
    (fuel : Nat)
    (inner : Counting Expr) : Counting Expr :=
  chain fuel Parser.andOp? (negation fuel inner)

/- Disjunctions. -/
def disjunction
    (fuel : Nat)
    (inner : Counting Expr) : Counting Expr :=
  chain fuel Parser.orOp? (conjunction fuel inner)

/- An expression. -/
def expression :
    Nat → Counting Expr
| 0 => lost
| fuel + 1 =>
    nested do
      deeper
      disjunction (fuel + 1) (expression fuel)

end Counting

end Gantry

------------------------------------------------------------
-- Simple Statements
------------------------------------------------------------

namespace Gantry

namespace Counting

/- A statement of one word. -/
def passStatement : Counting Stmt := do
  let span ← take
  lineEnd
  return .pass span

/- A statement that leaves a loop or its round. -/
def loopJump
    (word : Keyword)
    (make : Span → Stmt) : Counting Stmt := do
  let span ← take
  if (← get).counts.loops = 0 then
    report (.outsideLoop word) span
  lineEnd
  return make span

/- The value behind the word `return`, if there is one. -/
def returnedValue
    (fuel : Nat) : Counting (Option Expr) := do
  match ← kind with
  | .newline => return none
  | .endOfFile => return none
  | .dedent => return none
  | _ =>
      let value ← expression fuel
      return some value

/- A statement that leaves a function. -/
def returnStatement
    (fuel : Nat) : Counting Stmt := do
  let start ← take
  if (← get).counts.functions = 0 then
    report .outsideFunction start
  let value ← returnedValue fuel
  let span :=
    match value with
    | some expr => start.merge expr.span
    | none => start
  lineEnd
  return .returnValue value span

/- An expression, or an assignment to one. -/
def exprStatement
    (fuel : Nat) : Counting Stmt := do
  let expr ← expression fuel
  if ← check (.symbol .eq) then
    let mark ← take
    let value ← expression fuel
    match Parser.assignment? expr value with
    | some stmt =>
        lineEnd
        return stmt
    | none =>
        reject .invalidTarget (expr.span.merge mark)
  else
    lineEnd
    return .expr expr expr.span

/- Parameters between commas. -/
def parameters :
    Nat → List Ident → Counting (List Ident)
| 0, _ => lost
| fuel + 1, seen => do
    if ← check (.symbol .rightParen) then
      return seen
    else
      let param ← identifier
      if seen.any (·.name == param.name) then
        report (.duplicateParameter param.name) param.span
      if ← eat (.symbol .comma) then
        parameters fuel (seen ++ [param])
      else
        return seen ++ [param]

/- A function's name and its parameters in parentheses. -/
def signature
    (fuel : Nat) : Counting (Ident × List Ident) := do
  let name ← identifier
  let _ ← expect (.symbol .leftParen)
  let params ← parameters fuel []
  let _ ← expect (.symbol .rightParen)
  return (name, params)

/- A condition with its colon. -/
def condition
    (fuel : Nat) : Counting Expr := do
  let test ← expression fuel
  let _ ← expect (.symbol .colon)
  return test

/- The end of the line before a block, and its start. -/
def blockStart : Counting Span := do
  let found ← kind
  if found == .newline then
    let _ ← take
    if ← check .indent then
      take
    else
      rejectHere .expectedBlock
  else
    rejectHere (.expectedBody found)

end Counting

end Gantry

------------------------------------------------------------
-- Blocks
------------------------------------------------------------

namespace Gantry

namespace Counting

/- The statements of a region that has been gone into. -/
def region
    (inner : Steady (List Stmt)) :
    Steady (List Stmt) := do
  modify fun tally => { tally with level := tally.level + 1 }
  let stmts ← inner
  modify fun tally => { tally with level := tally.level - 1 }
  return stmts

/- An indented block behind a colon. -/
def block
    (inner : Steady (List Stmt)) : Counting Block := do
  let start ← blockStart
  let stmts ← region inner
  return .mk stmts (Parser.blockSpan start stmts)

/- A block around which something is counted. -/
def counted
    (enter leave : Counts → Counts)
    (inner : Steady (List Stmt)) : Counting Block :=
  OptionT.mk do
    modify fun tally =>
      { tally with counts := enter tally.counts }
    let body? ← (block inner).run
    modify fun tally =>
      { tally with counts := leave tally.counts }
    return body?

/- The body of a function. -/
def functionBody
    (inner : Steady (List Stmt)) : Counting Block := do
  let loops := (← get).counts.loops
  counted Counts.inFunction (Counts.pastFunction loops) inner

/- The body of a loop. -/
def loopBody
    (inner : Steady (List Stmt)) : Counting Block :=
  counted Counts.inLoop Counts.pastLoop inner

/- The definition of a function. -/
def definition
    (fuel : Nat)
    (inner : Steady (List Stmt)) : Counting Stmt := do
  let start ← take
  let (name, params) ← signature fuel
  let _ ← expect (.symbol .colon)
  let body ← functionBody inner
  return .define name params body (start.merge body.span)

/- The further conditions of a branch. -/
def elifClauses
    (inner : Steady (List Stmt)) :
    Nat → Counting (List Elif)
| 0 => lost
| fuel + 1 => do
    if ← check (.keyword .elifWord) then
      let start ← take
      let test ← condition fuel
      let body ← block inner
      let others ← elifClauses inner fuel
      return .mk test body (start.merge body.span) :: others
    else
      return []

/- The body of a branch for when no condition holds. -/
def elseClause
    (inner : Steady (List Stmt)) :
    Counting (Option Block) := do
  if ← eat (.keyword .elseWord) then
    let _ ← expect (.symbol .colon)
    let body ← block inner
    return some body
  else
    return none

/- A branch on conditions. -/
def branch
    (fuel : Nat)
    (inner : Steady (List Stmt)) : Counting Stmt := do
  let start ← take
  let test ← condition fuel
  let body ← block inner
  let elifs ← elifClauses inner fuel
  let orElse ← elseClause inner
  let stop :=
    match orElse, elifs.getLast? with
    | some last, _ => last.span
    | none, some last => last.span
    | none, none => body.span
  return .branch test body elifs orElse (start.merge stop)

/- A loop over a list. -/
def forLoop
    (fuel : Nat)
    (inner : Steady (List Stmt)) : Counting Stmt := do
  let start ← take
  let target ← identifier
  let _ ← expect (.keyword .inWord)
  let iterable ← condition fuel
  let body ← loopBody inner
  return .forLoop target iterable body
    (start.merge body.span)

/- A loop under a condition. -/
def whileLoop
    (fuel : Nat)
    (inner : Steady (List Stmt)) : Counting Stmt := do
  let start ← take
  let test ← condition fuel
  let body ← loopBody inner
  return .whileLoop test body (start.merge body.span)

/- A statement. -/
def statement
    (fuel : Nat)
    (inner : Steady (List Stmt)) : Counting Stmt := do
  match ← kind with
  | .keyword .defWord => definition fuel inner
  | .keyword .ifWord => branch fuel inner
  | .keyword .forWord => forLoop fuel inner
  | .keyword .whileWord => whileLoop fuel inner
  | .keyword .returnWord => returnStatement fuel
  | .keyword .breakWord => loopJump .breakWord .breakLoop
  | .keyword .continueWord =>
      loopJump .continueWord .continueLoop
  | .keyword .passWord => passStatement
  | _ => exprStatement fuel

end Counting

end Gantry

------------------------------------------------------------
-- Scripts
------------------------------------------------------------

namespace Gantry

namespace Counting

/-
  A statement, or what is skipped in its place. The trial is
  noted with where it started and where it has stopped.
-/
def trial
    (fuel : Nat)
    (inner : Steady (List Stmt)) :
    Steady (Option Stmt) := do
  let start ← get
  let stmt? ← (statement fuel inner).run
  if stmt?.isNone then
    synchronize fuel
  modify fun tally =>
    { tally with
      trials :=
        tally.trials ++ [⟨start.toPost, tally.toPost⟩] }
  return stmt?

/- A region that nothing opened. -/
def unexpectedRegion
    (inner : Steady (List Stmt)) : Steady Unit := do
  let span ← take
  report .unexpectedIndent span
  let _ ← region inner
  return ()

/- Statements through the end of their region. -/
def statements :
    Nat → Steady (List Stmt)
| 0 => lost
| fuel + 1 => do
    skipNewlines (fuel + 1)
    let tally ← get
    if tally.cursor.log.isFull || tally.cursor.atEnd then
      return []
    else
      match tally.cursor.kind with
      | .dedent =>
          let _ ← take
          return []
      | .indent =>
          unexpectedRegion (statements fuel)
          statements fuel
      | _ =>
          match ← trial (fuel + 1) (statements fuel) with
          | some stmt =>
              let others ← statements fuel
              return stmt :: others
          | none => statements fuel

/-
  The statements of a script. The end of a region out of
  place is counted.
-/
def topLevel :
    Nat → Steady (List Stmt)
| 0 => lost
| fuel + 1 => do
    skipNewlines (fuel + 1)
    let tally ← get
    if tally.cursor.log.isFull || tally.cursor.atEnd then
      return []
    else
      match tally.cursor.kind with
      | .dedent =>
          let _ ← take
          modify fun tally =>
            { tally with strays := tally.strays + 1 }
          topLevel fuel
      | .indent =>
          unexpectedRegion (statements fuel)
          topLevel fuel
      | _ =>
          match ← trial (fuel + 1) (statements fuel) with
          | some stmt =>
              let others ← topLevel fuel
              return stmt :: others
          | none => topLevel fuel

/- A whole script. -/
def program
    (fuel : Nat) : Steady Program := do
  let start ← here
  let body ← topLevel fuel
  let stop := (← get).cursor.previous
  return ⟨body, start.merge stop⟩

/- A reading of tokens from the first one on. -/
def parse
    (fuel : Nat)
    (tokens : List Token) : Option (Program × Tally) :=
  (program fuel).run { cursor := { rest := tokens } }

end Counting

end Gantry
