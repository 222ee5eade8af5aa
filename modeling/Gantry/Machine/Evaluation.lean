import Gantry.Machine.Builtin

/-
  This file evaluates expressions and runs statements.

  Evaluation always ends. Expressions and statements are
  followed along their tree; a loop counts its rounds down
  from the limit; and a call of a script's function counts
  down the calls that may still be inside it. The last is
  tied in by passing to evaluation the way to call a
  function.

  Key definitions include:
    * `Gantry.Run.Flow`
    * `Gantry.Run.expr`
    * `Gantry.Run.stmt`
    * `Gantry.Run.enter`
    * `Gantry.Machine.run`
    * `Gantry.Program.evaluate`
-/

------------------------------------------------------------
-- Expressions
------------------------------------------------------------

namespace Gantry

namespace Run

/- A way to call a script's function. -/
abbrev Enter := Closure → List Value → Run Value

/- Call a value. -/
def call
    (stage : Stage)
    (enter : Enter)
    (callee : Value)
    (args : List Value) : Run Value :=
  match callee with
  | .function closure => enter closure args
  | .builtin function => callBuiltin stage function args
  | .method _ receiver method =>
      callMethod method receiver args
  | _ => throw (.notCallable callee.typeName)

/- The value of a literal. -/
def literal :
    Literal → Value
| .number numeral => .number numeral.value
| .string text => .str text
| .bool value => .bool value
| .none => .none

/- The value of a name. -/
def lookup
    (scopes : Scopes)
    (name : String) : Run Value := do
  match (← get).find? scopes name with
  | some value => return value
  | none => throw (.unboundName name)

/-
  Whether the left operand decides a conjunction or a
  disjunction by itself.
-/
def decidesAlone
    (op : BinaryOp)
    (isTrue : Bool) : Bool :=
  match op with
  | .and => !isTrue
  | .or => isTrue
  | _ => false

/- The operators whose result is one of the operands. -/
def isChoice :
    BinaryOp → Bool
| .and => true
| .or => true
| _ => false

mutual

/- Evaluate an expression. -/
def expr
    (stage : Stage)
    (enter : Enter)
    (scopes : Scopes) :
    Expr → Run Value
| .literal value _ => return literal value
| .name word _ => lookup scopes word
| .list items _ => do
    let values ← exprs stage enter scopes items
    makeList (.listed values.toArray)
| .unary op operand _ => do
    let value ← expr stage enter scopes operand
    unary op value
| .binary op left right _ => do
    let first ← expr stage enter scopes left
    if decidesAlone op (first.isTruthy (← heap)) then
      return first
    else
      let second ← expr stage enter scopes right
      if isChoice op then
        return second
      else
        binary op first second
| .call callee args _ => do
    let function ← expr stage enter scopes callee
    let values ← exprs stage enter scopes args
    call stage enter function values
| .index object key _ => do
    let container ← expr stage enter scopes object
    let place ← expr stage enter scopes key
    index container place
| .attr object field _ => do
    let receiver ← expr stage enter scopes object
    attr receiver field.name

/- Evaluate expressions from left to right. -/
def exprs
    (stage : Stage)
    (enter : Enter)
    (scopes : Scopes) :
    List Expr → Run (List Value)
| [] => return []
| first :: rest => do
    let value ← expr stage enter scopes first
    let values ← exprs stage enter scopes rest
    return value :: values

end

end Run

end Gantry

------------------------------------------------------------
-- Loops
------------------------------------------------------------

namespace Gantry

namespace Run

/- How a statement ended. -/
inductive Flow where
  | normal
  | breakLoop
  | continueLoop
  | returned (value : Value)

/- Say that a loop was cut short. -/
def warnLimit
    (stage : Stage)
    (span : Span) : Run Unit :=
  warn
    (s!"line {span.start.line}: loop limit of " ++
      s!"{stage.limits.maxIterations} iterations reached")

/- Go on with a loop unless its body has left it. -/
def afterBody
    (flow : Flow)
    (goOn : Run Flow) : Run Flow :=
  match flow with
  | .normal => goOn
  | .continueLoop => goOn
  | .breakLoop => return .normal
  | .returned value => return .returned value

/-
  Go around while a test holds. A loop whose test still
  holds after the last round allowed is cut short.
-/
def whileLoop
    (test : Run Bool)
    (body : Run Flow)
    (onLimit : Run Unit) :
    Nat → Run Flow
| 0 => do
    if ← test then
      onLimit
    return .normal
| rounds + 1 => do
    if ← test then
      let flow ← body
      afterBody flow (whileLoop test body onLimit rounds)
    else
      return .normal

/- An item of a list as it is now. -/
def itemAt?
    (ref place : Nat) : Run (Option Value) := do
  return (← heap).item? ref place

/-
  Visit the items of a list, also those that are added on
  the way. A loop with an item left after the last round
  allowed is cut short.
-/
def forLoop
    (ref : Nat)
    (visit : Value → Run Flow)
    (onLimit : Run Unit) :
    Nat → Nat → Run Flow
| 0, place => do
    if (← itemAt? ref place).isSome then
      onLimit
    return .normal
| rounds + 1, place => do
    match ← itemAt? ref place with
    | none => return .normal
    | some item =>
        let flow ← visit item
        afterBody flow
          (forLoop ref visit onLimit rounds (place + 1))

end Run

end Gantry

------------------------------------------------------------
-- Statements
------------------------------------------------------------

namespace Gantry

namespace Run

/- Note the statement that is begun. -/
def begin
    (span : Span) : Run Unit :=
  modify fun machine => { machine with current := span }

/- A condition. -/
def truth
    (stage : Stage)
    (enter : Enter)
    (scopes : Scopes)
    (test : Expr) : Run Bool := do
  let value ← expr stage enter scopes test
  return value.isTruthy (← heap)

/- Make a function. -/
def defineFunction
    (scopes : Scopes)
    (name : Ident)
    (params : List Ident)
    (body : Block) : Run Unit := do
  let closure : Closure :=
    { serial := ← nextSerial
      name := name.name
      params := params.map (·.name)
      body := body
      scopes := scopes }
  define scopes name.name (.function closure)

mutual

/- Run a statement. -/
def stmt
    (stage : Stage)
    (enter : Enter)
    (scopes : Scopes) :
    Stmt → Run Flow
| .assign target value span => do
    begin span
    let result ← expr stage enter scopes value
    define scopes target.name result
    return .normal
| .setIndex object key value span => do
    begin span
    let container ← expr stage enter scopes object
    let place ← expr stage enter scopes key
    let item ← expr stage enter scopes value
    setIndex container place item
    return .normal
| .branch test body elifs orElse span => do
    begin span
    if ← truth stage enter scopes test then
      block stage enter scopes body
    else
      match ← elifClauses stage enter scopes elifs with
      | some flow => return flow
      | none => elseClause stage enter scopes orElse
| .forLoop target iterable body span => do
    begin span
    match ← expr stage enter scopes iterable with
    | .list ref =>
        forLoop ref
          (fun item => do
            define scopes target.name item
            block stage enter scopes body)
          (warnLimit stage span)
          stage.limits.maxIterations 0
    | other => mismatch (.notIterable other.typeName)
| .whileLoop test body span => do
    begin span
    whileLoop (truth stage enter scopes test)
      (block stage enter scopes body)
      (warnLimit stage span)
      stage.limits.maxIterations
| .define name params body span => do
    begin span
    defineFunction scopes name params body
    return .normal
| .returnValue value span => do
    begin span
    match value with
    | some result =>
        return .returned
          (← expr stage enter scopes result)
    | none => return .returned .none
| .breakLoop span => do
    begin span
    return .breakLoop
| .continueLoop span => do
    begin span
    return .continueLoop
| .pass span => do
    begin span
    return .normal
| .expr value span => do
    begin span
    let _ ← expr stage enter scopes value
    return .normal

/- Run a block. -/
def block
    (stage : Stage)
    (enter : Enter)
    (scopes : Scopes) :
    Block → Run Flow
| .mk body _ => stmts stage enter scopes body

/- Run statements until one of them leaves. -/
def stmts
    (stage : Stage)
    (enter : Enter)
    (scopes : Scopes) :
    List Stmt → Run Flow
| [] => return .normal
| first :: rest => do
    match ← stmt stage enter scopes first with
    | .normal => stmts stage enter scopes rest
    | flow => return flow

/- Run the first clause whose condition holds. -/
def elifClauses
    (stage : Stage)
    (enter : Enter)
    (scopes : Scopes) :
    List Elif → Run (Option Flow)
| [] => return none
| .mk test body _ :: rest => do
    if ← truth stage enter scopes test then
      return some (← block stage enter scopes body)
    else
      elifClauses stage enter scopes rest

/- Run what is left when no condition holds. -/
def elseClause
    (stage : Stage)
    (enter : Enter)
    (scopes : Scopes) :
    Option Block → Run Flow
| none => return .normal
| some body => block stage enter scopes body

end

end Run

end Gantry

------------------------------------------------------------
-- Calls
------------------------------------------------------------

namespace Gantry

namespace Run

/- The variables of a call. Missing arguments are none. -/
def arguments :
    List String → List Value → Bindings → Bindings
| [], _, bindings => bindings
| param :: params, [], bindings =>
    arguments params [] (Bindings.set param .none bindings)
| param :: params, value :: values, bindings =>
    arguments params values
      (Bindings.set param value bindings)

/- Count a call that is begun. -/
def deepen : Run Unit :=
  modify fun machine =>
    { machine with depth := machine.depth + 1 }

/- Count a call that has ended. -/
def rise : Run Unit :=
  modify fun machine =>
    { machine with depth := machine.depth - 1 }

/-
  Run a function's body as a call. The call is over whether
  or not the body succeeds; the statement that made it is
  current again only if it does.
-/
def callBody
    (body : Run Flow) : Run Value := do
  let caller := (← get).current
  deepen
  let flow ←
    tryCatch body fun fault => do
      rise
      throw fault
  rise
  begin caller
  match flow with
  | .returned value => return value
  | _ => return .none

/- More arguments than a function has parameters. -/
def checkArity
    (closure : Closure)
    (args : List Value) : Run Unit :=
  if closure.params.length < args.length then
    mismatch
      (.functionArity closure.name closure.params.length
        args.length)
  else
    return ()

/-
  Call a script's function inside of which so many calls may
  still be made.
-/
def enter
    (stage : Stage) :
    Nat → Enter
| 0, closure, args => do
    checkArity closure args
    throw (.recursionLimit stage.limits.maxCallDepth)
| calls + 1, closure, args => do
    checkArity closure args
    let scopes ←
      openScope closure.scopes
        (arguments closure.params args [])
    callBody
      (block stage (enter stage calls) scopes closure.body)

/- Call a function with all the calls that are allowed. -/
def enterFirst
    (stage : Stage) : Enter :=
  enter stage stage.limits.maxCallDepth

end Run

end Gantry

------------------------------------------------------------
-- Scripts
------------------------------------------------------------

namespace Gantry

namespace Machine

/- Run the statements of a script one after another. -/
def topLevel
    (stage : Stage) :
    List Stmt → Run Unit
| [] => return ()
| first :: rest => do
    let _ ←
      Run.stmt stage (Run.enterFirst stage) globals first
    topLevel stage rest

/- Run a script on a machine, up to its first fault. -/
def run
    (machine : Machine)
    (stage : Stage)
    (program : Program) : Option Crash × Machine :=
  match (topLevel stage program.body).run.run machine with
  | (.ok _, after) => (none, after)
  | (.error fault, after) =>
      (some ⟨fault, after.current⟩, after)

/- Evaluate an expression among a machine's variables. -/
def eval
    (machine : Machine)
    (stage : Stage)
    (expr : Expr) : Except RuntimeFault Value × Machine :=
  (Run.expr stage (Run.enterFirst stage) globals
    expr).run.run machine

/- Call a value. -/
def call
    (machine : Machine)
    (stage : Stage)
    (callee : Value)
    (args : List Value) :
    Except RuntimeFault Value × Machine :=
  (Run.call stage (Run.enterFirst stage) callee
    args).run.run machine

/- Call a method of a value. -/
def callMethod
    (machine : Machine)
    (method : Method)
    (receiver : Value)
    (args : List Value) :
    Except RuntimeFault Value × Machine :=
  (Run.callMethod method receiver args).run.run machine

/- The order of two values. -/
def compare
    (machine : Machine)
    (left right : Value) : Except RuntimeFault Ordering :=
  ((Run.compare left right).run.run machine).1

end Machine

/- What a script left behind, and the fault that ended it. -/
structure Evaluation where
  transcript : Transcript
  crash? : Option Crash
deriving DecidableEq, Repr

/- Run a script on a fresh machine. -/
def Program.evaluate
    (program : Program)
    (stage : Stage) : Evaluation :=
  let (crash?, machine) := Machine.run {} stage program
  { transcript := machine.transcript, crash? := crash? }

end Gantry
