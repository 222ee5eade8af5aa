import Gantry.Proofs.Machine.Invariant

/-
  This file evaluates a script with the place of every fault
  handed down: the statement that is being run is passed to
  the expressions and calls in it, and nothing is noted in
  the machine. It says what the place of a fault should be.

  A loop whose test is made again is a place of its own, so
  that it can be told apart from one made the first time.

  Key definitions include:
    * `Gantry.Place`
    * `Gantry.Mishap`
    * `Gantry.Located`
    * `Gantry.Located.expr`
    * `Gantry.Located.stmt`
    * `Gantry.Machine.locate`
-/

------------------------------------------------------------
-- Places
------------------------------------------------------------

namespace Gantry

/-
  Where a script can be at fault: a statement, and whether it
  is a loop whose test is made again.
-/
structure Place where
  span : Span
  again : Bool
deriving DecidableEq, Repr

/- A statement that has been begun. -/
def Place.begun
    (span : Span) : Place :=
  ⟨span, false⟩

/- A loop that has come back to its test. -/
def Place.repeated
    (span : Span) : Place :=
  ⟨span, true⟩

/- A fault and where it belongs. -/
structure Mishap where
  fault : RuntimeFault
  place : Place
deriving DecidableEq, Repr

/- A step of a script whose faults know their place. -/
abbrev Located (α : Type) :=
  ExceptT Mishap (StateM Machine) α

namespace Located

variable {α : Type}

/- A step whose faults belong to a place. -/
def blame
    (place : Place)
    (run : Run α) : Located α :=
  ExceptT.adapt (fun fault => ⟨fault, place⟩) run

end Located

end Gantry

------------------------------------------------------------
-- Expressions
------------------------------------------------------------

namespace Gantry

namespace Located

/- A way to call a script's function from a place. -/
abbrev Enter :=
  Place → Closure → List Value → Located Value

/- Call a value. -/
def call
    (stage : Stage)
    (enter : Enter)
    (place : Place)
    (callee : Value)
    (args : List Value) : Located Value :=
  match callee with
  | .function closure => enter place closure args
  | .builtin function =>
      blame place (Run.callBuiltin stage function args)
  | .method _ receiver method =>
      blame place (Run.callMethod method receiver args)
  | _ => blame place (throw (.notCallable callee.typeName))

mutual

/- Evaluate an expression. -/
def expr
    (stage : Stage)
    (enter : Enter)
    (scopes : Scopes)
    (place : Place) :
    Expr → Located Value
| .literal value _ => return Run.literal value
| .name word _ => blame place (Run.lookup scopes word)
| .list items _ => do
    let values ← exprs stage enter scopes place items
    blame place (Run.makeList (.listed values.toArray))
| .unary op operand _ => do
    let value ← expr stage enter scopes place operand
    blame place (Run.unary op value)
| .binary op left right _ => do
    let first ← expr stage enter scopes place left
    let heap ← blame place Run.heap
    if Run.decidesAlone op (first.isTruthy heap) then
      return first
    else
      let second ← expr stage enter scopes place right
      if Run.isChoice op then
        return second
      else
        blame place (Run.binary op first second)
| .call callee args _ => do
    let function ← expr stage enter scopes place callee
    let values ← exprs stage enter scopes place args
    call stage enter place function values
| .index object key _ => do
    let container ← expr stage enter scopes place object
    let slot ← expr stage enter scopes place key
    blame place (Run.index container slot)
| .attr object field _ => do
    let receiver ← expr stage enter scopes place object
    blame place (Run.attr receiver field.name)

/- Evaluate expressions from left to right. -/
def exprs
    (stage : Stage)
    (enter : Enter)
    (scopes : Scopes)
    (place : Place) :
    List Expr → Located (List Value)
| [] => return []
| first :: rest => do
    let value ← expr stage enter scopes place first
    let values ← exprs stage enter scopes place rest
    return value :: values

end

/- A condition. -/
def truth
    (stage : Stage)
    (enter : Enter)
    (scopes : Scopes)
    (test : Expr)
    (place : Place) : Located Bool := do
  let value ← expr stage enter scopes place test
  let heap ← blame place Run.heap
  return value.isTruthy heap

end Located

end Gantry

------------------------------------------------------------
-- Loops
------------------------------------------------------------

namespace Gantry

namespace Located

open Run (Flow)

/- Go on with a loop unless its body has left it. -/
def afterBody
    (flow : Flow)
    (goOn : Located Flow) : Located Flow :=
  match flow with
  | .normal => goOn
  | .continueLoop => goOn
  | .breakLoop => return .normal
  | .returned value => return .returned value

/- Go around while a test holds that is made at a place. -/
def whileLoop
    (test : Place → Located Bool)
    (body : Located Flow)
    (onLimit : Located Unit)
    (span : Span) :
    Nat → Place → Located Flow
| 0, place => do
    if ← test place then
      onLimit
    return .normal
| rounds + 1, place => do
    if ← test place then
      let flow ← body
      afterBody flow
        (whileLoop test body onLimit span rounds
          (.repeated span))
    else
      return .normal

/- Visit the items of a list. -/
def forLoop
    (place : Place)
    (ref : Nat)
    (visit : Value → Located Flow)
    (onLimit : Located Unit) :
    Nat → Nat → Located Flow
| 0, slot => do
    if (← blame place (Run.itemAt? ref slot)).isSome then
      onLimit
    return .normal
| rounds + 1, slot => do
    match ← blame place (Run.itemAt? ref slot) with
    | none => return .normal
    | some item =>
        let flow ← visit item
        afterBody flow
          (forLoop place ref visit onLimit rounds (slot + 1))

end Located

end Gantry

------------------------------------------------------------
-- Statements
------------------------------------------------------------

namespace Gantry

namespace Located

open Run (Flow)

mutual

/- Run a statement. -/
def stmt
    (stage : Stage)
    (enter : Enter)
    (scopes : Scopes) :
    Stmt → Located Flow
| .assign target value span => do
    let result ← expr stage enter scopes (.begun span) value
    blame (.begun span)
      (Run.define scopes target.name result)
    return .normal
| .setIndex object key value span => do
    let container ←
      expr stage enter scopes (.begun span) object
    let slot ← expr stage enter scopes (.begun span) key
    let item ← expr stage enter scopes (.begun span) value
    blame (.begun span) (Run.setIndex container slot item)
    return .normal
| .branch test body elifs orElse span => do
    if ← truth stage enter scopes test (.begun span) then
      block stage enter scopes body
    else
      match ← elifClauses stage enter scopes span elifs with
      | some flow => return flow
      | none => elseClause stage enter scopes orElse
| .forLoop target iterable body span => do
    match ←
        expr stage enter scopes (.begun span) iterable with
    | .list ref =>
        forLoop (.begun span) ref
          (fun item => do
            blame (.begun span)
              (Run.define scopes target.name item)
            block stage enter scopes body)
          (blame (.begun span) (Run.warnLimit stage span))
          stage.limits.maxIterations 0
    | other =>
        blame (.begun span)
          (Run.mismatch (.notIterable other.typeName))
| .whileLoop test body span =>
    whileLoop (truth stage enter scopes test)
      (block stage enter scopes body)
      (blame (.begun span) (Run.warnLimit stage span))
      span stage.limits.maxIterations (.begun span)
| .define name params body span => do
    blame (.begun span)
      (Run.defineFunction scopes name params body)
    return .normal
| .returnValue value span => do
    match value with
    | some result =>
        return .returned
          (← expr stage enter scopes (.begun span) result)
    | none => return .returned .none
| .breakLoop _ => return .breakLoop
| .continueLoop _ => return .continueLoop
| .pass _ => return .normal
| .expr value span => do
    let _ ← expr stage enter scopes (.begun span) value
    return .normal

/- Run a block. -/
def block
    (stage : Stage)
    (enter : Enter)
    (scopes : Scopes) :
    Block → Located Flow
| .mk body _ => stmts stage enter scopes body

/- Run statements until one of them leaves. -/
def stmts
    (stage : Stage)
    (enter : Enter)
    (scopes : Scopes) :
    List Stmt → Located Flow
| [] => return .normal
| first :: rest => do
    match ← stmt stage enter scopes first with
    | .normal => stmts stage enter scopes rest
    | flow => return flow

/-
  Run the first clause whose condition holds. The conditions
  are part of the statement that the clauses belong to.
-/
def elifClauses
    (stage : Stage)
    (enter : Enter)
    (scopes : Scopes)
    (span : Span) :
    List Elif → Located (Option Flow)
| [] => return none
| .mk test body _ :: rest => do
    if ← truth stage enter scopes test (.begun span) then
      return some (← block stage enter scopes body)
    else
      elifClauses stage enter scopes span rest

/- Run what is left when no condition holds. -/
def elseClause
    (stage : Stage)
    (enter : Enter)
    (scopes : Scopes) :
    Option Block → Located Flow
| none => return .normal
| some body => block stage enter scopes body

end

end Located

end Gantry

------------------------------------------------------------
-- Calls And Scripts
------------------------------------------------------------

namespace Gantry

namespace Located

open Run (Flow)

/- Change the number of calls in progress. -/
def countCalls
    (change : Nat → Nat) : Located Unit :=
  modify fun machine =>
    { machine with depth := change machine.depth }

/-
  Run a function's body as a call, which is over whether or
  not the body succeeds.
-/
def callBody
    (body : Located Flow) : Located Value := do
  countCalls (· + 1)
  let flow ←
    tryCatch body fun mishap => do
      countCalls (· - 1)
      throw mishap
  countCalls (· - 1)
  return Run.givenBack flow

/-
  Call a script's function. A call that is refused is a fault
  of the place that it is made from.
-/
def enter
    (stage : Stage) :
    Nat → Enter
| 0, place, closure, args => do
    blame place (Run.checkArity closure args)
    blame place
      (throw (.recursionLimit stage.limits.maxCallDepth))
| calls + 1, place, closure, args => do
    blame place (Run.checkArity closure args)
    let scopes ←
      blame place
        (Run.openScope closure.scopes
          (Run.arguments closure.params args []))
    callBody
      (block stage (enter stage calls) scopes closure.body)

/- Run the statements of a script one after another. -/
def topLevel
    (stage : Stage) :
    List Stmt → Located Unit
| [] => return ()
| first :: rest => do
    let _ ←
      stmt stage (enter stage stage.limits.maxCallDepth)
        Machine.globals first
    topLevel stage rest

end Located

/-
  Run a script on a machine, up to its first fault, and say
  where that belongs.
-/
def Machine.locate
    (machine : Machine)
    (stage : Stage)
    (program : Program) : Option Mishap × Machine :=
  match
    (Located.topLevel stage program.body).run.run machine with
  | (.ok _, after) => (none, after)
  | (.error mishap, after) => (some mishap, after)

end Gantry
