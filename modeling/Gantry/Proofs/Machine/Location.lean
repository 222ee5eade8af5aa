import Gantry.Parser.Statement
import Gantry.Proofs.Machine.Blindness
import Gantry.Proofs.Machine.Located

/-
  This file compares the place that a crash reports, which is
  the statement begun last, with the place that the fault
  belongs to. A statement notes itself when it is begun, and
  a call that succeeds puts back the statement that made it,
  so that the two are the same throughout a statement. Only a
  loop does not note itself again when it comes back to its
  test.

  Key definitions include:
    * `Gantry.Place.Noted`
    * `Gantry.Located.Ends`
    * `Gantry.Located.Follows`

  Main statements:
    * `Gantry.Located.expr_follows`
    * `Gantry.Located.stmt_follows`
    * `Gantry.Located.enter_follows`
    * `Gantry.Machine.run_agrees_with_locate`
-/

------------------------------------------------------------
-- Located Steps
------------------------------------------------------------

namespace Gantry

/-
  A machine has noted the statement of a place. Nothing is
  asked of it where a loop has come back to its test.
-/
def Place.Noted
    (place : Place)
    (machine : Machine) : Prop :=
  place.again = false → machine.current = place.span

namespace Located

open Run (Flow)

variable {α β : Type}

/- How a located step ends, and the machine it leaves. -/
def on
    (step : Located α)
    (machine : Machine) : Except Mishap α × Machine :=
  step.run.run machine

theorem on_blame
    (place : Place)
    (run : Run α)
    (machine : Machine) :
    on (blame place run) machine =
      match Run.on run machine with
      | (.ok value, after) => (.ok value, after)
      | (.error fault, after) =>
          (.error ⟨fault, place⟩, after) := by
  change
    StateT.run (Except.mapError _ <$> ExceptT.run run)
        machine = _
  rw [StateT.run_map]
  rcases hRun : Run.on run machine with ⟨outcome, after⟩
  have hStep :
      StateT.run (ExceptT.run run) machine =
        (outcome, after) := hRun
  rw [hStep]
  cases outcome with
  | ok value => rfl
  | error fault => rfl

theorem on_bind
    (first : Located α)
    (rest : α → Located β)
    (machine : Machine) :
    on (first >>= rest) machine =
      match on first machine with
      | (.ok value, after) => on (rest value) after
      | (.error mishap, after) => (.error mishap, after) := by
  simp only [on, ExceptT.run_bind, StateT.run_bind]
  rcases hFirst : (first.run.run machine : Id _) with
    ⟨outcome, after⟩
  cases outcome with
  | ok value => rfl
  | error mishap => rfl

theorem on_tryCatch
    (body : Located α)
    (handler : Mishap → Located α)
    (machine : Machine) :
    on (tryCatch body handler) machine =
      match on body machine with
      | (.ok value, after) => (.ok value, after)
      | (.error mishap, after) =>
          on (handler mishap) after := by
  rcases hBody : on body machine with ⟨outcome, after⟩
  have hRun :
      StateT.run (σ := Machine) (m := Id) body machine =
        (outcome, after) := hBody
  change
    StateT.run (ExceptT.run (ExceptT.tryCatch body handler))
        machine = _
  simp only [ExceptT.tryCatch, ExceptT.run_mk,
    StateT.run_bind]
  rw [hRun]
  cases outcome with
  | ok value => rfl
  | error mishap => rfl

@[simp] theorem on_countCalls
    (change : Nat → Nat)
    (machine : Machine) :
    on (countCalls change) machine =
      (.ok (),
        { machine with depth := change machine.depth }) :=
  rfl

theorem on_callBody
    (body : Located Flow)
    (machine : Machine) :
    on (callBody body) machine =
      match on body
          { machine with depth := machine.depth + 1 } with
      | (.error mishap, after) =>
          (.error mishap,
            { after with depth := after.depth - 1 })
      | (.ok flow, after) =>
          (.ok (Run.givenBack flow),
            { after with depth := after.depth - 1 }) := by
  simp only [callBody, on_bind, on_countCalls, on_tryCatch]
  rcases on body { machine with depth := machine.depth + 1 }
    with ⟨outcome, after⟩
  cases outcome with
  | ok flow => rfl
  | error mishap => rfl

end Located

end Gantry

------------------------------------------------------------
-- Following A Run
------------------------------------------------------------

namespace Gantry

namespace Located

open Run (Flow Blind)

variable {α β : Type}

/-
  Two endings are the same but for the statement noted: the
  same value or the same fault, and the same machine. A fault
  is located where the machine has noted a statement.
-/
inductive Ends
    (P : Machine → Prop)
    (span : Span) :
    Except RuntimeFault α × Machine →
      Except Mishap α × Machine → Prop where
  | ok {value : α} {after : Machine} :
      P after →
        Ends P span (.ok value, after)
          (.ok value, after.moved span)
  | error {fault : RuntimeFault} {place : Place}
      {after : Machine} :
      place.Noted after →
        Ends P span (.error fault, after)
          (.error ⟨fault, place⟩, after.moved span)

/-
  A located step does what a run does, from every machine
  with a property and whatever statement the step is shown.
-/
def Follows
    (P Q : Machine → Prop)
    (run : Run α)
    (step : Located α) : Prop :=
  ∀ (machine : Machine) (span : Span), P machine →
    Ends Q span (Run.on run machine)
      (on step (machine.moved span))

/- Any machine at all. -/
def Anywhere
    (_ : Machine) : Prop := True

namespace Follows

variable {P Q R : Machine → Prop}
variable {place : Place}

theorem pure
    (value : α) :
    Follows P P (Pure.pure value) (Pure.pure value) :=
  fun _ _ hMachine => .ok hMachine

theorem bind
    {first : Run α}
    {rest : α → Run β}
    {step : Located α}
    {further : α → Located β}
    (hFirst : Follows P R first step)
    (hRest :
      ∀ value, Follows R Q (rest value) (further value)) :
    Follows P Q (first >>= rest) (step >>= further) := by
  intro machine span hMachine
  have hEnds := hFirst machine span hMachine
  rw [Run.on_bind, on_bind]
  generalize Run.on first machine = ending at hEnds ⊢
  generalize on step (machine.moved span) = other
    at hEnds ⊢
  cases hEnds with
  | ok hAfter => exact hRest _ _ span hAfter
  | error hNoted => exact .error hNoted

theorem ite
    {condition : Prop}
    [Decidable condition]
    {first second : Run α}
    {step other : Located α}
    (hThen : Follows P Q first step)
    (hElse : Follows P Q second other) :
    Follows P Q (if condition then first else second)
      (if condition then step else other) := by
  split
  · exact hThen
  · exact hElse

/- Less has to be known before, or is known after. -/
theorem anywhere
    {run : Run α}
    {step : Located α}
    (hRun : Follows Anywhere Q run step) :
    Follows P Q run step :=
  fun machine span _ => hRun machine span trivial

theorem forget
    {run : Run α}
    {step : Located α}
    (hRun : Follows P Q run step) :
    Follows P Anywhere run step := by
  intro machine span hMachine
  have hEnds := hRun machine span hMachine
  generalize Run.on run machine = ending at hEnds ⊢
  generalize on step (machine.moved span) = other
    at hEnds ⊢
  cases hEnds with
  | ok _ => exact .ok trivial
  | error hNoted => exact .error hNoted

/-
  A blind step fails at the statement that was noted before
  it, and leaves that noted.
-/
theorem blame
    {run : Run α}
    (hRun : Blind run) :
    Follows place.Noted place.Noted run
      (Located.blame place run) := by
  intro machine span hNoted
  have hCurrent := hRun.current machine
  rw [on_blame, hRun machine span]
  generalize Run.on run machine = ending at hCurrent ⊢
  rcases ending with ⟨outcome, after⟩
  have hAfter : place.Noted after :=
    fun hFirst => hCurrent.trans (hNoted hFirst)
  cases outcome with
  | ok value => exact .ok hAfter
  | error fault => exact .error hAfter

theorem throw
    (fault : RuntimeFault) :
    Follows place.Noted place.Noted
      (MonadExcept.throw fault : Run α)
      (Located.blame place (MonadExcept.throw fault)) :=
  blame (.throw fault)

/- A step that cannot fail may be taken anywhere. -/
theorem sure
    {run : Run α}
    (hRun : Blind run)
    (hSure :
      ∀ machine, ∃ value after,
        Run.on run machine = (.ok value, after)) :
    Follows Anywhere Anywhere run
      (Located.blame place run) := by
  intro machine span _
  rcases hSure machine with ⟨value, after, hEnd⟩
  rw [on_blame, hRun machine span, hEnd]
  exact .ok trivial

/- A statement notes itself first. -/
theorem begun
    {span : Span}
    {run : Run α}
    {step : Located α}
    (hRun : Follows (Place.begun span).Noted Q run step) :
    Follows Anywhere Q
      (do Run.begin span; run) step := by
  intro machine shown _
  exact hRun (machine.moved span) shown fun _ => rfl

/-
  A call that succeeds puts back the statement that made it,
  and one that fails does so at a place inside it.
-/
theorem callBody
    {body : Run Flow}
    {step : Located Flow}
    (hBody : Follows Anywhere Anywhere body step) :
    Follows place.Noted place.Noted (Run.callBody body)
      (Located.callBody step) := by
  intro machine span hNoted
  have hEnds :=
    hBody { machine with depth := machine.depth + 1 } span
      trivial
  have hStart :
      { machine.moved span with
        depth := (machine.moved span).depth + 1 } =
        Machine.moved
          { machine with depth := machine.depth + 1 }
          span := rfl
  rw [Run.on_callBody, on_callBody, hStart]
  generalize
    Run.on body
      { machine with depth := machine.depth + 1 } = ending
    at hEnds ⊢
  generalize on step _ = other at hEnds ⊢
  cases hEnds with
  | ok _ => exact .ok hNoted
  | error hInside => exact .error hInside

end Follows

end Located

end Gantry

------------------------------------------------------------
-- Expressions
------------------------------------------------------------

namespace Gantry

namespace Located

variable {stage : Stage}
variable {enter : Run.Enter}
variable {locatedEnter : Enter}

/- Calls of a script's functions are followed from a place. -/
def EnterFollows
    (enter : Run.Enter)
    (locatedEnter : Enter) : Prop :=
  ∀ (place : Place) (closure : Closure) (args : List Value),
    Follows place.Noted place.Noted (enter closure args)
      (locatedEnter place closure args)

theorem call_follows
    (hEnter : EnterFollows enter locatedEnter)
    (place : Place)
    (callee : Value)
    (args : List Value) :
    Follows place.Noted place.Noted
      (Run.call stage enter callee args)
      (call stage locatedEnter place callee args) := by
  cases callee with
  | function closure => exact hEnter place closure args
  | builtin function =>
      exact .blame (.callBuiltin stage function args)
  | method serial receiver method =>
      exact .blame (.callMethod method receiver args)
  | _ => exact .throw _

mutual

/-
  The statement around an expression stays noted while it is
  evaluated.
-/
theorem expr_follows
    (hEnter : EnterFollows enter locatedEnter)
    (scopes : Scopes)
    (place : Place) :
    (tree : Expr) →
    Follows place.Noted place.Noted
      (Run.expr stage enter scopes tree)
      (expr stage locatedEnter scopes place tree)
| .literal value _ => by
    rw [Run.expr, expr]
    exact .pure _
| .name word _ => by
    rw [Run.expr, expr]
    exact .blame (.lookup scopes word)
| .list items _ => by
    rw [Run.expr, expr]
    apply (exprs_follows hEnter scopes place items).bind
    intro values
    exact .blame (.makeList _)
| .unary op operand _ => by
    rw [Run.expr, expr]
    apply (expr_follows hEnter scopes place operand).bind
    intro value
    exact .blame (.unary op value)
| .binary op left right _ => by
    rw [Run.expr, expr]
    apply (expr_follows hEnter scopes place left).bind
    intro first
    apply (Follows.blame .heap).bind
    intro heap
    apply Follows.ite (.pure first)
    apply (expr_follows hEnter scopes place right).bind
    intro second
    exact .ite (.pure second)
      (.blame (.binary op first second))
| .call callee args _ => by
    rw [Run.expr, expr]
    apply (expr_follows hEnter scopes place callee).bind
    intro function
    apply (exprs_follows hEnter scopes place args).bind
    intro values
    exact call_follows hEnter place function values
| .index object key _ => by
    rw [Run.expr, expr]
    apply (expr_follows hEnter scopes place object).bind
    intro container
    apply (expr_follows hEnter scopes place key).bind
    intro slot
    exact .blame (.index container slot)
| .attr object field _ => by
    rw [Run.expr, expr]
    apply (expr_follows hEnter scopes place object).bind
    intro receiver
    exact .blame (.attr receiver field.name)

theorem exprs_follows
    (hEnter : EnterFollows enter locatedEnter)
    (scopes : Scopes)
    (place : Place) :
    (trees : List Expr) →
    Follows place.Noted place.Noted
      (Run.exprs stage enter scopes trees)
      (exprs stage locatedEnter scopes place trees)
| [] => by
    rw [Run.exprs, exprs]
    exact .pure _
| tree :: trees => by
    rw [Run.exprs, exprs]
    apply (expr_follows hEnter scopes place tree).bind
    intro value
    apply (exprs_follows hEnter scopes place trees).bind
    intro values
    exact .pure _

end

theorem truth_follows
    (hEnter : EnterFollows enter locatedEnter)
    (scopes : Scopes)
    (test : Expr)
    (place : Place) :
    Follows place.Noted place.Noted
      (Run.truth stage enter scopes test)
      (truth stage locatedEnter scopes test place) := by
  apply (expr_follows hEnter scopes place test).bind
  intro value
  apply (Follows.blame .heap).bind
  intro heap
  exact .pure _

end Located

end Gantry

------------------------------------------------------------
-- Loops
------------------------------------------------------------

namespace Gantry

namespace Located

open Run (Flow)

theorem warnLimit_follows
    (place : Place)
    (stage : Stage)
    (span : Span) :
    Follows Anywhere Anywhere (Run.warnLimit stage span)
      (blame place (Run.warnLimit stage span)) :=
  .sure (.warnLimit stage span) fun _ => ⟨_, _, rfl⟩

theorem define_follows
    (place : Place)
    (scopes : Scopes)
    (name : String)
    (value : Value) :
    Follows Anywhere Anywhere (Run.define scopes name value)
      (blame place (Run.define scopes name value)) :=
  .sure (.define scopes name value) fun _ => ⟨_, _, rfl⟩

theorem itemAt?_follows
    (place : Place)
    (ref slot : Nat) :
    Follows Anywhere Anywhere (Run.itemAt? ref slot)
      (blame place (Run.itemAt? ref slot)) :=
  .sure (.itemAt? ref slot) fun _ => ⟨_, _, rfl⟩

theorem afterBody_follows
    (flow : Flow)
    {goOn : Run Flow}
    {further : Located Flow}
    (hGoOn : Follows Anywhere Anywhere goOn further) :
    Follows Anywhere Anywhere (Run.afterBody flow goOn)
      (afterBody flow further) := by
  cases flow with
  | normal => exact hGoOn
  | continueLoop => exact hGoOn
  | breakLoop => exact .pure _
  | returned value => exact .pure _

/-
  The body of a loop leaves any statement noted, so that only
  the first test is made where the loop itself is.
-/
theorem whileLoop_follows
    {test : Run Bool}
    {locatedTest : Place → Located Bool}
    {body : Run Flow}
    {locatedBody : Located Flow}
    {onLimit : Run Unit}
    {locatedLimit : Located Unit}
    (hTest :
      ∀ place : Place,
        Follows place.Noted place.Noted test
          (locatedTest place))
    (hBody : Follows Anywhere Anywhere body locatedBody)
    (hLimit : Follows Anywhere Anywhere onLimit locatedLimit)
    (span : Span)
    (rounds : Nat)
    (place : Place) :
    Follows place.Noted Anywhere
      (Run.whileLoop test body onLimit rounds)
      (whileLoop locatedTest locatedBody locatedLimit span
        rounds place) := by
  induction rounds generalizing place with
  | zero =>
      apply (hTest place).bind
      intro isTrue
      apply Follows.anywhere
      apply Follows.ite
      · exact hLimit.bind fun _ => .pure _
      · exact .pure _
  | succ rounds ih =>
      apply (hTest place).bind
      intro isTrue
      apply Follows.anywhere
      apply Follows.ite
      · apply hBody.bind
        intro flow
        apply afterBody_follows flow
        intro machine shown _
        exact ih (.repeated span) machine shown nofun
      · exact .pure _

theorem forLoop_follows
    {visit : Value → Run Flow}
    {locatedVisit : Value → Located Flow}
    {onLimit : Run Unit}
    {locatedLimit : Located Unit}
    (place : Place)
    (ref : Nat)
    (hVisit :
      ∀ item,
        Follows Anywhere Anywhere (visit item)
          (locatedVisit item))
    (hLimit : Follows Anywhere Anywhere onLimit locatedLimit)
    (rounds slot : Nat) :
    Follows Anywhere Anywhere
      (Run.forLoop ref visit onLimit rounds slot)
      (forLoop place ref locatedVisit locatedLimit rounds
        slot) := by
  induction rounds generalizing slot with
  | zero =>
      apply (itemAt?_follows place ref slot).bind
      intro found
      apply Follows.ite
      · exact hLimit.bind fun _ => .pure _
      · exact .pure _
  | succ rounds ih =>
      apply (itemAt?_follows place ref slot).bind
      intro found
      cases found with
      | none => exact .pure _
      | some item =>
          apply (hVisit item).bind
          intro flow
          exact afterBody_follows flow (ih (slot + 1))

end Located

end Gantry

------------------------------------------------------------
-- Statements
------------------------------------------------------------

namespace Gantry

namespace Located

variable {stage : Stage}
variable {enter : Run.Enter}
variable {locatedEnter : Enter}

mutual

/- Wherever a statement is begun, its faults are its own. -/
theorem stmt_follows
    (hEnter : EnterFollows enter locatedEnter)
    (scopes : Scopes) :
    (tree : Stmt) →
    Follows Anywhere Anywhere
      (Run.stmt stage enter scopes tree)
      (stmt stage locatedEnter scopes tree)
| .assign target value span => by
    rw [Run.stmt, stmt]
    apply Follows.begun
    apply (expr_follows hEnter scopes _ value).bind
    intro result
    apply (define_follows _ scopes target.name
      result).anywhere.bind
    intro _
    exact .pure _
| .setIndex object key value span => by
    rw [Run.stmt, stmt]
    apply Follows.begun
    apply (expr_follows hEnter scopes _ object).bind
    intro container
    apply (expr_follows hEnter scopes _ key).bind
    intro slot
    apply (expr_follows hEnter scopes _ value).bind
    intro item
    apply (Follows.blame
      (.setIndex container slot item)).forget.bind
    intro _
    exact .pure _
| .branch test body elifs orElse span => by
    rw [Run.stmt, stmt]
    apply Follows.begun
    apply (truth_follows hEnter scopes test _).bind
    intro isTrue
    apply Follows.ite
    · exact (block_follows hEnter scopes body).anywhere
    · apply (elifClauses_follows hEnter scopes span
        elifs).bind
      intro taken
      cases taken with
      | some flow => exact .pure _
      | none => exact elseClause_follows hEnter scopes orElse
| .forLoop target iterable body span => by
    rw [Run.stmt, stmt]
    apply Follows.begun
    apply (expr_follows hEnter scopes _ iterable).bind
    intro value
    cases value with
    | list ref =>
        apply Follows.anywhere
        apply forLoop_follows _ ref
        · intro item
          apply (define_follows _ scopes target.name item).bind
          intro _
          exact block_follows hEnter scopes body
        · exact warnLimit_follows _ stage span
    | _ => exact (Follows.throw _).forget
| .whileLoop test body span => by
    rw [Run.stmt, stmt]
    apply Follows.begun
    exact whileLoop_follows
      (truth_follows hEnter scopes test)
      (block_follows hEnter scopes body)
      (warnLimit_follows _ stage span) span _ _
| .define name params body span => by
    rw [Run.stmt, stmt]
    apply Follows.begun
    apply (Follows.blame
      (.defineFunction scopes name params body)).forget.bind
    intro _
    exact .pure _
| .returnValue none span => by
    rw [Run.stmt, stmt]
    exact .begun (.anywhere (.pure _))
| .returnValue (some result) span => by
    rw [Run.stmt, stmt]
    apply Follows.begun
    apply (expr_follows hEnter scopes _ result).forget.bind
    intro value
    exact .pure _
| .breakLoop span => by
    rw [Run.stmt, stmt]
    exact .begun (.anywhere (.pure _))
| .continueLoop span => by
    rw [Run.stmt, stmt]
    exact .begun (.anywhere (.pure _))
| .pass span => by
    rw [Run.stmt, stmt]
    exact .begun (.anywhere (.pure _))
| .expr value span => by
    rw [Run.stmt, stmt]
    apply Follows.begun
    apply (expr_follows hEnter scopes _ value).forget.bind
    intro _
    exact .pure _

theorem block_follows
    (hEnter : EnterFollows enter locatedEnter)
    (scopes : Scopes) :
    (body : Block) →
    Follows Anywhere Anywhere
      (Run.block stage enter scopes body)
      (block stage locatedEnter scopes body)
| .mk body _ => by
    rw [Run.block, block]
    exact stmts_follows hEnter scopes body

theorem stmts_follows
    (hEnter : EnterFollows enter locatedEnter)
    (scopes : Scopes) :
    (trees : List Stmt) →
    Follows Anywhere Anywhere
      (Run.stmts stage enter scopes trees)
      (stmts stage locatedEnter scopes trees)
| [] => by
    rw [Run.stmts, stmts]
    exact .pure _
| tree :: trees => by
    rw [Run.stmts, stmts]
    apply (stmt_follows hEnter scopes tree).bind
    intro flow
    cases flow with
    | normal => exact stmts_follows hEnter scopes trees
    | _ => exact .pure _

/- The conditions of a branch all belong to the branch. -/
theorem elifClauses_follows
    (hEnter : EnterFollows enter locatedEnter)
    (scopes : Scopes)
    (span : Span) :
    (clauses : List Elif) →
    Follows (Place.begun span).Noted Anywhere
      (Run.elifClauses stage enter scopes clauses)
      (elifClauses stage locatedEnter scopes span clauses)
| [] => by
    rw [Run.elifClauses, elifClauses]
    exact .anywhere (.pure _)
| .mk test body _ :: clauses => by
    rw [Run.elifClauses, elifClauses]
    apply (truth_follows hEnter scopes test _).bind
    intro isTrue
    apply Follows.ite
    · apply (block_follows hEnter scopes body).anywhere.bind
      intro flow
      exact .pure _
    · exact elifClauses_follows hEnter scopes span clauses

theorem elseClause_follows
    (hEnter : EnterFollows enter locatedEnter)
    (scopes : Scopes) :
    (orElse : Option Block) →
    Follows Anywhere Anywhere
      (Run.elseClause stage enter scopes orElse)
      (elseClause stage locatedEnter scopes orElse)
| none => by
    rw [Run.elseClause, elseClause]
    exact .pure _
| some body => by
    rw [Run.elseClause, elseClause]
    exact block_follows hEnter scopes body

end

end Located

end Gantry

------------------------------------------------------------
-- Calls And Scripts
------------------------------------------------------------

namespace Gantry

namespace Located

/- By the calls that may still be made inside of a call. -/
theorem enter_follows
    (stage : Stage)
    (calls : Nat) :
    EnterFollows (Run.enter stage calls)
      (enter stage calls) := by
  induction calls with
  | zero =>
      intro place closure args
      apply (Follows.blame (.checkArity closure args)).bind
      intro _
      exact .throw _
  | succ calls ih =>
      intro place closure args
      apply (Follows.blame (.checkArity closure args)).bind
      intro _
      apply (Follows.blame (.openScope _ _)).bind
      intro scopes
      exact .callBody (block_follows ih scopes closure.body)

theorem topLevel_follows
    (stage : Stage) :
    (body : List Stmt) →
    Follows Anywhere Anywhere (Machine.topLevel stage body)
      (topLevel stage body)
| [] => .pure _
| first :: rest =>
    .bind
      (stmt_follows (enter_follows stage _) Machine.globals
        first)
      fun _ => topLevel_follows stage rest

end Located

/-
  A script ends the same way, but for the statement noted,
  when the place of its faults is handed down. If it crashes,
  the statement that the crash reports is the one that the
  fault belongs to, unless a loop had come back to its test.
-/
theorem Machine.run_agrees_with_locate
    (machine : Machine)
    (stage : Stage)
    (program : Program) :
    (machine.locate stage program).2 =
        (machine.run stage program).2.moved
          machine.current ∧
      (machine.locate stage program).1.map (·.fault) =
        (machine.run stage program).1.map (·.fault) ∧
      ∀ mishap,
        (machine.locate stage program).1 = some mishap →
          mishap.place.again = false →
            (machine.run stage program).1 =
              some ⟨mishap.fault, mishap.place.span⟩ := by
  have hEnds :=
    Located.topLevel_follows stage program.body machine
      machine.current trivial
  rw [machine.moved_current] at hEnds
  unfold locate run
  unfold Run.on Located.on at hEnds
  generalize
    (topLevel stage program.body).run.run machine = ending
    at hEnds ⊢
  generalize
    (Located.topLevel stage program.body).run.run machine =
      other
    at hEnds ⊢
  cases hEnds with
  | ok _ => exact ⟨rfl, rfl, nofun⟩
  | error hNoted =>
      refine ⟨rfl, rfl, ?_⟩
      rintro _ ⟨⟩ hFirst
      dsimp only
      rw [hNoted hFirst]

/-
  A test made again calls a function that fails. The crash
  reports the statement in the function, which the loop has
  no part in.
-/
theorem Machine.run_agrees_with_locate_in_call :
    let word := fun text => Expr.name text Span.unset
    let either : Expr :=
      .binary .or (word "ready") (word "fuel") Span.unset
    let clear : Stmt :=
      .assign ⟨"ready", Span.unset⟩
        (.literal (.bool false) Span.unset) (Span.point 5 5)
    let program : Program :=
      ⟨[.define ⟨"check", Span.unset⟩ []
            (.mk [.returnValue (some either) (Span.point 2 5)]
              Span.unset)
            (Span.point 1 1),
          .assign ⟨"ready", Span.unset⟩
            (.literal (.bool true) Span.unset)
            (Span.point 3 1),
          .whileLoop (.call (word "check") [] Span.unset)
            (.mk [clear] Span.unset) (Span.point 4 1)],
        Span.unset⟩
    let stage : Stage := { world := World.empty 2 2 }
    (Machine.locate {} stage program).1 =
        some ⟨.unboundName "fuel",
          .begun (Span.point 2 5)⟩ ∧
      (Machine.run {} stage program).1 =
        some ⟨.unboundName "fuel", Span.point 2 5⟩ := by
  intro word either clear program stage
  have hLocated :
      (Machine.locate {} stage program).1 =
        some ⟨.unboundName "fuel",
          .begun (Span.point 2 5)⟩ := by
    decide +kernel
  have hAgrees := run_agrees_with_locate {} stage program
  exact ⟨hLocated, hAgrees.2.2 _ hLocated rfl⟩

/-
  The test on the second line fails when it is made again.
  The crash reports the third line, where the body of the
  loop was run.
-/
theorem Machine.run_blames_body_for_test :
    let source :=
      Source.ofText "sample"
        "x = True\nwhile x or y:\n    x = False\n"
    let stage : Stage := { world := World.empty 2 2 }
    source.parse.program?.map
        (fun program =>
          ((Machine.locate {} stage program).1,
            (Machine.run {} stage program).1)) =
      some
        (some ⟨.unboundName "y",
            .repeated ⟨⟨2, 1⟩, ⟨3, 13⟩⟩⟩,
          some ⟨.unboundName "y", ⟨⟨3, 5⟩, ⟨3, 13⟩⟩⟩) := by
  decide +kernel

end Gantry
