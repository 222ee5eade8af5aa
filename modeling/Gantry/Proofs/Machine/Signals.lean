import Gantry.Proofs.Machine.Agreement
import Gantry.Proofs.Parser.Acceptance

/-
  This file shows that no signal to leave a loop or a
  function gets lost when a script is run. Evaluation drops
  such a signal where there is nothing to leave; whatever
  were done with it there instead, a script that was read
  would run the same.

  Key definitions include:
    * `Gantry.Run.Strays`
    * `Gantry.Run.enterWith`
    * `Gantry.Program.evaluateWith`
    * `Gantry.Run.Flow.Allowed`
    * `Gantry.Closure.WellFormed`

  Main statements:
    * `Gantry.Program.evaluateWith_silent`
    * `Gantry.Run.stmt_agree`
    * `Gantry.Run.enterWith_agree`
    * `Gantry.Source.signals_stay_inside`
-/

------------------------------------------------------------
-- Stray Signals
------------------------------------------------------------

namespace Gantry

namespace Run

/-
  What to do with a signal that comes out of a statement of
  a script, and out of the body of a function.
-/
structure Strays where
  fromScript : Flow → Run Unit
  fromBody : Flow → Run Value

/- Drop such signals. -/
def Strays.silent : Strays where
  fromScript := fun _ => return ()
  fromBody := fun _ => return .none

/- What a call gives, by how the body has ended. -/
def Strays.ofBody
    (strays : Strays) :
    Flow → Run Value
| .normal => return .none
| .returned value => return value
| stray => strays.fromBody stray

/- Go on behind a statement of a script. -/
def Strays.ofScript
    (strays : Strays) :
    Flow → Run Unit
| .normal => return ()
| stray => strays.fromScript stray

/- Run a function's body as a call. -/
def callBodyWith
    (strays : Strays)
    (body : Run Flow) : Run Value := do
  let caller := (← get).current
  deepen
  let flow ←
    tryCatch body fun fault => do
      rise
      throw fault
  rise
  begin caller
  strays.ofBody flow

/-
  Call a script's function inside of which so many calls may
  still be made.
-/
def enterWith
    (strays : Strays)
    (stage : Stage) :
    Nat → Enter
| 0, closure, args => do
    checkArity closure args
    throw (.recursionLimit stage.limits.maxCallDepth)
| calls + 1, closure, args => do
    checkArity closure args
    let scopes ←
      openScope closure.scopes
        (arguments closure.params args [])
    callBodyWith strays
      (block stage (enterWith strays stage calls) scopes
        closure.body)

/- Run the statements of a script one after another. -/
def topLevelWith
    (strays : Strays)
    (stage : Stage) :
    List Stmt → Run Unit
| [] => return ()
| first :: rest => do
    let enter :=
      enterWith strays stage stage.limits.maxCallDepth
    let flow ← stmt stage enter Machine.globals first
    strays.ofScript flow
    topLevelWith strays stage rest

end Run

/- Run a script on a fresh machine. -/
def Program.evaluateWith
    (strays : Run.Strays)
    (program : Program)
    (stage : Stage) : Evaluation :=
  match
    (Run.topLevelWith strays stage program.body).on {} with
  | (.ok _, after) => ⟨after.transcript, none⟩
  | (.error fault, after) =>
      ⟨after.transcript, some ⟨fault, after.current⟩⟩

end Gantry

------------------------------------------------------------
-- Evaluation Drops Stray Signals
------------------------------------------------------------

namespace Gantry

namespace Run

theorem callBodyWith_silent
    (body : Run Flow) :
    callBodyWith .silent body = callBody body := by
  unfold callBodyWith callBody
  refine bind_congr fun machine => ?_
  refine bind_congr fun _ => ?_
  refine bind_congr fun flow => ?_
  refine bind_congr fun _ => ?_
  refine bind_congr fun _ => ?_
  cases flow <;> rfl

theorem enterWith_silent
    (stage : Stage)
    (calls : Nat) :
    enterWith .silent stage calls = enter stage calls := by
  induction calls with
  | zero => rfl
  | succ calls ih =>
      funext closure args
      simp only [enterWith, enter, ih, callBodyWith_silent]

theorem topLevelWith_silent
    (stage : Stage)
    (body : List Stmt) :
    topLevelWith .silent stage body =
      Machine.topLevel stage body := by
  induction body with
  | nil => rfl
  | cons first rest ih =>
      rw [topLevelWith, Machine.topLevel, ih,
        enterWith_silent]
      refine bind_congr fun flow => ?_
      cases flow <;> rfl

end Run

/- Evaluation drops every stray signal. -/
theorem Program.evaluateWith_silent
    (program : Program)
    (stage : Stage) :
    program.evaluateWith .silent stage =
      program.evaluate stage := by
  unfold evaluateWith evaluate Machine.run
  rw [Run.topLevelWith_silent, Run.on]
  rcases (Machine.topLevel stage program.body).run.run {}
    with ⟨outcome, after⟩
  cases outcome with
  | ok _ => rfl
  | error fault => rfl

end Gantry

------------------------------------------------------------
-- Expressions
------------------------------------------------------------

namespace Gantry

/- The body of a function fits into one. -/
def Closure.WellFormed
    (closure : Closure) : Prop :=
  closure.body.WellFormed
    { inLoop := false, inFunction := true }

/- No function within reach sends a signal astray. -/
def Machine.WellFormed : Machine → Prop :=
  Machine.Holds Closure.WellFormed

/- A value that is no function or a well-formed one. -/
def Value.WellFormed : Value → Prop :=
  Value.Holds Closure.WellFormed

namespace Run

/- A well-formed machine stays so. -/
theorem wellFormed_invariant :
    Invariant Machine.WellFormed Closure.WellFormed :=
  Machine.holds_invariant _

/- Two ways to call a script's functions agree. -/
def EnterAgree
    (first second : Enter) : Prop :=
  ∀ closure args, closure.WellFormed →
    (∀ arg ∈ args, arg.WellFormed) →
      Agree Machine.WellFormed Value.WellFormed
        (first closure args) (second closure args)

variable {stage : Stage}
variable {first second : Enter}

/- Expressions agree if calls do. -/
theorem expr_agree
    (hEnter : EnterAgree first second)
    (scopes : Scopes)
    (tree : Expr) :
    Agree Machine.WellFormed Value.WellFormed
      (expr stage first scopes tree)
      (expr stage second scopes tree) :=
  (wellFormed_invariant.evaluating stage hEnter).expr scopes
    tree tree.asks_any

theorem truth_agree
    (hEnter : EnterAgree first second)
    (scopes : Scopes)
    (test : Expr) :
    Agree Machine.WellFormed Anything
      (truth stage first scopes test)
      (truth stage second scopes test) :=
  (wellFormed_invariant.evaluating stage hEnter).truth scopes
    test.asks_any

end Run

end Gantry

------------------------------------------------------------
-- Loops
------------------------------------------------------------

namespace Gantry

namespace Run

/- A statement may end like this where it stands. -/
def Flow.Allowed
    (context : Parser.Context) :
    Flow → Prop
| .normal => True
| .breakLoop => context.inLoop = true
| .continueLoop => context.inLoop = true
| .returned value =>
    context.inFunction = true ∧ value.WellFormed

variable {context : Parser.Context}

theorem afterBody_agree
    {flow : Flow}
    {first second : Run Flow}
    (hFlow : flow.Allowed { context with inLoop := true })
    (hGoOn :
      Agree Machine.WellFormed (Flow.Allowed context)
        first second) :
    Agree Machine.WellFormed (Flow.Allowed context)
      (afterBody flow first) (afterBody flow second) := by
  cases flow with
  | normal => exact hGoOn
  | continueLoop => exact hGoOn
  | breakLoop => exact .pure trivial
  | returned value => exact .pure hFlow

/- A loop takes the signals that leave it or its round. -/
theorem whileLoop_agree
    {firstTest secondTest : Run Bool}
    {firstBody secondBody : Run Flow}
    {onLimit : Run Unit}
    (hTest :
      Agree Machine.WellFormed Anything firstTest secondTest)
    (hBody :
      Agree Machine.WellFormed
        (Flow.Allowed { context with inLoop := true })
        firstBody secondBody)
    (hLimit : Keeps Machine.WellFormed Anything onLimit)
    (rounds : Nat) :
    Agree Machine.WellFormed (Flow.Allowed context)
      (whileLoop firstTest firstBody onLimit rounds)
      (whileLoop secondTest secondBody onLimit rounds) := by
  induction rounds with
  | zero =>
      refine .bind hTest fun isTrue _ => ?_
      exact .ite
        (.bind (.refl hLimit) fun _ _ => .pure trivial)
        (.pure trivial)
  | succ rounds ih =>
      refine .bind hTest fun isTrue _ => ?_
      refine .ite ?_ (.pure trivial)
      exact .bind hBody fun flow hFlow =>
        afterBody_agree hFlow ih

theorem itemAt?_agree
    (ref place : Nat) :
    Agree Machine.WellFormed
      (fun found =>
        ∀ item : Value, found = some item →
          item.WellFormed)
      (itemAt? ref place) (itemAt? ref place) :=
  .refl (wellFormed_invariant.itemAt? ref place)

/- So does a walk through a list. -/
theorem forLoop_agree
    {ref : Nat}
    {firstVisit secondVisit : Value → Run Flow}
    {onLimit : Run Unit}
    (hVisit :
      ∀ item, item.WellFormed →
        Agree Machine.WellFormed
          (Flow.Allowed { context with inLoop := true })
          (firstVisit item) (secondVisit item))
    (hLimit : Keeps Machine.WellFormed Anything onLimit)
    (rounds : Nat) :
    (place : Nat) →
    Agree Machine.WellFormed (Flow.Allowed context)
      (forLoop ref firstVisit onLimit rounds place)
      (forLoop ref secondVisit onLimit rounds place) := by
  induction rounds with
  | zero =>
      intro place
      refine .bind (itemAt?_agree ref place) fun found _ => ?_
      exact .ite
        (.bind (.refl hLimit) fun _ _ => .pure trivial)
        (.pure trivial)
  | succ rounds ih =>
      intro place
      refine .bind (itemAt?_agree ref place)
        fun found hFound => ?_
      cases found with
      | none => exact .pure trivial
      | some item =>
          refine .bind (hVisit item (hFound item rfl))
            fun flow hFlow => ?_
          exact afterBody_agree hFlow (ih (place + 1))

end Run

end Gantry

------------------------------------------------------------
-- Statements
------------------------------------------------------------

namespace Gantry

namespace Run

variable {stage : Stage}
variable {first second : Enter}

theorem begin_agree
    (span : Span) :
    Agree Machine.WellFormed Anything (begin span)
      (begin span) :=
  .refl (wellFormed_invariant.begin span)

mutual

/- A statement only sends the signals that fit its place. -/
theorem stmt_agree
    (hEnter : EnterAgree first second)
    (scopes : Scopes)
    (context : Parser.Context) :
    (tree : Stmt) →
    tree.WellFormed context →
    Agree Machine.WellFormed (Flow.Allowed context)
      (stmt stage first scopes tree)
      (stmt stage second scopes tree)
| .assign target value span, _ => by
    rw [stmt, stmt]
    refine .bind (begin_agree span) fun _ _ => ?_
    refine .bind (expr_agree hEnter scopes value)
      fun result hResult => ?_
    exact .bind
      (.refl (wellFormed_invariant.define _ _ _ hResult))
      fun _ _ => .pure trivial
| .setIndex object key value span, _ => by
    rw [stmt, stmt]
    refine .bind (begin_agree span) fun _ _ => ?_
    refine .bind (expr_agree hEnter scopes object)
      fun container _ => ?_
    refine .bind (expr_agree hEnter scopes key)
      fun place _ => ?_
    refine .bind (expr_agree hEnter scopes value)
      fun item hItem => ?_
    exact .bind
      (.refl (wellFormed_invariant.setIndex _ _ hItem))
      fun _ _ => .pure trivial
| .branch test body elifs orElse span, hFits => by
    rw [Stmt.WellFormed] at hFits
    rcases hFits with ⟨hBody, hElifs, hElse⟩
    rw [stmt, stmt]
    refine .bind (begin_agree span) fun _ _ => ?_
    refine .bind (truth_agree hEnter scopes test)
      fun _ _ => ?_
    refine .ite (block_agree hEnter scopes context body hBody)
      ?_
    refine .bind
      (elifClauses_agree hEnter scopes context elifs hElifs)
      fun taken hTaken => ?_
    cases taken with
    | some flow => exact .pure (hTaken flow rfl)
    | none =>
        exact elseClause_agree hEnter scopes context orElse
          hElse
| .forLoop target iterable body span, hFits => by
    rw [Stmt.WellFormed] at hFits
    rw [stmt, stmt]
    refine .bind (begin_agree span) fun _ _ => ?_
    refine .bind (expr_agree hEnter scopes iterable)
      fun value _ => ?_
    cases value with
    | list ref =>
        refine forLoop_agree (fun item hItem => ?_)
          (wellFormed_invariant.warnLimit stage span) _ 0
        exact .bind
          (.refl (wellFormed_invariant.define _ _ _ hItem))
          fun _ _ => block_agree hEnter scopes _ body hFits
    | _ => exact .throw _
| .whileLoop test body span, hFits => by
    rw [Stmt.WellFormed] at hFits
    rw [stmt, stmt]
    refine .bind (begin_agree span) fun _ _ => ?_
    exact whileLoop_agree (truth_agree hEnter scopes test)
      (block_agree hEnter scopes _ body hFits)
      (wellFormed_invariant.warnLimit stage span) _
| .define name params body span, hFits => by
    rw [Stmt.WellFormed] at hFits
    rw [stmt, stmt]
    refine .bind (begin_agree span) fun _ _ => ?_
    exact .bind
      (.refl (wellFormed_invariant.defineFunction scopes name
        params body fun _ => hFits.2))
      fun _ _ => .pure trivial
| .returnValue none span, hFits => by
    rw [Stmt.WellFormed] at hFits
    rw [stmt, stmt]
    exact .bind (begin_agree span) fun _ _ =>
      .pure ⟨hFits, trivial⟩
| .returnValue (some result) span, hFits => by
    rw [Stmt.WellFormed] at hFits
    rw [stmt, stmt]
    refine .bind (begin_agree span) fun _ _ => ?_
    exact .bind (expr_agree hEnter scopes result)
      fun _ hValue => .pure ⟨hFits, hValue⟩
| .breakLoop span, hFits => by
    rw [Stmt.WellFormed] at hFits
    rw [stmt, stmt]
    exact .bind (begin_agree span) fun _ _ => .pure hFits
| .continueLoop span, hFits => by
    rw [Stmt.WellFormed] at hFits
    rw [stmt, stmt]
    exact .bind (begin_agree span) fun _ _ => .pure hFits
| .pass span, _ => by
    rw [stmt, stmt]
    exact .bind (begin_agree span) fun _ _ => .pure trivial
| .expr value span, _ => by
    rw [stmt, stmt]
    refine .bind (begin_agree span) fun _ _ => ?_
    exact .bind (expr_agree hEnter scopes value)
      fun _ _ => .pure trivial

theorem block_agree
    (hEnter : EnterAgree first second)
    (scopes : Scopes)
    (context : Parser.Context) :
    (body : Block) →
    body.WellFormed context →
    Agree Machine.WellFormed (Flow.Allowed context)
      (block stage first scopes body)
      (block stage second scopes body)
| .mk body _, hFits => by
    rw [Block.WellFormed] at hFits
    rw [block, block]
    exact stmts_agree hEnter scopes context body hFits.2

theorem stmts_agree
    (hEnter : EnterAgree first second)
    (scopes : Scopes)
    (context : Parser.Context) :
    (trees : List Stmt) →
    Stmt.ListWellFormed context trees →
    Agree Machine.WellFormed (Flow.Allowed context)
      (stmts stage first scopes trees)
      (stmts stage second scopes trees)
| [], _ => by
    rw [stmts, stmts]
    exact .pure trivial
| tree :: trees, hFits => by
    rw [Stmt.ListWellFormed] at hFits
    rw [stmts, stmts]
    refine .bind (stmt_agree hEnter scopes context tree hFits.1)
      fun flow hFlow => ?_
    cases flow with
    | normal =>
        exact stmts_agree hEnter scopes context trees hFits.2
    | _ => exact .pure hFlow

theorem elifClauses_agree
    (hEnter : EnterAgree first second)
    (scopes : Scopes)
    (context : Parser.Context) :
    (clauses : List Elif) →
    Elif.ListWellFormed context clauses →
    Agree Machine.WellFormed
      (fun taken =>
        ∀ flow : Flow, taken = some flow →
          flow.Allowed context)
      (elifClauses stage first scopes clauses)
      (elifClauses stage second scopes clauses)
| [], _ => by
    rw [elifClauses, elifClauses]
    exact .pure (by simp)
| .mk test body _ :: clauses, hFits => by
    rw [Elif.ListWellFormed, Elif.WellFormed] at hFits
    rw [elifClauses, elifClauses]
    refine .bind (truth_agree hEnter scopes test)
      fun _ _ => .ite ?_ ?_
    · refine .bind
        (block_agree hEnter scopes context body hFits.1)
        fun flow hFlow => .pure ?_
      rintro _ ⟨⟩
      exact hFlow
    · exact elifClauses_agree hEnter scopes context clauses
        hFits.2

theorem elseClause_agree
    (hEnter : EnterAgree first second)
    (scopes : Scopes)
    (context : Parser.Context) :
    (orElse : Option Block) →
    Block.ElseWellFormed context orElse →
    Agree Machine.WellFormed (Flow.Allowed context)
      (elseClause stage first scopes orElse)
      (elseClause stage second scopes orElse)
| none, _ => by
    rw [elseClause, elseClause]
    exact .pure trivial
| some body, hFits => by
    rw [Block.ElseWellFormed] at hFits
    rw [elseClause, elseClause]
    exact block_agree hEnter scopes context body hFits

end

end Run

end Gantry

------------------------------------------------------------
-- Calls
------------------------------------------------------------

namespace Gantry

namespace Run

/- Counting calls does not touch any function. -/
theorem keeps_deepen :
    Keeps Machine.WellFormed Anything deepen :=
  .update fun _ hMachine => ⟨hMachine.heap, hMachine.scopes⟩

theorem keeps_rise :
    Keeps Machine.WellFormed Anything rise :=
  .update fun _ hMachine => ⟨hMachine.heap, hMachine.scopes⟩

/- Nothing but a result comes out of a function's body. -/
theorem callBodyWith_agree
    {firstBody secondBody : Run Flow}
    (firstStrays secondStrays : Strays)
    (hBody :
      Agree Machine.WellFormed
        (Flow.Allowed
          { inLoop := false, inFunction := true })
        firstBody secondBody) :
    Agree Machine.WellFormed Value.WellFormed
      (callBodyWith firstStrays firstBody)
      (callBodyWith secondStrays secondBody) := by
  refine .bind (.refl .get) fun machine _ => ?_
  refine .bind (.refl keeps_deepen) fun _ _ => ?_
  refine .bind
    (.tryCatch hBody fun fault =>
      .bind (.refl keeps_rise) fun _ _ => .throw fault)
    fun flow hFlow => ?_
  refine .bind (.refl keeps_rise) fun _ _ => ?_
  refine .bind (begin_agree machine.current) fun _ _ => ?_
  cases flow with
  | normal => exact .pure trivial
  | returned value => exact .pure hFlow.2
  | breakLoop => exact absurd hFlow Bool.false_ne_true
  | continueLoop => exact absurd hFlow Bool.false_ne_true

/- Calls agree, by the calls that may still be made. -/
theorem enterWith_agree
    (firstStrays secondStrays : Strays)
    (stage : Stage)
    (calls : Nat) :
    EnterAgree (enterWith firstStrays stage calls)
      (enterWith secondStrays stage calls) := by
  induction calls with
  | zero =>
      intro closure args _ _
      exact .bind (.refl (.checkArity closure args))
        fun _ _ => .throw _
  | succ calls ih =>
      intro closure args hClosure hArgs
      have hBindings :
          Bindings.Holds Closure.WellFormed
            (arguments closure.params args []) :=
        .arguments hArgs (by simp [Bindings.Holds])
          closure.params
      refine .bind (.refl (.checkArity closure args))
        fun _ _ => ?_
      refine .bind
        (.refl (Machine.keeps_openScope _ hBindings))
        fun scopes _ => ?_
      exact callBodyWith_agree firstStrays secondStrays
        (block_agree ih scopes _ closure.body hClosure)

end Run

end Gantry

------------------------------------------------------------
-- Scripts
------------------------------------------------------------

namespace Gantry

namespace Run

/- Where nothing encloses a statement, nothing is signalled. -/
theorem eq_normal_of_allowed
    {flow : Flow}
    (hFlow : flow.Allowed {}) :
    flow = .normal := by
  cases flow with
  | normal => rfl
  | breakLoop => exact absurd hFlow Bool.false_ne_true
  | continueLoop => exact absurd hFlow Bool.false_ne_true
  | returned value => exact absurd hFlow.1 Bool.false_ne_true

theorem topLevelWith_agree
    (firstStrays secondStrays : Strays)
    (stage : Stage) :
    (body : List Stmt) →
    Stmt.ListWellFormed {} body →
    Agree Machine.WellFormed Anything
      (topLevelWith firstStrays stage body)
      (topLevelWith secondStrays stage body)
| [], _ => .pure trivial
| tree :: trees, hFits => by
    rw [Stmt.ListWellFormed] at hFits
    rw [topLevelWith, topLevelWith]
    refine .bind
      (stmt_agree
        (enterWith_agree firstStrays secondStrays stage _)
        Machine.globals {} tree hFits.1)
      fun flow hFlow => ?_
    rw [eq_normal_of_allowed hFlow]
    simp only [Strays.ofScript, pure_bind]
    exact topLevelWith_agree firstStrays secondStrays stage
      trees hFits.2

/- The functions that a script has defined stay in order. -/
theorem keeps_topLevel
    (stage : Stage)
    {body : List Stmt}
    (hBody : Stmt.ListWellFormed {} body) :
    Keeps Machine.WellFormed Anything
      (Machine.topLevel stage body) := by
  rw [← topLevelWith_silent]
  exact (topLevelWith_agree .silent .silent stage body
    hBody).keeps

/- Nothing is signalled by a statement of a script. -/
theorem keeps_stmt
    (stage : Stage)
    {tree : Stmt}
    (hTree : tree.WellFormed {}) :
    Keeps Machine.WellFormed (Flow.Allowed {})
      (stmt stage (enterFirst stage) Machine.globals
        tree) := by
  unfold enterFirst
  rw [← enterWith_silent]
  exact (stmt_agree (enterWith_agree .silent .silent stage _)
    Machine.globals {} tree hTree).keeps

end Run

/- Whatever is done with stray signals, there are none. -/
theorem Program.WellFormed.evaluateWith_eq
    {program : Program}
    (hProgram : program.WellFormed)
    (strays : Run.Strays)
    (stage : Stage) :
    program.evaluateWith strays stage =
      program.evaluate stage := by
  have hAgree :=
    Run.topLevelWith_agree strays .silent stage program.body
      hProgram
  rw [← evaluateWith_silent]
  unfold evaluateWith
  rw [hAgree.same {} Machine.holds_initial]

theorem Stmt.listWellFormed_append
    {context : Parser.Context}
    {later : List Stmt}
    (before : List Stmt) :
    Stmt.ListWellFormed context (before ++ later) ↔
      Stmt.ListWellFormed context before ∧
        Stmt.ListWellFormed context later := by
  induction before with
  | nil => simp [ListWellFormed]
  | cons stmt before ih =>
      rw [List.cons_append, ListWellFormed, ListWellFormed,
        ih, and_assoc]

/-
  The tree of a script that was read is well formed: jumps
  stand where there is something to leave, parameters are
  distinct, and no block is empty. So when the script is run,
  each of its statements ends normally unless it fails, and
  nothing depends on what is done with a signal that comes
  out of a statement of the script or out of the body of a
  function.
-/
theorem Source.signals_stay_inside
    (source : Source)
    (program : Program)
    (hParse : source.parse.program? = some program) :
    program.WellFormed ∧
      ∀ stage : Stage,
        (∀ before stmt later machine flow,
          program.body = before ++ stmt :: later →
          (Machine.topLevel stage before).on {} =
            (.ok (), machine) →
          ((Run.stmt stage (Run.enterFirst stage)
            Machine.globals stmt).on machine).1 =
              .ok flow →
          flow = .normal) ∧
        ∀ strays : Run.Strays,
          program.evaluateWith strays stage =
            program.evaluate stage := by
  have hProgram := wellFormed_of_parse hParse
  refine ⟨hProgram, fun stage => ⟨?_, fun strays => ?_⟩⟩
  · intro before stmt later machine flow hBody hBefore hFlow
    rw [Program.WellFormed, hBody,
      Stmt.listWellFormed_append, Stmt.ListWellFormed]
      at hProgram
    have hMachine :=
      (Run.keeps_topLevel stage hProgram.1 {}
        Machine.holds_initial).1
    rw [hBefore] at hMachine
    have hEnds := Run.keeps_stmt stage hProgram.2.1 machine
    exact Run.eq_normal_of_allowed
      ((hEnds hMachine).2 flow hFlow)
  · exact hProgram.evaluateWith_eq strays stage

/- A function that leaves a loop, and a call of it. -/
theorem Source.signals_stay_inside_spin :
    let source :=
      Source.ofText "spin"
        "def spin():\n    while True:\n        break\nspin()\n"
    ∃ program,
      source.parse.program? = some program ∧
        program.WellFormed ∧
          ∀ stage strays,
            program.evaluateWith strays stage =
              program.evaluate stage := by
  intro source
  have hRead : source.parse.program?.isSome = true := by
    decide +kernel
  rcases Option.isSome_iff_exists.mp hRead with
    ⟨program, hParse⟩
  have hInside := signals_stay_inside source program hParse
  exact ⟨program, hParse, hInside.1, fun stage =>
    (hInside.2 stage).2⟩

end Gantry
