import Gantry.Proofs.Machine.Invariant

/-
  This file compares a script under some limits with the same
  script under larger ones. Hitting a limit leaves a mark: a
  loop that is cut short leaves a warning, which stays on
  record, and a call that is refused ends the script with a
  fault of its own. Without such a mark the two runs go the
  same way step by step.

  Key definitions include:
    * `Gantry.Stage.Within`
    * `Gantry.Machine.Warned`
    * `Gantry.Run.Free`
    * `Gantry.Run.Relaxes`

  Main statements:
    * `Gantry.Run.stmt_relaxes`
    * `Gantry.Run.enter_relaxes`
    * `Gantry.Program.evaluate_under_larger_limits`
-/

------------------------------------------------------------
-- Marks Of A Limit
------------------------------------------------------------

namespace Gantry

/- The same yard to look at, with limits as large or larger. -/
structure Stage.Within
    (tight loose : Stage) : Prop where
  world : tight.world = loose.world
  pose : tight.pose = loose.pose
  iterations :
    tight.limits.maxIterations ≤ loose.limits.maxIterations
  calls :
    tight.limits.maxCallDepth ≤ loose.limits.maxCallDepth

/- A loop has been cut short. -/
def Machine.Warned
    (machine : Machine) : Prop :=
  machine.transcript.warnings ≠ #[]

namespace Run

variable {α β : Type}

/- Warnings stay on record. -/
theorem warned_invariant :
    Invariant Machine.Warned fun _ => True :=
  .indifferent (fun _ _ _ _ _ hWarned => hWarned)
    (fun _ => .update fun _ hWarned => hWarned)
    (fun _ => .update fun _ hWarned => hWarned)
    fun _ => .update fun _ _ => by simp [Machine.Warned]

/- An ending that bears no mark of a limit. -/
structure Free
    (ending : Except RuntimeFault α × Machine) : Prop where
  quiet : ¬ ending.2.Warned
  shallow :
    ∀ limit, ending.1 ≠ .error (.recursionLimit limit)

theorem Free.ok
    {value : α}
    {after : Machine}
    (hQuiet : ¬ after.Warned) :
    Free (.ok value, after) :=
  ⟨hQuiet, nofun⟩

/- A fault bears no mark whatever a run was to give. -/
theorem Free.error
    {fault : RuntimeFault}
    {after : Machine}
    (hQuiet : ¬ after.Warned)
    (hShallow : ∀ limit, fault ≠ .recursionLimit limit) :
    Free ((.error fault : Except RuntimeFault α), after) :=
  ⟨hQuiet, by
    rintro limit ⟨⟩
    exact hShallow limit rfl⟩

theorem Free.fault
    {fault : RuntimeFault}
    {after : Machine}
    (hFree :
      Free ((.error fault : Except RuntimeFault α), after))
    (limit : Nat) :
    fault ≠ .recursionLimit limit := by
  rintro rfl
  exact hFree.shallow limit rfl

/-
  Under larger limits a run ends as under the ones at hand,
  if that ending bears no mark of a limit.
-/
structure Relaxes
    (tight loose : Run α) : Prop where
  keeps : Keeps Machine.Warned Anything tight
  same :
    ∀ machine, Free (on tight machine) →
      on loose machine = on tight machine

namespace Relaxes

theorem refl
    {Q : α → Prop}
    {run : Run α}
    (hRun : Keeps Machine.Warned Q run) :
    Relaxes run run where
  keeps := hRun.anything
  same := fun _ _ => rfl

theorem pure
    (value : α) :
    Relaxes (Pure.pure value) (Pure.pure value) :=
  refl (.pure (Q := Anything) trivial)

theorem throw
    (fault : RuntimeFault) :
    Relaxes (MonadExcept.throw fault : Run α)
      (MonadExcept.throw fault) :=
  refl (.throw (Q := Anything) fault)

/-
  A step that bears no mark was taken from a machine without
  one, so that a run without a mark has none on the way.
-/
theorem bind
    {tight loose : Run α}
    {tightRest looseRest : α → Run β}
    (hFirst : Relaxes tight loose)
    (hRest :
      ∀ value, Relaxes (tightRest value) (looseRest value)) :
    Relaxes (tight >>= tightRest) (loose >>= looseRest) where
  keeps := .bind hFirst.keeps fun value _ =>
    (hRest value).keeps
  same := by
    intro machine hFree
    have hSame := hFirst.same machine
    rw [on_bind] at hFree
    rw [on_bind, on_bind]
    rcases hEnd : on tight machine with ⟨outcome, after⟩
    rw [hEnd] at hFree hSame
    cases outcome with
    | ok value =>
        have hQuiet : ¬ after.Warned := fun hWarned =>
          hFree.quiet ((hRest value).keeps after hWarned).1
        rw [hSame (.ok hQuiet)]
        exact (hRest value).same after hFree
    | error fault =>
        rw [hSame (.error hFree.quiet hFree.fault)]

theorem ite
    {condition : Prop}
    [Decidable condition]
    {tight loose tightElse looseElse : Run α}
    (hThen : Relaxes tight loose)
    (hElse : Relaxes tightElse looseElse) :
    Relaxes (if condition then tight else tightElse)
      (if condition then loose else looseElse) := by
  split
  · exact hThen
  · exact hElse

/- Where a loop is cut short, nothing is promised. -/
theorem warned
    (warning : String)
    (value : α)
    (loose : Run α) :
    Relaxes (do warn warning; return value) loose where
  keeps := .bind (warned_invariant.warn warning) fun _ _ =>
    .pure trivial
  same := by
    intro machine hFree
    have hWarnings :
        (on (do warn warning; return value) machine :
            Except RuntimeFault α × Machine
          ).2.transcript.warnings =
          machine.transcript.warnings.push warning := rfl
    refine absurd ?_ hFree.quiet
    rw [Machine.Warned, hWarnings]
    exact Array.push_ne_empty

/- Nor is it where a call is refused. -/
theorem refused
    (limit : Nat)
    (loose : Run α) :
    Relaxes (MonadExcept.throw (.recursionLimit limit))
      loose where
  keeps := .throw _
  same := fun _ hFree => absurd rfl (hFree.shallow limit)

end Relaxes

end Run

end Gantry

------------------------------------------------------------
-- Expressions
------------------------------------------------------------

namespace Gantry

namespace Run

variable {tight loose : Stage}
variable {tightEnter looseEnter : Enter}

/- Calls of a script's functions do the same. -/
def EnterRelaxes
    (tightEnter looseEnter : Enter) : Prop :=
  ∀ closure args,
    Relaxes (tightEnter closure args)
      (looseEnter closure args)

theorem heap_relaxes :
    Relaxes heap heap :=
  .refl warned_invariant.heap

/- Built-in functions do not know the limits. -/
theorem callBuiltin_within
    (hWithin : tight.Within loose)
    (function : Builtin)
    (args : List Value) :
    callBuiltin loose function args =
      callBuiltin tight function args := by
  have hLook :
      ∀ machine : Machine,
        machine.look loose = machine.look tight := by
    intro machine
    unfold Machine.look Machine.predictedPose
    rw [hWithin.world, hWithin.pose]
  unfold callBuiltin
  simp only [hLook]

theorem call_relaxes
    (hWithin : tight.Within loose)
    (hEnter : EnterRelaxes tightEnter looseEnter)
    (callee : Value)
    (args : List Value) :
    Relaxes (call tight tightEnter callee args)
      (call loose looseEnter callee args) := by
  have hArgs :
      ∀ arg ∈ args, arg.Holds fun _ => True :=
    fun arg _ => arg.holds_true
  cases callee with
  | function closure => exact hEnter closure args
  | builtin function =>
      rw [call, call, callBuiltin_within hWithin]
      exact .refl
        (warned_invariant.callBuiltin tight function hArgs)
  | method serial receiver method =>
      exact .refl
        (warned_invariant.callMethod method receiver hArgs)
  | _ => exact .throw _

mutual

/- Expressions do the same if calls do. -/
theorem expr_relaxes
    (hWithin : tight.Within loose)
    (hEnter : EnterRelaxes tightEnter looseEnter)
    (scopes : Scopes) :
    (tree : Expr) →
    Relaxes (expr tight tightEnter scopes tree)
      (expr loose looseEnter scopes tree)
| .literal value _ => by
    rw [expr, expr]
    exact .pure _
| .name word _ => by
    rw [expr, expr]
    exact .refl (warned_invariant.lookup scopes word)
| .list items _ => by
    rw [expr, expr]
    refine .bind (exprs_relaxes hWithin hEnter scopes items)
      fun values => ?_
    exact .refl
      (warned_invariant.makeList _ fun item _ =>
        item.holds_true)
| .unary op operand _ => by
    rw [expr, expr]
    refine .bind (expr_relaxes hWithin hEnter scopes operand)
      fun value => ?_
    exact .refl (warned_invariant.unary op value)
| .binary op left right _ => by
    rw [expr, expr]
    refine .bind (expr_relaxes hWithin hEnter scopes left)
      fun value => ?_
    refine .bind heap_relaxes fun heap => ?_
    refine .ite (.pure value) ?_
    refine .bind (expr_relaxes hWithin hEnter scopes right)
      fun other => ?_
    exact .ite (.pure other)
      (.refl (warned_invariant.binary op value.holds_true
        other.holds_true))
| .call callee args _ => by
    rw [expr, expr]
    refine .bind (expr_relaxes hWithin hEnter scopes callee)
      fun function => ?_
    refine .bind (exprs_relaxes hWithin hEnter scopes args)
      fun values => ?_
    exact call_relaxes hWithin hEnter function values
| .index object key _ => by
    rw [expr, expr]
    refine .bind (expr_relaxes hWithin hEnter scopes object)
      fun container => ?_
    refine .bind (expr_relaxes hWithin hEnter scopes key)
      fun place => ?_
    exact .refl (warned_invariant.index container place)
| .attr object field _ => by
    rw [expr, expr]
    refine .bind (expr_relaxes hWithin hEnter scopes object)
      fun receiver => ?_
    exact .refl (warned_invariant.attr receiver field.name)

theorem exprs_relaxes
    (hWithin : tight.Within loose)
    (hEnter : EnterRelaxes tightEnter looseEnter)
    (scopes : Scopes) :
    (trees : List Expr) →
    Relaxes (exprs tight tightEnter scopes trees)
      (exprs loose looseEnter scopes trees)
| [] => by
    rw [exprs, exprs]
    exact .pure _
| tree :: trees => by
    rw [exprs, exprs]
    refine .bind (expr_relaxes hWithin hEnter scopes tree)
      fun value => ?_
    exact .bind (exprs_relaxes hWithin hEnter scopes trees)
      fun values => .pure _

end

theorem truth_relaxes
    (hWithin : tight.Within loose)
    (hEnter : EnterRelaxes tightEnter looseEnter)
    (scopes : Scopes)
    (test : Expr) :
    Relaxes (truth tight tightEnter scopes test)
      (truth loose looseEnter scopes test) :=
  .bind (expr_relaxes hWithin hEnter scopes test) fun _ =>
    .bind heap_relaxes fun _ => .pure _

end Run

end Gantry

------------------------------------------------------------
-- Loops
------------------------------------------------------------

namespace Gantry

namespace Run

theorem afterBody_relaxes
    (flow : Flow)
    {tightRest looseRest : Run Flow}
    (hRest : Relaxes tightRest looseRest) :
    Relaxes (afterBody flow tightRest)
      (afterBody flow looseRest) := by
  cases flow with
  | normal => exact hRest
  | continueLoop => exact hRest
  | breakLoop => exact .pure _
  | returned value => exact .pure _

/-
  A loop that ends by itself within some rounds does so when
  more are allowed, also if the last one was needed.
-/
theorem whileLoop_relaxes
    {tightTest looseTest : Run Bool}
    {tightBody looseBody : Run Flow}
    {warning : String}
    {looseLimit : Run Unit}
    (hTest : Relaxes tightTest looseTest)
    (hBody : Relaxes tightBody looseBody)
    {rounds more : Nat}
    (hRounds : rounds ≤ more) :
    Relaxes (whileLoop tightTest tightBody (warn warning) rounds)
      (whileLoop looseTest looseBody looseLimit more) := by
  induction rounds generalizing more with
  | zero =>
      cases more with
      | zero =>
          refine .bind hTest fun isTrue => ?_
          exact .ite (.warned warning _ _) (.pure _)
      | succ more =>
          refine .bind hTest fun isTrue => ?_
          exact .ite (.warned warning _ _) (.pure _)
  | succ rounds ih =>
      cases more with
      | zero => omega
      | succ more =>
          refine .bind hTest fun isTrue => ?_
          refine .ite (.bind hBody fun flow => ?_) (.pure _)
          exact afterBody_relaxes flow
            (ih (Nat.le_of_succ_le_succ hRounds))

theorem itemAt?_relaxes
    (ref place : Nat) :
    Relaxes (itemAt? ref place) (itemAt? ref place) :=
  .refl (warned_invariant.itemAt? ref place)

/- So does a walk through a list. -/
theorem forLoop_relaxes
    {ref : Nat}
    {tightVisit looseVisit : Value → Run Flow}
    {warning : String}
    {looseLimit : Run Unit}
    (hVisit :
      ∀ item, Relaxes (tightVisit item) (looseVisit item))
    {rounds more : Nat}
    (hRounds : rounds ≤ more)
    (place : Nat) :
    Relaxes (forLoop ref tightVisit (warn warning) rounds place)
      (forLoop ref looseVisit looseLimit more place) := by
  induction rounds generalizing more place with
  | zero =>
      cases more with
      | zero =>
          refine .bind (itemAt?_relaxes ref place)
            fun found => ?_
          exact .ite (.warned warning _ _) (.pure _)
      | succ more =>
          refine .bind (itemAt?_relaxes ref place)
            fun found => ?_
          cases found with
          | none => exact .pure _
          | some item => exact .warned warning _ _
  | succ rounds ih =>
      cases more with
      | zero => omega
      | succ more =>
          refine .bind (itemAt?_relaxes ref place)
            fun found => ?_
          cases found with
          | none => exact .pure _
          | some item =>
              refine .bind (hVisit item) fun flow => ?_
              exact afterBody_relaxes flow
                (ih (Nat.le_of_succ_le_succ hRounds) _)

end Run

end Gantry

------------------------------------------------------------
-- Statements
------------------------------------------------------------

namespace Gantry

namespace Run

variable {tight loose : Stage}
variable {tightEnter looseEnter : Enter}

theorem begin_relaxes
    (span : Span) :
    Relaxes (begin span) (begin span) :=
  .refl (warned_invariant.begin span)

theorem define_relaxes
    (scopes : Scopes)
    (name : String)
    (value : Value) :
    Relaxes (define scopes name value)
      (define scopes name value) :=
  .refl
    (warned_invariant.define scopes name value
      value.holds_true)

mutual

/- Statements do the same if calls do. -/
theorem stmt_relaxes
    (hWithin : tight.Within loose)
    (hEnter : EnterRelaxes tightEnter looseEnter)
    (scopes : Scopes) :
    (tree : Stmt) →
    Relaxes (stmt tight tightEnter scopes tree)
      (stmt loose looseEnter scopes tree)
| .assign target value span => by
    rw [stmt, stmt]
    refine .bind (begin_relaxes span) fun _ => ?_
    refine .bind (expr_relaxes hWithin hEnter scopes value)
      fun result => ?_
    exact .bind (define_relaxes scopes target.name result)
      fun _ => .pure _
| .setIndex object key value span => by
    rw [stmt, stmt]
    refine .bind (begin_relaxes span) fun _ => ?_
    refine .bind (expr_relaxes hWithin hEnter scopes object)
      fun container => ?_
    refine .bind (expr_relaxes hWithin hEnter scopes key)
      fun place => ?_
    refine .bind (expr_relaxes hWithin hEnter scopes value)
      fun item => ?_
    exact .bind
      (.refl (warned_invariant.setIndex container place
        item.holds_true))
      fun _ => .pure _
| .branch test body elifs orElse span => by
    rw [stmt, stmt]
    refine .bind (begin_relaxes span) fun _ => ?_
    refine .bind (truth_relaxes hWithin hEnter scopes test)
      fun _ => ?_
    refine .ite (block_relaxes hWithin hEnter scopes body) ?_
    refine .bind
      (elifClauses_relaxes hWithin hEnter scopes elifs)
      fun taken => ?_
    cases taken with
    | some flow => exact .pure _
    | none =>
        exact elseClause_relaxes hWithin hEnter scopes orElse
| .forLoop target iterable body span => by
    rw [stmt, stmt]
    refine .bind (begin_relaxes span) fun _ => ?_
    refine .bind (expr_relaxes hWithin hEnter scopes iterable)
      fun value => ?_
    cases value with
    | list ref =>
        refine forLoop_relaxes (fun item => ?_)
          hWithin.iterations 0
        exact .bind (define_relaxes scopes target.name item)
          fun _ => block_relaxes hWithin hEnter scopes body
    | _ => exact .throw _
| .whileLoop test body span => by
    rw [stmt, stmt]
    refine .bind (begin_relaxes span) fun _ => ?_
    exact whileLoop_relaxes
      (truth_relaxes hWithin hEnter scopes test)
      (block_relaxes hWithin hEnter scopes body)
      hWithin.iterations
| .define name params body span => by
    rw [stmt, stmt]
    refine .bind (begin_relaxes span) fun _ => ?_
    exact .bind
      (.refl (warned_invariant.defineFunction scopes name
        params body fun _ => trivial))
      fun _ => .pure _
| .returnValue none span => by
    rw [stmt, stmt]
    exact .bind (begin_relaxes span) fun _ => .pure _
| .returnValue (some result) span => by
    rw [stmt, stmt]
    refine .bind (begin_relaxes span) fun _ => ?_
    exact .bind (expr_relaxes hWithin hEnter scopes result)
      fun _ => .pure _
| .breakLoop span => by
    rw [stmt, stmt]
    exact .bind (begin_relaxes span) fun _ => .pure _
| .continueLoop span => by
    rw [stmt, stmt]
    exact .bind (begin_relaxes span) fun _ => .pure _
| .pass span => by
    rw [stmt, stmt]
    exact .bind (begin_relaxes span) fun _ => .pure _
| .expr value span => by
    rw [stmt, stmt]
    refine .bind (begin_relaxes span) fun _ => ?_
    exact .bind (expr_relaxes hWithin hEnter scopes value)
      fun _ => .pure _

theorem block_relaxes
    (hWithin : tight.Within loose)
    (hEnter : EnterRelaxes tightEnter looseEnter)
    (scopes : Scopes) :
    (body : Block) →
    Relaxes (block tight tightEnter scopes body)
      (block loose looseEnter scopes body)
| .mk body _ => by
    rw [block, block]
    exact stmts_relaxes hWithin hEnter scopes body

theorem stmts_relaxes
    (hWithin : tight.Within loose)
    (hEnter : EnterRelaxes tightEnter looseEnter)
    (scopes : Scopes) :
    (trees : List Stmt) →
    Relaxes (stmts tight tightEnter scopes trees)
      (stmts loose looseEnter scopes trees)
| [] => by
    rw [stmts, stmts]
    exact .pure _
| tree :: trees => by
    rw [stmts, stmts]
    refine .bind (stmt_relaxes hWithin hEnter scopes tree)
      fun flow => ?_
    cases flow with
    | normal => exact stmts_relaxes hWithin hEnter scopes trees
    | _ => exact .pure _

theorem elifClauses_relaxes
    (hWithin : tight.Within loose)
    (hEnter : EnterRelaxes tightEnter looseEnter)
    (scopes : Scopes) :
    (clauses : List Elif) →
    Relaxes (elifClauses tight tightEnter scopes clauses)
      (elifClauses loose looseEnter scopes clauses)
| [] => by
    rw [elifClauses, elifClauses]
    exact .pure _
| .mk test body _ :: clauses => by
    rw [elifClauses, elifClauses]
    refine .bind (truth_relaxes hWithin hEnter scopes test)
      fun _ => ?_
    refine .ite ?_
      (elifClauses_relaxes hWithin hEnter scopes clauses)
    exact .bind (block_relaxes hWithin hEnter scopes body)
      fun _ => .pure _

theorem elseClause_relaxes
    (hWithin : tight.Within loose)
    (hEnter : EnterRelaxes tightEnter looseEnter)
    (scopes : Scopes) :
    (orElse : Option Block) →
    Relaxes (elseClause tight tightEnter scopes orElse)
      (elseClause loose looseEnter scopes orElse)
| none => by
    rw [elseClause, elseClause]
    exact .pure _
| some body => by
    rw [elseClause, elseClause]
    exact block_relaxes hWithin hEnter scopes body

end

end Run

end Gantry

------------------------------------------------------------
-- Calls And Scripts
------------------------------------------------------------

namespace Gantry

namespace Run

variable {tight loose : Stage}

/- A call is over the same way if its body is. -/
theorem callBody_relaxes
    {tightBody looseBody : Run Flow}
    (hBody : Relaxes tightBody looseBody) :
    Relaxes (callBody tightBody) (callBody looseBody) where
  keeps := by
    intro machine hWarned
    have hKept :=
      hBody.keeps { machine with depth := machine.depth + 1 }
        hWarned
    rw [on_callBody]
    rcases hEnd :
        on tightBody
          { machine with depth := machine.depth + 1 } with
      ⟨outcome, after⟩
    rw [hEnd] at hKept
    cases outcome with
    | ok flow => exact ⟨hKept.1, fun _ _ => trivial⟩
    | error fault => exact ⟨hKept.1, fun _ _ => trivial⟩
  same := by
    intro machine hFree
    have hSame :=
      hBody.same { machine with depth := machine.depth + 1 }
    rw [on_callBody] at hFree
    rw [on_callBody, on_callBody]
    rcases hEnd :
        on tightBody
          { machine with depth := machine.depth + 1 } with
      ⟨outcome, after⟩
    rw [hEnd] at hFree hSame
    cases outcome with
    | ok flow => rw [hSame (.ok hFree.quiet)]
    | error fault =>
        rw [hSame (.error hFree.quiet hFree.fault)]

/-
  Calls do the same, by the calls that may still be made
  inside of them.
-/
theorem enter_relaxes
    (hWithin : tight.Within loose)
    {calls more : Nat}
    (hCalls : calls ≤ more) :
    EnterRelaxes (enter tight calls) (enter loose more) := by
  induction calls generalizing more with
  | zero =>
      intro closure args
      have hArity :=
        Relaxes.refl (Keeps.checkArity closure args)
      cases more with
      | zero => exact .bind hArity fun _ => .refused _ _
      | succ more => exact .bind hArity fun _ => .refused _ _
  | succ calls ih =>
      intro closure args
      cases more with
      | zero => omega
      | succ more =>
          refine .bind (.refl (Keeps.checkArity closure args))
            fun _ => ?_
          refine .bind
            (.refl (Q := Anything) fun _ hWarned =>
              ⟨hWarned, fun _ _ => trivial⟩)
            fun scopes => ?_
          exact callBody_relaxes
            (block_relaxes hWithin
              (ih (Nat.le_of_succ_le_succ hCalls)) scopes
              closure.body)

theorem topLevel_relaxes
    (hWithin : tight.Within loose) :
    (body : List Stmt) →
    Relaxes (Machine.topLevel tight body)
      (Machine.topLevel loose body)
| [] => .pure _
| first :: rest =>
    .bind
      (stmt_relaxes hWithin
        (enter_relaxes hWithin hWithin.calls)
        Machine.globals first)
      fun _ => topLevel_relaxes hWithin rest

end Run

/-
  A script that ran into no limit, that is without a warning
  and without being refused a call, does the same under any
  larger limits: it prints the same, records the same
  commands and ends with the same fault, if with any.
-/
theorem Program.evaluate_under_larger_limits
    (program : Program)
    (stage : Stage)
    (limits : Limits)
    (hIterations :
      stage.limits.maxIterations ≤ limits.maxIterations)
    (hCalls :
      stage.limits.maxCallDepth ≤ limits.maxCallDepth)
    (hQuiet :
      (program.evaluate stage).transcript.warnings = #[])
    (hShallow :
      ∀ crash, (program.evaluate stage).crash? = some crash →
        ∀ limit, crash.fault ≠ .recursionLimit limit) :
    program.evaluate { stage with limits := limits } =
      program.evaluate stage := by
  have hWithin : stage.Within { stage with limits := limits } :=
    ⟨rfl, rfl, hIterations, hCalls⟩
  have hSame :=
    (Run.topLevel_relaxes hWithin program.body).same {}
  unfold evaluate Machine.run at *
  unfold Run.on at hSame
  rcases hEnd :
      (Machine.topLevel stage program.body).run.run {} with
    ⟨outcome, after⟩
  rw [hEnd] at hQuiet hShallow hSame
  have hFree : ¬ after.Warned := by
    intro hWarned
    cases outcome with
    | ok _ => exact hWarned hQuiet
    | error fault => exact hWarned hQuiet
  cases outcome with
  | ok _ => rw [hSame (.ok hFree)]
  | error fault => rw [hSame (.error hFree (hShallow _ rfl))]

/-
  A loop of two rounds and one call at a time, where exactly
  that much is allowed.
-/
theorem Program.evaluate_under_larger_limits_exact :
    let word := fun text => Expr.name text Span.unset
    let step : Stmt :=
      .expr (.call (word "step") [word "x"] Span.unset)
        Span.unset
    let body : Stmt :=
      .expr (.call (word "move") [] Span.unset) Span.unset
    let program : Program :=
      ⟨[.define ⟨"step", Span.unset⟩ [⟨"x", Span.unset⟩]
            (.mk [body] Span.unset) Span.unset,
          .forLoop ⟨"x", Span.unset⟩
            (.list [.literal .none Span.unset,
              .literal (.bool true) Span.unset] Span.unset)
            (.mk [step] Span.unset) Span.unset],
        Span.unset⟩
    let stage : Stage :=
      { world := World.empty 2 2, limits := ⟨2, 1⟩ }
    (program.evaluate stage).transcript.commands.size = 2 ∧
      program.evaluate { stage with limits := ⟨9, 9⟩ } =
        program.evaluate stage := by
  intro word step body program stage
  refine ⟨by decide +kernel, ?_⟩
  refine evaluate_under_larger_limits program stage ⟨9, 9⟩
    (by decide) (by decide) (by decide +kernel) ?_
  have hEnds : (program.evaluate stage).crash? = none := by
    decide +kernel
  rw [hEnds]
  nofun

end Gantry
