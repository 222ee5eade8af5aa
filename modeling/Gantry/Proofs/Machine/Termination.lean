import Gantry.Proofs.Machine.Walks

/-
  This file shows that the evaluation of every script comes
  to an end.

  An attempt follows a run when, from every machine with a
  given number of calls in progress, it ends just like the
  run. Expressions and statements follow along their tree;
  loops follow because the rounds left shrink, and calls
  because the calls that may still be made do.

  Key definitions include:
    * `Gantry.Attempt.Follows`
    * `Gantry.Attempt.EnterFollows`

  Main statements:
    * `Gantry.Attempt.expr_follows`
    * `Gantry.Attempt.whileFrom_follows`
    * `Gantry.Attempt.stmt_follows`
    * `Gantry.Attempt.enter_follows`
    * `Gantry.Course.evaluation_ends`
-/

------------------------------------------------------------
-- Attempts From A Machine
------------------------------------------------------------

namespace Gantry

namespace Attempt

open Course (Returns)

variable {α β : Type}
variable {stage : Stage}

theorem on_bind
    (first : Attempt α)
    (rest : α → Attempt β)
    (machine : Machine) :
    on (first >>= rest) machine =
      on first machine >>= fun ended =>
        match ended with
        | (.ok value, after) => on (rest value) after
        | (.error fault, after) =>
            pure (.error fault, after) := by
  simp only [on, ExceptT.run_bind, StateT.run_bind]
  congr 1
  funext ended
  rcases ended with ⟨outcome, after⟩
  cases outcome with
  | ok value => rfl
  | error fault => rfl

theorem on_tryCatch
    (body : Attempt α)
    (handler : RuntimeFault → Attempt α)
    (machine : Machine) :
    on (tryCatch body handler) machine =
      on body machine >>= fun ended =>
        match ended with
        | (.ok value, after) => pure (.ok value, after)
        | (.error fault, after) =>
            on (handler fault) after := by
  change
    StateT.run (ExceptT.run (ExceptT.tryCatch body handler))
        machine = _
  simp only [ExceptT.tryCatch, ExceptT.run_mk,
    StateT.run_bind]
  change on body machine >>= _ = _
  congr 1
  funext ended
  rcases ended with ⟨outcome, after⟩
  cases outcome with
  | ok value => rfl
  | error fault => rfl

theorem on_liftM
    (course : Course α)
    (machine : Machine) :
    on (liftM course) machine =
      course >>= fun value =>
        pure (.ok value, machine) := by
  simp [on, liftM, monadLift, MonadLift.monadLift]

theorem returns_bind
    {first : Attempt α}
    {rest : α → Attempt β}
    {machine after : Machine}
    {value : α}
    {ended : Except RuntimeFault β × Machine}
    (hFirst : Returns stage (on first machine)
      (.ok value, after))
    (hRest : Returns stage (on (rest value) after) ended) :
    Returns stage (on (first >>= rest) machine) ended := by
  rw [on_bind]
  exact .bind hFirst hRest

theorem returns_bind_error
    {first : Attempt α}
    (rest : α → Attempt β)
    {machine after : Machine}
    {fault : RuntimeFault}
    (hFirst : Returns stage (on first machine)
      (.error fault, after)) :
    Returns stage (on (first >>= rest) machine)
      (.error fault, after) := by
  rw [on_bind]
  exact .bind hFirst (.pure _)

theorem returns_tryCatch
    {body : Attempt α}
    (handler : RuntimeFault → Attempt α)
    {machine after : Machine}
    {value : α}
    (hBody : Returns stage (on body machine)
      (.ok value, after)) :
    Returns stage (on (tryCatch body handler) machine)
      (.ok value, after) := by
  rw [on_tryCatch]
  exact .bind hBody (.pure _)

theorem returns_tryCatch_error
    {body : Attempt α}
    {handler : RuntimeFault → Attempt α}
    {machine after : Machine}
    {fault : RuntimeFault}
    {ended : Except RuntimeFault α × Machine}
    (hBody : Returns stage (on body machine)
      (.error fault, after))
    (hHandler :
      Returns stage (on (handler fault) after) ended) :
    Returns stage (on (tryCatch body handler) machine)
      ended := by
  rw [on_tryCatch]
  exact .bind hBody hHandler

theorem returns_ofRun
    (run : Run α)
    (machine : Machine) :
    Returns stage (on (ofRun run) machine)
      (run.on machine) :=
  .pure _

end Attempt

end Gantry

------------------------------------------------------------
-- Following A Run
------------------------------------------------------------

namespace Gantry

namespace Attempt

open Course (Returns)
open Run (Keeps Anything)

variable {α β : Type}
variable {stage : Stage}
variable {depth : Nat}

/- So many calls are in progress. -/
def AtDepth
    (depth : Nat)
    (machine : Machine) : Prop :=
  machine.depth = depth

/- The number of calls in progress is an invariant. -/
theorem atDepth_invariant
    (depth : Nat) :
    Run.Invariant (AtDepth depth) fun _ => True :=
  .indifferent (fun _ _ _ _ _ hMachine => hMachine)
    (fun _ => .update fun _ hMachine => hMachine)
    (fun _ => .update fun _ hMachine => hMachine)
    fun _ => .update fun _ hMachine => hMachine

/-
  With so many calls in progress, an attempt ends just like
  a run, and as many calls are in progress afterwards.
-/
structure Follows
    (stage : Stage)
    (depth : Nat)
    (attempt : Attempt α)
    (run : Run α) : Prop where
  returns :
    ∀ machine, machine.depth = depth →
      Returns stage (attempt.on machine) (run.on machine)
  keeps : Keeps (AtDepth depth) Anything run

namespace Follows

theorem pure
    (value : α) :
    Follows stage depth (Pure.pure value)
      (Pure.pure value) where
  returns := fun _ _ => .pure _
  keeps := .pure trivial

theorem throw
    (fault : RuntimeFault) :
    Follows stage depth
      (MonadExcept.throw fault : Attempt α)
      (MonadExcept.throw fault) where
  returns := fun _ _ => .pure _
  keeps := .throw fault

theorem ofRun
    {Q : α → Prop}
    {run : Run α}
    (hRun : Keeps (AtDepth depth) Q run) :
    Follows stage depth (Attempt.ofRun run) run where
  returns := fun machine _ => returns_ofRun run machine
  keeps := hRun.anything

theorem bind
    {first : Attempt α}
    {firstRun : Run α}
    {rest : α → Attempt β}
    {restRun : α → Run β}
    (hFirst : Follows stage depth first firstRun)
    (hRest :
      ∀ value,
        Follows stage depth (rest value) (restRun value)) :
    Follows stage depth (first >>= rest)
      (firstRun >>= restRun) where
  returns := by
    intro machine hMachine
    have hReturns := hFirst.returns machine hMachine
    have hAfter := (hFirst.keeps machine hMachine).1
    rw [Run.on_bind]
    rcases hRun : firstRun.on machine with ⟨outcome, after⟩
    rw [hRun] at hReturns hAfter
    cases outcome with
    | ok value =>
        exact returns_bind hReturns
          ((hRest value).returns after hAfter)
    | error fault => exact returns_bind_error rest hReturns
  keeps := .bind hFirst.keeps fun value _ =>
    (hRest value).keeps

/- A walk that does not touch the machine. -/
theorem walk
    {course : Course α}
    {value : α}
    {rest : α → Attempt β}
    {run : Run β}
    (hWalk : Returns stage course value)
    (hRest : Follows stage depth (rest value) run) :
    Follows stage depth (liftM course >>= rest) run where
  returns := by
    intro machine hMachine
    have hLift :
        Returns stage (on (liftM course) machine)
          (.ok value, machine) := by
      rw [on_liftM]
      exact .bind hWalk (.pure _)
    exact returns_bind hLift
      (hRest.returns machine hMachine)
  keeps := hRest.keeps

/- What is asked for follows when its course does. -/
theorem asked
    {attempt course : Attempt α}
    {run : Run α}
    (hAsked :
      ∀ machine ended,
        Returns stage (course.on machine) ended →
          Returns stage (attempt.on machine) ended)
    (hCourse : Follows stage depth course run) :
    Follows stage depth attempt run where
  returns := fun machine hMachine =>
    hAsked machine _ (hCourse.returns machine hMachine)
  keeps := hCourse.keeps

theorem expr
    {scopes : Scopes}
    {tree : Expr}
    {run : Run Value}
    (hTree :
      Follows stage depth (evaluating stage scopes tree)
        run) :
    Follows stage depth (Attempt.expr scopes tree) run :=
  asked (fun _ _ hEnded => .answer hEnded) hTree

theorem enter
    {closure : Closure}
    {args : List Value}
    {run : Run Value}
    (hCall :
      Follows stage depth (entering stage closure args)
        run) :
    Follows stage depth (Attempt.enter closure args)
      run :=
  asked (fun _ _ hEnded => .answer hEnded) hCall

theorem stmt
    {scopes : Scopes}
    {tree : Stmt}
    {run : Run Run.Flow}
    (hTree :
      Follows stage depth (running scopes tree) run) :
    Follows stage depth (Attempt.stmt scopes tree) run :=
  asked (fun _ _ hEnded => .answer hEnded) hTree

theorem whileFrom
    {scopes : Scopes}
    {test : Expr}
    {body : Block}
    {span : Span}
    {rounds : Nat}
    {run : Run Run.Flow}
    (hLoop :
      Follows stage depth
        (looping stage scopes test body span rounds) run) :
    Follows stage depth
      (Attempt.whileFrom scopes test body span rounds)
      run :=
  asked (fun _ _ hEnded => .answer hEnded) hLoop

theorem forFrom
    {scopes : Scopes}
    {target : Ident}
    {ref : Nat}
    {body : Block}
    {span : Span}
    {place : Nat}
    {run : Run Run.Flow}
    (hWalk :
      Follows stage depth
        (visiting stage scopes target ref body span place)
        run) :
    Follows stage depth
      (Attempt.forFrom scopes target ref body span place)
      run :=
  asked (fun _ _ hEnded => .answer hEnded) hWalk

theorem ite
    {condition : Prop}
    [Decidable condition]
    {first second : Attempt α}
    {firstRun secondRun : Run α}
    (hFirst :
      condition → Follows stage depth first firstRun)
    (hSecond :
      ¬condition → Follows stage depth second secondRun) :
    Follows stage depth (if condition then first else second)
      (if condition then firstRun else secondRun) := by
  split
  case isTrue hCondition => exact hFirst hCondition
  case isFalse hCondition => exact hSecond hCondition

end Follows

end Attempt

end Gantry

------------------------------------------------------------
-- Operators And Built-In Functions
------------------------------------------------------------

namespace Gantry

namespace Attempt

variable {stage : Stage}
variable {depth : Nat}

theorem heap_follows :
    Follows stage depth heap Run.heap :=
  .ofRun (atDepth_invariant depth).heap

theorem isIn_follows
    (needle container : Value) :
    Follows stage depth (isIn needle container)
      (Run.isIn needle container) := by
  cases container with
  | list ref =>
      have hRun :
          Run.isIn needle (.list ref) = do
            let heap ← Run.heap
            return .bool
              ((heap.items ref).toList.any
                (Value.equal heap · needle)) := by
        simp only [Array.any_toList]
        cases needle <;> rfl
      rw [hRun]
      refine .bind heap_follows fun heap => ?_
      refine .walk (.anyM _ fun item _ => ?_) (.pure _)
      exact Course.equal_returns heap item needle
  | _ => exact .ofRun ((atDepth_invariant depth).isIn _ _)

theorem joinTexts_follows
    (left right : Value) :
    Follows stage depth (joinTexts left right) do
      let heap ← Run.heap
      return .str
        (left.display heap ++ right.display heap) := by
  refine .bind heap_follows fun heap => ?_
  refine .walk (Course.display_returns heap left) ?_
  exact .walk (Course.display_returns heap right) (.pure _)

theorem add_follows
    (left right : Value) :
    Follows stage depth (add left right)
      (Run.add left right) := by
  unfold add
  split
  case h_1 => exact joinTexts_follows _ _
  case h_2 hLeft =>
    cases left with
    | str text => exact absurd rfl (hLeft text)
    | _ => exact joinTexts_follows _ _
  case h_3 =>
    exact .ofRun ((atDepth_invariant depth).add _ _)

theorem binary_follows
    (op : BinaryOp)
    (left right : Value) :
    Follows stage depth (binary op left right)
      (Run.binary op left right) := by
  cases op with
  | equal =>
      exact .bind heap_follows fun heap =>
        .walk (Course.equal_returns heap left right) (.pure _)
  | notEqual =>
      exact .bind heap_follows fun heap =>
        .walk (Course.equal_returns heap left right) (.pure _)
  | isIn => exact isIn_follows left right
  | add => exact add_follows left right
  | _ =>
      exact .ofRun
        ((atDepth_invariant depth).binary _ left.holds_true
          right.holds_true)

theorem blockKind_returns
    (heap : Heap)
    (args : List Value) :
    Course.Returns stage (Course.blockKind heap args)
      (Run.blockKind heap args) := by
  cases args with
  | nil => exact .pure _
  | cons value rest =>
      cases value with
      | none => exact .pure _
      | _ => exact Course.display_returns heap _

theorem callBuiltin_follows
    (stage : Stage)
    (function : Builtin)
    (args : List Value) :
    Follows stage depth (callBuiltin stage function args)
      (Run.callBuiltin stage function args) := by
  have hInv := atDepth_invariant depth
  have hArgs : ∀ arg ∈ args, arg.Holds fun _ => True :=
    fun arg _ => arg.holds_true
  unfold callBuiltin
  split
  case h_1 =>
    refine .bind heap_follows fun heap => ?_
    refine .walk
      (.mapM args fun arg _ =>
        Course.display_returns heap arg) ?_
    exact .bind (.ofRun (hInv.printLine _)) fun _ => .pure _
  case h_2 =>
    refine .bind (.ofRun (.oneArgument _ hArgs))
      fun value => ?_
    refine .bind heap_follows fun heap => ?_
    exact .walk (Course.display_returns heap value) (.pure _)
  case h_3 =>
    refine .bind heap_follows fun heap => ?_
    refine .walk (blockKind_returns heap args) ?_
    exact .bind (.ofRun (hInv.record _)) fun _ => .pure _
  case h_4 => exact .ofRun (hInv.callBuiltin _ _ hArgs)

end Attempt

end Gantry

------------------------------------------------------------
-- Expressions
------------------------------------------------------------

namespace Gantry

namespace Attempt

variable {stage : Stage}
variable {depth : Nat}
variable {enter : Run.Enter}

/-
  A way to call a script's functions agrees with what they
  do when so many calls are in progress.
-/
def EnterFollows
    (depth : Nat)
    (stage : Stage)
    (enter : Run.Enter) : Prop :=
  ∀ closure args,
    Follows stage depth (Attempt.enter closure args)
      (enter closure args)

theorem call_follows
    (hEnter : EnterFollows depth stage enter)
    (callee : Value)
    (args : List Value) :
    Follows stage depth (call stage callee args)
      (Run.call stage enter callee args) := by
  have hInv := atDepth_invariant depth
  have hArgs : ∀ arg ∈ args, arg.Holds fun _ => True :=
    fun arg _ => arg.holds_true
  cases callee with
  | function closure => exact hEnter closure args
  | builtin function =>
      exact callBuiltin_follows stage function args
  | method serial receiver method =>
      exact .ofRun (hInv.callMethod method receiver hArgs)
  | _ => exact .throw _

mutual

/- Expressions follow along their tree. -/
theorem expr_follows
    (hEnter : EnterFollows depth stage enter)
    (scopes : Scopes) :
    (tree : Expr) →
    Follows stage depth (expr scopes tree)
      (Run.expr stage enter scopes tree)
| .literal value _ => by
    rw [Run.expr]
    exact .expr (.pure _)
| .name word _ => by
    rw [Run.expr]
    exact .expr
      (.ofRun ((atDepth_invariant depth).lookup scopes word))
| .list items _ => by
    rw [Run.expr]
    refine .expr (.bind (exprs_follows hEnter scopes items)
      fun values => ?_)
    refine .ofRun
      ((atDepth_invariant depth).makeList _ fun item _ => ?_)
    exact item.holds_true
| .unary op operand _ => by
    rw [Run.expr]
    refine .expr (.bind (expr_follows hEnter scopes operand)
      fun value => ?_)
    exact .ofRun ((atDepth_invariant depth).unary op value)
| .binary op left right _ => by
    rw [Run.expr]
    refine .expr (.bind (expr_follows hEnter scopes left)
      fun first => ?_)
    refine .bind heap_follows fun heap => ?_
    refine .ite (fun _ => .pure first) fun _ => ?_
    refine .bind (expr_follows hEnter scopes right)
      fun second => ?_
    exact .ite (fun _ => .pure second) fun _ =>
      binary_follows op first second
| .call callee args _ => by
    rw [Run.expr]
    refine .expr (.bind (expr_follows hEnter scopes callee)
      fun function => ?_)
    refine .bind (exprs_follows hEnter scopes args)
      fun values => ?_
    exact call_follows hEnter function values
| .index object key _ => by
    rw [Run.expr]
    refine .expr (.bind (expr_follows hEnter scopes object)
      fun container => ?_)
    refine .bind (expr_follows hEnter scopes key)
      fun place => ?_
    exact .ofRun
      ((atDepth_invariant depth).index container place)
| .attr object field _ => by
    rw [Run.expr]
    refine .expr (.bind (expr_follows hEnter scopes object)
      fun receiver => ?_)
    exact .ofRun
      ((atDepth_invariant depth).attr receiver field.name)

theorem exprs_follows
    (hEnter : EnterFollows depth stage enter)
    (scopes : Scopes) :
    (trees : List Expr) →
    Follows stage depth (exprs scopes trees)
      (Run.exprs stage enter scopes trees)
| [] => by
    rw [exprs, Run.exprs]
    exact .pure []
| first :: rest => by
    rw [exprs, Run.exprs]
    refine .bind (expr_follows hEnter scopes first)
      fun value => ?_
    exact .bind (exprs_follows hEnter scopes rest)
      fun values => .pure (value :: values)

end

theorem truth_follows
    (hEnter : EnterFollows depth stage enter)
    (scopes : Scopes)
    (test : Expr) :
    Follows stage depth (truth scopes test)
      (Run.truth stage enter scopes test) := by
  rw [truth]
  refine .bind (expr_follows hEnter scopes test)
    fun value => ?_
  exact .bind heap_follows fun heap => .pure _

end Attempt

end Gantry

------------------------------------------------------------
-- Loops
------------------------------------------------------------

namespace Gantry

namespace Attempt

variable {stage : Stage}
variable {depth : Nat}
variable {scopes : Scopes}
variable {body : Block}
variable {span : Span}

theorem warnLimit_follows
    (stage : Stage)
    (span : Span) :
    Follows stage depth (ofRun (Run.warnLimit stage span))
      (Run.warnLimit stage span) :=
  .ofRun ((atDepth_invariant depth).warnLimit stage span)

/-
  A loop follows: the rounds behind it and those left make
  up the limit, so that the rounds left shrink.
-/
theorem whileFrom_follows
    {test : Expr}
    {testRun : Run Bool}
    {bodyRun : Run Run.Flow}
    (hTest :
      Follows stage depth (truth scopes test) testRun)
    (hBody :
      Follows stage depth (block scopes body) bodyRun)
    (rounds : Nat) :
    (done : Nat) →
    done + rounds = stage.limits.maxIterations →
    Follows stage depth
      (whileFrom scopes test body span done)
      (Run.whileLoop testRun bodyRun
        (Run.warnLimit stage span) rounds) := by
  induction rounds with
  | zero =>
      intro done hDone
      rw [Run.whileLoop]
      refine .whileFrom (.bind hTest fun isTrue => ?_)
      cases isTrue with
      | false => exact .pure _
      | true =>
          simp only [if_true]
          rw [if_pos (by omega)]
          exact .bind (warnLimit_follows stage span)
            fun _ => .pure _
  | succ rounds ih =>
      intro done hDone
      rw [Run.whileLoop]
      refine .whileFrom (.bind hTest fun isTrue => ?_)
      cases isTrue with
      | false => exact .pure _
      | true =>
          simp only [if_true]
          rw [if_neg (by omega)]
          refine .bind hBody fun flow => ?_
          cases flow with
          | breakLoop => exact .pure _
          | returned value => exact .pure _
          | normal => exact ih (done + 1) (by omega)
          | continueLoop => exact ih (done + 1) (by omega)

theorem itemAt?_follows
    (ref place : Nat) :
    Follows stage depth (ofRun (Run.itemAt? ref place))
      (Run.itemAt? ref place) :=
  .ofRun ((atDepth_invariant depth).itemAt? ref place)

/-
  A walk follows as well. The list may grow under it, but
  the places it may still come to do not.
-/
theorem forFrom_follows
    {target : Ident}
    {ref : Nat}
    {bodyRun : Run Run.Flow}
    (hBody :
      Follows stage depth (block scopes body) bodyRun)
    (rounds : Nat) :
    (place : Nat) →
    place + rounds = stage.limits.maxIterations →
    Follows stage depth
      (forFrom scopes target ref body span place)
      (Run.forLoop ref
        (fun item => do
          Run.define scopes target.name item
          bodyRun)
        (Run.warnLimit stage span) rounds place) := by
  have hDefine (item : Value) :
      Follows stage depth
        (ofRun (Run.define scopes target.name item))
        (Run.define scopes target.name item) :=
    .ofRun ((atDepth_invariant depth).define _ _ _
      item.holds_true)
  induction rounds with
  | zero =>
      intro place hPlace
      rw [Run.forLoop]
      refine .forFrom (.bind (itemAt?_follows ref place)
        fun found => ?_)
      cases found with
      | none => exact .pure _
      | some item =>
          simp only [Option.isSome_some, if_true]
          rw [if_pos (by omega)]
          exact .bind (warnLimit_follows stage span)
            fun _ => .pure _
  | succ rounds ih =>
      intro place hPlace
      rw [Run.forLoop]
      refine .forFrom (.bind (itemAt?_follows ref place)
        fun found => ?_)
      cases found with
      | none => exact .pure _
      | some item =>
          simp only [bind_assoc]
          rw [if_neg (by omega)]
          refine .bind (hDefine item) fun _ => ?_
          refine .bind hBody fun flow => ?_
          cases flow with
          | breakLoop => exact .pure _
          | returned value => exact .pure _
          | normal => exact ih (place + 1) (by omega)
          | continueLoop => exact ih (place + 1) (by omega)

end Attempt

end Gantry

------------------------------------------------------------
-- Statements
------------------------------------------------------------

namespace Gantry

namespace Attempt

variable {stage : Stage}
variable {depth : Nat}
variable {enter : Run.Enter}

theorem begin_follows
    (span : Span) :
    Follows stage depth (ofRun (Run.begin span))
      (Run.begin span) :=
  .ofRun ((atDepth_invariant depth).begin span)

theorem defineFunction_follows
    (scopes : Scopes)
    (name : Ident)
    (params : List Ident)
    (body : Block) :
    Follows stage depth
      (ofRun (Run.defineFunction scopes name params body))
      (Run.defineFunction scopes name params body) :=
  .ofRun ((atDepth_invariant depth).defineFunction scopes
    name params body fun _ => trivial)

mutual

/- Statements follow along their tree. -/
theorem stmt_follows
    (hEnter : EnterFollows depth stage enter)
    (scopes : Scopes) :
    (tree : Stmt) →
    Follows stage depth (stmt scopes tree)
      (Run.stmt stage enter scopes tree)
| .assign target value span => by
    rw [Run.stmt]
    refine .stmt (.bind (begin_follows span) fun _ => ?_)
    refine .bind (expr_follows hEnter scopes value)
      fun result => ?_
    refine .bind
      (.ofRun ((atDepth_invariant depth).define _ _ _ ?_))
      fun _ => .pure _
    exact result.holds_true
| .setIndex object key value span => by
    rw [Run.stmt]
    refine .stmt (.bind (begin_follows span) fun _ => ?_)
    refine .bind (expr_follows hEnter scopes object)
      fun container => ?_
    refine .bind (expr_follows hEnter scopes key)
      fun place => ?_
    refine .bind (expr_follows hEnter scopes value)
      fun item => ?_
    refine .bind
      (.ofRun ((atDepth_invariant depth).setIndex _ _ ?_))
      fun _ => .pure _
    exact item.holds_true
| .branch test body elifs orElse span => by
    rw [Run.stmt]
    refine .stmt (.bind (begin_follows span) fun _ => ?_)
    refine .bind (truth_follows hEnter scopes test)
      fun isTrue => ?_
    refine .ite
      (fun _ => block_follows hEnter scopes body)
      fun _ => ?_
    refine .bind (elifClauses_follows hEnter scopes elifs)
      fun taken => ?_
    cases taken with
    | some flow => exact .pure flow
    | none => exact elseClause_follows hEnter scopes orElse
| .forLoop target iterable body span => by
    rw [Run.stmt]
    refine .stmt (.bind (begin_follows span) fun _ => ?_)
    refine .bind (expr_follows hEnter scopes iterable)
      fun value => ?_
    cases value with
    | list ref =>
        exact forFrom_follows
          (block_follows hEnter scopes body)
          stage.limits.maxIterations 0 (Nat.zero_add _)
    | _ => exact .throw _
| .whileLoop test body span => by
    rw [Run.stmt]
    refine .stmt (.bind (begin_follows span) fun _ => ?_)
    exact whileFrom_follows
      (truth_follows hEnter scopes test)
      (block_follows hEnter scopes body)
      stage.limits.maxIterations 0 (Nat.zero_add _)
| .define name params body span => by
    rw [Run.stmt]
    refine .stmt (.bind (begin_follows span) fun _ => ?_)
    exact .bind
      (defineFunction_follows scopes name params body)
      fun _ => .pure _
| .returnValue none span => by
    rw [Run.stmt]
    exact .stmt (.bind (begin_follows span) fun _ => .pure _)
| .returnValue (some result) span => by
    rw [Run.stmt]
    refine .stmt (.bind (begin_follows span) fun _ => ?_)
    exact .bind (expr_follows hEnter scopes result)
      fun _ => .pure _
| .breakLoop span => by
    rw [Run.stmt]
    exact .stmt (.bind (begin_follows span) fun _ => .pure _)
| .continueLoop span => by
    rw [Run.stmt]
    exact .stmt (.bind (begin_follows span) fun _ => .pure _)
| .pass span => by
    rw [Run.stmt]
    exact .stmt (.bind (begin_follows span) fun _ => .pure _)
| .expr value span => by
    rw [Run.stmt]
    refine .stmt (.bind (begin_follows span) fun _ => ?_)
    exact .bind (expr_follows hEnter scopes value)
      fun _ => .pure _

theorem block_follows
    (hEnter : EnterFollows depth stage enter)
    (scopes : Scopes) :
    (body : Block) →
    Follows stage depth (block scopes body)
      (Run.block stage enter scopes body)
| .mk body _ => by
    rw [block, Run.block]
    exact stmts_follows hEnter scopes body

theorem stmts_follows
    (hEnter : EnterFollows depth stage enter)
    (scopes : Scopes) :
    (trees : List Stmt) →
    Follows stage depth (stmts scopes trees)
      (Run.stmts stage enter scopes trees)
| [] => by
    rw [stmts, Run.stmts]
    exact .pure _
| first :: rest => by
    rw [stmts, Run.stmts]
    refine .bind (stmt_follows hEnter scopes first)
      fun flow => ?_
    cases flow with
    | normal => exact stmts_follows hEnter scopes rest
    | _ => exact .pure _

theorem elifClauses_follows
    (hEnter : EnterFollows depth stage enter)
    (scopes : Scopes) :
    (clauses : List Elif) →
    Follows stage depth (elifClauses scopes clauses)
      (Run.elifClauses stage enter scopes clauses)
| [] => by
    rw [elifClauses, Run.elifClauses]
    exact .pure _
| .mk test body _ :: rest => by
    rw [elifClauses, Run.elifClauses]
    refine .bind (truth_follows hEnter scopes test)
      fun isTrue => .ite (fun _ => ?_) fun _ => ?_
    · exact .bind (block_follows hEnter scopes body)
        fun _ => .pure _
    · exact elifClauses_follows hEnter scopes rest

theorem elseClause_follows
    (hEnter : EnterFollows depth stage enter)
    (scopes : Scopes) :
    (orElse : Option Block) →
    Follows stage depth (elseClause scopes orElse)
      (Run.elseClause stage enter scopes orElse)
| none => by
    rw [elseClause, Run.elseClause]
    exact .pure _
| some body => by
    rw [elseClause, Run.elseClause]
    exact block_follows hEnter scopes body

end

end Attempt

end Gantry

------------------------------------------------------------
-- Calls
------------------------------------------------------------

namespace Gantry

namespace Attempt

variable {α β : Type}
variable {stage : Stage}
variable {depth : Nat}

theorem openScope_follows
    (scopes : Scopes)
    (bindings : Bindings) :
    Follows stage depth (ofRun (Run.openScope scopes bindings))
      (Run.openScope scopes bindings) := by
  have hKeeps :
      Run.Keeps (AtDepth depth) Run.Anything
        (Run.openScope scopes bindings) :=
    fun _ hMachine => ⟨hMachine, fun _ _ => trivial⟩
  exact .ofRun hKeeps

/- Reading the number of calls in progress. -/
theorem Follows.readDepth
    {rest : Nat → Attempt α}
    {run : Run α}
    (hRest : Follows stage depth (rest depth) run) :
    Follows stage depth (Attempt.depth >>= rest) run where
  returns := by
    intro machine hMachine
    subst hMachine
    exact returns_bind (returns_ofRun _ machine)
      (hRest.returns machine rfl)
  keeps := hRest.keeps

/-
  One more call is in progress while a function's body is
  run, and no longer when the body has failed.
-/
theorem callBody_follows
    {body : Attempt Run.Flow}
    {run : Run Run.Flow}
    (hBody : Follows stage (depth + 1) body run) :
    Follows stage depth (callBody body)
      (Run.callBody run) where
  returns := by
    intro machine hMachine
    let inside : Machine :=
      { machine with depth := machine.depth + 1 }
    have hReturns :=
      hBody.returns inside (congrArg (· + 1) hMachine)
    rw [callBody, Run.on_callBody]
    refine returns_bind (returns_ofRun _ machine) ?_
    refine returns_bind (returns_ofRun Run.deepen machine) ?_
    rcases hRun : run.on inside with ⟨outcome, after⟩
    rw [hRun] at hReturns
    cases outcome with
    | ok flow =>
        refine returns_bind (returns_tryCatch _ hReturns) ?_
        refine returns_bind (returns_ofRun Run.rise after) ?_
        exact .pure _
    | error fault =>
        -- the call is over before the fault is passed on
        refine returns_bind_error _ ?_
        refine returns_tryCatch_error hReturns ?_
        refine returns_bind (returns_ofRun Run.rise after) ?_
        exact .pure _
  keeps := by
    intro machine hMachine
    let inside : Machine :=
      { machine with depth := machine.depth + 1 }
    have hAfter :=
      (hBody.keeps inside (congrArg (· + 1) hMachine)).1
    rw [Run.on_callBody]
    rcases hRun : run.on inside with ⟨outcome, after⟩
    rw [hRun] at hAfter
    refine ⟨?_, fun _ _ => trivial⟩
    have hRisen : after.depth - 1 = depth := by
      rw [hAfter]
      rfl
    cases outcome with
    | ok flow => exact hRisen
    | error fault => exact hRisen

/-
  Calls follow: those in progress and those that may still
  be made make up the limit. The function that is called can
  be any value of the script, so that the induction is on
  the calls left and not on a tree.
-/
theorem enter_follows
    (stage : Stage)
    (calls : Nat) :
    (depth : Nat) →
    depth + calls = stage.limits.maxCallDepth →
    EnterFollows depth stage (Run.enter stage calls) := by
  induction calls with
  | zero =>
      intro depth hDepth closure args
      rw [Run.enter]
      refine .enter (.bind (.ofRun (.checkArity closure args))
        fun _ => .readDepth ?_)
      rw [if_pos (by omega)]
      exact .throw _
  | succ calls ih =>
      intro depth hDepth closure args
      rw [Run.enter]
      refine .enter (.bind (.ofRun (.checkArity closure args))
        fun _ => .readDepth ?_)
      rw [if_neg (by omega)]
      refine .bind (openScope_follows _ _) fun scopes => ?_
      exact callBody_follows
        (block_follows (ih (depth + 1) (by omega)) scopes
          closure.body)

end Attempt

end Gantry

------------------------------------------------------------
-- Scripts
------------------------------------------------------------

namespace Gantry

namespace Attempt

variable {stage : Stage}
variable {depth : Nat}

theorem topLevel_follows
    (hEnter :
      EnterFollows depth stage (Run.enterFirst stage)) :
    (body : List Stmt) →
    Follows stage depth (topLevel body)
      (Machine.topLevel stage body)
| [] => .pure ()
| first :: rest =>
    .bind (stmt_follows hEnter Machine.globals first)
      fun _ => topLevel_follows hEnter rest

end Attempt

namespace Course

theorem evaluate_returns
    (stage : Stage)
    (program : Program) :
    Returns stage (evaluate program)
      (program.evaluate stage) := by
  have hEnter :
      Attempt.EnterFollows 0 stage (Run.enterFirst stage) :=
    Attempt.enter_follows stage stage.limits.maxCallDepth 0
      (Nat.zero_add _)
  have hReturns :=
    (Attempt.topLevel_follows hEnter program.body).returns
      {} rfl
  refine .bind hReturns ?_
  simp only [Program.evaluate, Machine.run]
  rcases hRun :
    (Machine.topLevel stage program.body).run.run {} with
    ⟨outcome, after⟩
  rw [Run.on, hRun]
  cases outcome with
  | ok _ => exact .pure _
  | error fault => exact .pure _

/-
  Every script comes to an end, whatever the site and the
  limits. Its evaluation is bounded by nothing but the two
  limits of the language, yet it takes so many steps and no
  others, and gives the result that evaluation gives and no
  other.
-/
theorem evaluation_ends
    (stage : Stage)
    (program : Program) :
    ∃ steps,
      ∀ count result,
        (evaluate program).Ends stage count result ↔
          count = steps ∧
            result = program.evaluate stage := by
  rcases evaluate_returns stage program with ⟨steps, hEnds⟩
  refine ⟨steps, fun count result => ⟨hEnds.unique, ?_⟩⟩
  rintro ⟨rfl, rfl⟩
  exact hEnds

end Course

end Gantry
