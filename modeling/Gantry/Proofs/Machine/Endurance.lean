import Gantry.Proofs.Machine.Agreement

/-
  This file shows that a machine survives faults. Whatever it
  is asked to do, and however that ends, as many calls are in
  progress afterwards as before, namely none, and what it has
  printed and recorded is only added to. In between there are
  never more calls in progress than allowed, and a call is
  refused only when there are that many.

  The last is stated by auditing calls: where the count of
  calls were not as it should be, an alarm would be raised.
  Evaluation does the same whatever the alarm does.

  Key definitions include:
    * `Gantry.Transcript.Extends`
    * `Gantry.Machine.Endures`
    * `Gantry.Run.enterAudited`
    * `Gantry.Request`
    * `Gantry.Machine.Reachable`

  Main statements:
    * `Gantry.Run.enterAudited_agrees`
    * `Gantry.Request.steps_agree`
    * `Gantry.Machine.Reachable.depth`
    * `Gantry.Machine.survives_requests`
-/

------------------------------------------------------------
-- Growing Transcripts
------------------------------------------------------------

namespace Gantry

namespace Transcript

/- Something may have been added, and nothing was altered. -/
structure Extends
    (before after : Transcript) : Prop where
  stdout : ∃ more, after.stdout = before.stdout ++ more
  commands : ∃ more, after.commands = before.commands ++ more
  warnings : ∃ more, after.warnings = before.warnings ++ more

namespace Extends

variable {before after : Transcript}

theorem refl
    (transcript : Transcript) :
    transcript.Extends transcript where
  stdout := ⟨"", String.append_empty.symm⟩
  commands := ⟨#[], Array.append_empty.symm⟩
  warnings := ⟨#[], Array.append_empty.symm⟩

theorem printed
    (hExtends : before.Extends after)
    (line : String) :
    before.Extends
      { after with
        stdout := after.stdout ++ line ++ "\n" } := by
  rcases hExtends.stdout with ⟨more, hMore⟩
  refine ⟨⟨more ++ line ++ "\n", ?_⟩, hExtends.commands,
    hExtends.warnings⟩
  simp only [hMore, String.append_assoc]

theorem recorded
    (hExtends : before.Extends after)
    (command : Command) :
    before.Extends
      { after with
        commands := after.commands.push command } := by
  rcases hExtends.commands with ⟨more, hMore⟩
  refine ⟨hExtends.stdout, ⟨more.push command, ?_⟩,
    hExtends.warnings⟩
  simp only [hMore, Array.append_push]

theorem warned
    (hExtends : before.Extends after)
    (warning : String) :
    before.Extends
      { after with
        warnings := after.warnings.push warning } := by
  rcases hExtends.warnings with ⟨more, hMore⟩
  refine ⟨hExtends.stdout, hExtends.commands,
    ⟨more.push warning, ?_⟩⟩
  simp only [hMore, Array.append_push]

end Extends

end Transcript

namespace Machine

/-
  So many calls are in progress, and a transcript has only
  been added to.
-/
structure Endures
    (start : Transcript)
    (depth : Nat)
    (machine : Machine) : Prop where
  depth : machine.depth = depth
  transcript : start.Extends machine.transcript

theorem endures_start
    {machine : Machine}
    (hDepth : machine.depth = 0) :
    Endures machine.transcript 0 machine :=
  ⟨hDepth, .refl machine.transcript⟩

theorem endures_invariant
    (start : Transcript)
    (depth : Nat) :
    Run.Invariant (Endures start depth) fun _ => True :=
  .indifferent
    (fun _ _ _ _ _ hMachine =>
      ⟨hMachine.depth, hMachine.transcript⟩)
    (fun line => .update fun _ hMachine =>
      ⟨hMachine.depth, hMachine.transcript.printed line⟩)
    (fun command => .update fun _ hMachine =>
      ⟨hMachine.depth, hMachine.transcript.recorded command⟩)
    fun warning => .update fun _ hMachine =>
      ⟨hMachine.depth, hMachine.transcript.warned warning⟩

end Machine

end Gantry

------------------------------------------------------------
-- Audited Calls
------------------------------------------------------------

namespace Gantry

namespace Run

/- Raise an alarm unless the count of calls is fine. -/
def audit
    (alarm : Run Unit)
    (isFine : Nat → Bool) : Run Unit := do
  if isFine (← get).depth then
    return ()
  else
    alarm

/-
  Call a script's function, with an alarm if it is refused
  while fewer calls are in progress than allowed, if it is
  accepted while there are as many, or if there are more once
  it is counted.
-/
def enterAudited
    (alarm : Run Unit)
    (stage : Stage) :
    Nat → Enter
| 0, closure, args => do
    checkArity closure args
    audit alarm fun depth =>
      stage.limits.maxCallDepth ≤ depth
    throw (.recursionLimit stage.limits.maxCallDepth)
| calls + 1, closure, args => do
    checkArity closure args
    audit alarm fun depth =>
      depth < stage.limits.maxCallDepth
    let scopes ←
      openScope closure.scopes
        (arguments closure.params args [])
    callBody do
      audit alarm fun depth =>
        depth ≤ stage.limits.maxCallDepth
      block stage (enterAudited alarm stage calls) scopes
        closure.body

variable {α : Type}

/- An audit without an alarm does nothing. -/
theorem Agree.audit
    {P : Machine → Prop}
    {Q : α → Prop}
    {alarm : Run Unit}
    {isFine : Nat → Bool}
    {first second : Run α}
    (hFine : ∀ machine, P machine → isFine machine.depth)
    (hRest : Agree P Q first second) :
    Agree P Q (Run.audit alarm isFine >>= fun _ => first)
      second := by
  have hAudit :
      ∀ machine, P machine →
        on (Run.audit alarm isFine) machine =
          (.ok (), machine) := by
    intro machine hMachine
    unfold Run.audit
    rw [on_bind, on_get]
    dsimp only
    rw [if_pos (hFine machine hMachine)]
    rfl
  refine ⟨fun machine hMachine => ?_,
    fun machine hMachine => ?_⟩
  · rw [on_bind, hAudit machine hMachine]
    exact hRest.same machine hMachine
  · rw [on_bind, hAudit machine hMachine]
    exact hRest.keeps machine hMachine

/-
  The alarm is never raised. The calls in progress and those
  that may still be made add up to the limit; the induction
  is on the latter, as a body runs with one call more and one
  less left.
-/
theorem enterAudited_agrees
    (alarm : Run Unit)
    (stage : Stage)
    (start : Transcript)
    (calls depth : Nat)
    (hCalls : depth + calls = stage.limits.maxCallDepth)
    (closure : Closure)
    (args : List Value) :
    Agree (Machine.Endures start depth)
      (Value.Holds fun _ => True)
      (enterAudited alarm stage calls closure args)
      (enter stage calls closure args) := by
  induction calls generalizing depth closure args with
  | zero =>
      refine .bind (.refl (.checkArity closure args))
        fun _ _ => ?_
      refine .audit (fun machine hMachine => ?_) (.throw _)
      rw [hMachine.depth, ← hCalls]
      exact decide_eq_true (Nat.le_refl depth)
  | succ calls ih =>
      refine .bind (.refl (.checkArity closure args))
        fun _ _ => ?_
      refine .audit (fun machine hMachine => ?_) ?_
      · rw [hMachine.depth]
        exact decide_eq_true (by omega)
      refine .bind (.refl fun machine hMachine =>
        ⟨⟨hMachine.depth, hMachine.transcript⟩,
          fun _ _ => trivial⟩) fun scopes (_ : True) => ?_
      -- the sum stays the same as a call is moved across
      have hInside :
          depth + 1 + calls = stage.limits.maxCallDepth := by
        omega
      have hBody :=
        ((Machine.endures_invariant start
          (depth + 1)).executing (fun _ => trivial) stage
            (fun closure args _ _ =>
              ih (depth + 1) hInside closure args)
            scopes).block closure.body (Expr.allAsk_any _)
      refine .callBody trivial (fun machine hMachine => ?_)
        (.audit (fun machine hMachine => ?_) hBody)
        fun machine span hMachine => ?_
      · exact ⟨congrArg (· + 1) hMachine.depth,
          hMachine.transcript⟩
      · rw [hMachine.depth]
        exact decide_eq_true (by omega)
      · exact ⟨congrArg (· - 1) hMachine.depth,
          hMachine.transcript⟩

end Run

end Gantry

------------------------------------------------------------
-- Requests
------------------------------------------------------------

namespace Gantry

/- What a machine can be asked to do. -/
inductive Request where
  | run (program : Program)
  | eval (scopes : Scopes) (tree : Expr)
  | call (callee : Value) (args : List Value)

namespace Request

/- The steps of a request, with a way to call functions. -/
def steps
    (stage : Stage)
    (enter : Run.Enter) :
    Request → Run Value
| run program => do
    Run.script stage enter program.body
    return .none
| eval scopes tree => Run.expr stage enter scopes tree
| call callee args => Run.call stage enter callee args

/- The steps of a request are the same when audited. -/
theorem steps_agree
    (alarm : Run Unit)
    (stage : Stage)
    (start : Transcript)
    (request : Request) :
    Run.Agree (Machine.Endures start 0)
      (Value.Holds fun _ => True)
      (request.steps stage
        (Run.enterAudited alarm stage
          stage.limits.maxCallDepth))
      (request.steps stage (Run.enterFirst stage)) := by
  have hInv := Machine.endures_invariant start 0
  have hEnter (closure : Closure) (args : List Value) :=
    Run.enterAudited_agrees alarm stage start
      stage.limits.maxCallDepth 0 (Nat.zero_add _) closure
      args
  cases request with
  | run program =>
      have hScript :=
        (hInv.executing (fun _ => trivial) stage
          (fun closure args _ _ => hEnter closure args)
          Machine.globals).script program.body
            (Expr.allAsk_any _)
      exact .bind hScript fun _ _ => .pure trivial
  | eval scopes tree =>
      exact (hInv.evaluating stage
        fun closure args _ _ => hEnter closure args).expr
          scopes tree tree.asks_any
  | call callee args =>
      exact (hInv.evaluating stage
        fun closure args _ _ => hEnter closure args).call
          callee.holds_true fun arg _ => arg.holds_true

end Request

namespace Machine

/- The machine that a request leaves. -/
def answer
    (machine : Machine)
    (stage : Stage) :
    Request → Machine
| .run program => (machine.run stage program).2
| .eval scopes tree =>
    ((Run.expr stage (Run.enterFirst stage) scopes tree).on
      machine).2
| .call callee args => (machine.call stage callee args).2

theorem answer_eq
    (machine : Machine)
    (stage : Stage)
    (request : Request) :
    machine.answer stage request =
      ((request.steps stage (Run.enterFirst stage)).on
        machine).2 := by
  cases request with
  | run program =>
      rw [answer, run, Request.steps, Run.script_enterFirst,
        Run.on_bind, Run.on]
      rcases (topLevel stage program.body).run.run machine
        with ⟨outcome, after⟩
      cases outcome with
      | ok _ => rfl
      | error fault => rfl
  | eval scopes tree => rfl
  | call callee args => rfl

/-
  The machines that a fresh one can become. Between requests,
  lists and variables may be given any contents.
-/
inductive Reachable
    (stage : Stage) :
    Machine → Prop where
  | fresh : Reachable stage {}
  | answered
      {machine : Machine}
      (request : Request)
      (hMachine : Reachable stage machine) :
      Reachable stage (machine.answer stage request)
  | prepared
      {machine : Machine}
      (heap : Heap)
      (scopes : Array Bindings)
      (serial : Nat)
      (hMachine : Reachable stage machine) :
      Reachable stage
        { machine with
          heap := heap
          scopes := scopes
          serial := serial }

/- A request ends with as many calls as it began with. -/
theorem endures_answer
    {machine : Machine}
    (hDepth : machine.depth = 0)
    (stage : Stage)
    (request : Request) :
    Endures machine.transcript 0
      (machine.answer stage request) := by
  have hStart := endures_start hDepth
  have hAgree :=
    request.steps_agree (pure ()) stage machine.transcript
  have hKept := hAgree.keeps machine hStart
  rw [answer_eq, ← hAgree.same machine hStart]
  exact hKept.1

/- No call is in progress between requests. -/
theorem Reachable.depth
    {stage : Stage}
    {machine : Machine}
    (hMachine : Reachable stage machine) :
    machine.depth = 0 := by
  induction hMachine with
  | fresh => rfl
  | answered request _ ih =>
      exact (endures_answer ih stage request).depth
  | prepared _ _ _ _ ih => exact ih

/-
  Whatever a machine was asked before, and however that
  ended, no call is in progress. Whatever it is asked next,
  none is afterwards, its transcript has only been added to,
  and the count of calls raises no alarm on the way: it stays
  within the limit, and only a call beyond it is refused.
-/
theorem survives_requests
    (stage : Stage)
    (machine : Machine)
    (hMachine : Reachable stage machine)
    (request : Request) :
    machine.depth = 0 ∧
      (machine.answer stage request).depth =
        machine.depth ∧
      machine.transcript.Extends
        (machine.answer stage request).transcript ∧
      ∀ alarm,
        (request.steps stage
          (Run.enterAudited alarm stage
            stage.limits.maxCallDepth)).on machine =
          (request.steps stage
            (Run.enterFirst stage)).on machine := by
  have hDepth := hMachine.depth
  have hAfter := endures_answer hDepth stage request
  refine ⟨hDepth, hAfter.depth.trans hDepth.symm,
    hAfter.transcript, fun alarm => ?_⟩
  have hAgree :=
    request.steps_agree alarm stage machine.transcript
  exact hAgree.same machine (endures_start hDepth)

/-
  A script that calls itself too often fails twice on the
  same machine, and gets as far the second time.
-/
theorem survives_requests_twice :
    let word := fun text => Expr.name text Span.unset
    let call := fun text args =>
      Stmt.expr (.call (word text) args Span.unset) Span.unset
    let program : Program :=
      ⟨[.define ⟨"dive", Span.unset⟩ []
          (.mk
            [call "print"
              [.literal (.string "down") Span.unset],
            call "dive" []] Span.unset) Span.unset,
        call "dive" []], Span.unset⟩
    let stage : Stage :=
      { world := World.empty 1 1
        limits := { maxCallDepth := 2 } }
    let failed := ({} : Machine).answer stage (.run program)
    let again := failed.answer stage (.run program)
    (failed.run stage program).1 =
        some ⟨.recursionLimit 2, Span.unset⟩ ∧
      failed.transcript.stdout = "down\ndown\n" ∧
      again.transcript.stdout =
        "down\ndown\n" ++ "down\ndown\n" ∧
      failed.depth = 0 ∧ again.depth = failed.depth ∧
      failed.transcript.Extends again.transcript := by
  intro word call program stage failed again
  have hFailed : Reachable stage failed :=
    .answered (.run program) .fresh
  have hKept :=
    survives_requests stage failed hFailed (.run program)
  refine ⟨by decide +kernel, by decide +kernel,
    by decide +kernel, hKept.1, hKept.2.1, hKept.2.2.1⟩

end Machine

end Gantry
