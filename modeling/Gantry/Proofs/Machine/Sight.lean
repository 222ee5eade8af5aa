import Gantry.Proofs.Machine.Agreement

/-
  This file shows that a script sees the world only by
  looking at it. The built-in function that looks is a value
  like others, but it can only be had by its name. A script
  that never asks for that name runs the same in every world
  and from every pose.

  Key definitions include:
    * `Gantry.Value.Unseeing`
    * `Gantry.Machine.Unseeing`

  Main statements:
    * `Gantry.Run.unseeing_evaluating`
    * `Gantry.Run.unseeing_enter`
    * `Gantry.Program.evaluate_without_look`
-/

------------------------------------------------------------
-- Values That Do Not Look
------------------------------------------------------------

namespace Gantry

/- A name that does not stand for looking. -/
def Unseeing
    (word : String) : Prop :=
  word ≠ "look"

/-
  A value that does not look when it is called. A script's
  function does not ask for the name.
-/
def Value.Unseeing :
    Value → Prop
| .function closure =>
    Expr.AllAsk Gantry.Unseeing closure.body.expressions
| .builtin known => known ≠ .look
| _ => True

/- The same of a variable, unless it has that name. -/
def Value.UnseeingAs
    (word : String)
    (value : Value) : Prop :=
  Gantry.Unseeing word → value.Unseeing

namespace Machine

/-
  No value within reach looks, apart from the variables of
  one name.
-/
def Unseeing : Machine → Prop :=
  All Value.Unseeing Value.UnseeingAs

/- Only one built-in function looks, under its own name. -/
theorem unseeing_initial :
    Unseeing {} := by
  apply all_initial
  intro known _ hWord hLook
  subst hLook
  exact hWord rfl

end Machine

end Gantry

------------------------------------------------------------
-- Steps
------------------------------------------------------------

namespace Gantry

namespace Run

variable {first second : Stage}
variable {firstEnter secondEnter : Enter}

/- Two ways to call a script's functions agree. -/
def UnseeingCalls
    (firstEnter secondEnter : Enter) : Prop :=
  ∀ closure args, Value.Unseeing (.function closure) →
    (∀ arg ∈ args, Value.Unseeing arg) →
      Agree Machine.Unseeing Value.Unseeing
        (firstEnter closure args) (secondEnter closure args)

/- No step of an expression brings in what looks. -/
theorem unseeing_evaluating
    (hEnter : UnseeingCalls firstEnter secondEnter) :
    Comparison.Evaluating first second firstEnter secondEnter
      Unseeing Value.Unseeing (Agreeing Machine.Unseeing) where
  toStepwise := by
    refine agreeing_stepwise (Machine.all_stepwise ?_)
    intro value hPlain
    cases value with
    | function closure => exact hPlain.elim
    | builtin function => exact hPlain.elim
    | _ => trivial
  look := fun hLook => absurd rfl hLook
  lookup := fun scopes word hWord =>
    .refl ((Machine.all_lookup scopes word).weaken
      fun _ hValue => hValue hWord)
  enter := hEnter

theorem unseeing_executing
    (hLimits : first.limits = second.limits)
    (hEnter : UnseeingCalls firstEnter secondEnter)
    (scopes : Scopes) :
    Comparison.Executing first second firstEnter secondEnter
      Unseeing Value.Unseeing (Agreeing Machine.Unseeing)
      scopes (Agreeing Machine.Unseeing) where
  toSequential := agreeing_sequential
  expressions := unseeing_evaluating hEnter
  limits := hLimits
  lift := id
  begin := fun span => .refl (Machine.all_begin span)
  warn := fun warning => .refl (Machine.all_warn warning)
  define := fun _ _ hValue =>
    .refl (Machine.all_define scopes fun _ => hValue)
  function := fun _ hBody => hBody

/-
  Calls agree, by the calls that may still be made: the body
  of a function within reach does not look.
-/
theorem unseeing_enter
    (hLimits : first.limits = second.limits)
    (calls : Nat) :
    UnseeingCalls (enter first calls)
      (enter second calls) := by
  induction calls with
  | zero =>
      intro closure args _ _
      rw [enter, enter, hLimits]
      exact .bind (.refl (.checkArity closure args))
        fun _ _ => .throw _
  | succ calls ih =>
      intro closure args hClosure hArgs
      have hBindings :
          Bindings.All Value.UnseeingAs
            (arguments closure.params args []) := by
        apply Bindings.All.arguments
        · exact fun _ _ => trivial
        · exact fun arg hArg _ _ => hArgs arg hArg
        · exact fun _ hNone => absurd hNone List.not_mem_nil
      refine .bind (.refl (.checkArity closure args))
        fun _ _ => ?_
      refine .bind
        (.refl (Machine.all_openScope _ hBindings))
        fun scopes _ => ?_
      have hBody :=
        (unseeing_executing hLimits ih scopes).block
          closure.body hClosure
      exact .callBody trivial
        (fun _ hMachine => ⟨hMachine.heap, hMachine.scopes⟩)
        hBody
        fun _ _ hMachine => ⟨hMachine.heap, hMachine.scopes⟩

end Run

end Gantry

------------------------------------------------------------
-- Scripts
------------------------------------------------------------

namespace Gantry

namespace Program

/-
  A script that never asks for the name of the function that
  looks leaves the same behind in every world and from every
  pose: it prints the same lines, records the same commands
  and warnings, and ends with the same fault or none.
-/
theorem evaluate_without_look
    (program : Program)
    (hNames :
      ∀ expr ∈ program.expressions, "look" ∉ expr.names)
    (limits : Limits)
    (first second : World)
    (firstPose secondPose : Pose) :
    program.evaluate ⟨first, firstPose, limits⟩ =
      program.evaluate ⟨second, secondPose, limits⟩ := by
  have hAsk :
      Expr.AllAsk Unseeing
        (Stmt.listExpressions program.body) := by
    intro expr hExpr word hWord hLook
    rw [hLook] at hWord
    exact hNames expr hExpr hWord
  let here : Stage := ⟨first, firstPose, limits⟩
  let there : Stage := ⟨second, secondPose, limits⟩
  have hLimits : here.limits = there.limits := rfl
  have hEnter :=
    Run.unseeing_enter hLimits limits.maxCallDepth
  have hAgree :=
    (Run.unseeing_executing hLimits hEnter
      Machine.globals).script program.body hAsk
  have hSame :
      (Machine.topLevel here program.body).on {} =
        (Machine.topLevel there program.body).on {} := by
    rw [← Run.script_enterFirst, ← Run.script_enterFirst]
    exact hAgree.same {} Machine.unseeing_initial
  unfold evaluate Machine.run
  rw [← Run.on, ← Run.on, hSame]

/-
  A script that gives the name to another function, prints
  and fails, in two worlds that look different.
-/
theorem evaluate_without_look_shadowed :
    let word := fun text => Expr.name text Span.unset
    let call := fun text args =>
      Stmt.expr (.call (word text) args Span.unset) Span.unset
    let program : Program :=
      ⟨[.assign ⟨"look", Span.unset⟩ (word "print")
          Span.unset,
        .assign ⟨"tell", Span.unset⟩ (word "print")
          Span.unset,
        call "tell" [.literal (.string "up") Span.unset],
        call "lift" [],
        call "gone" []], Span.unset⟩
    let field := World.empty 2 2
    let built := field.put ⟨1, 0, 0⟩ "stone"
    let turned : Pose := ⟨0, 0, .east⟩
    field.lookFrom Pose.initial ≠ built.lookFrom turned ∧
      (∀ expr ∈ program.expressions, "look" ∉ expr.names) ∧
      (program.evaluate { world := field }).transcript.stdout =
        "up\n" ∧
      program.evaluate { world := field } =
        program.evaluate { world := built, pose := turned } := by
  intro word call program field built turned
  have hNames :
      ∀ expr ∈ program.expressions, "look" ∉ expr.names := by
    decide
  refine ⟨by decide, hNames, by decide +kernel, ?_⟩
  exact evaluate_without_look program hNames {} field built
    Pose.initial turned

end Program

end Gantry
