import Gantry.Proofs.Machine.Invariant

/-
  This file shows that a script writes only to the scope in
  which it runs. A statement gives values to variables of its
  own scope. An expression gives none at all: the functions
  that it calls write to scopes that are opened for them, so
  that no scope that was there before notices the call.

  Key definitions include:
    * `Gantry.Machine.Spares`
    * `Gantry.Run.Sparing`

  Main statements:
    * `Gantry.Run.sparing_evaluating`
    * `Gantry.Run.sparing_executing`
    * `Gantry.Run.sparing_enter`
    * `Gantry.Machine.only_own_scope_changes`
-/

------------------------------------------------------------
-- Spared Scopes
------------------------------------------------------------

namespace Gantry

namespace Machine

/-
  No scope is lost, and those that were there have the same
  variables as before, apart from some.
-/
structure Spares
    (touched : Nat → Prop)
    (before after : Machine) : Prop where
  size : before.scopes.size ≤ after.scopes.size
  same :
    ∀ scope < before.scopes.size, ¬ touched scope →
      after.bindings scope = before.bindings scope

namespace Spares

variable {touched : Nat → Prop}
variable {before middle after : Machine}

theorem of_scopes_eq
    (hScopes : after.scopes = before.scopes) :
    Spares touched before after where
  size := Nat.le_of_eq (congrArg Array.size hScopes.symm)
  same := by
    intro scope _ _
    unfold bindings
    rw [hScopes]

theorem trans
    (hFirst : Spares touched before middle)
    (hSecond : Spares touched middle after) :
    Spares touched before after where
  size := Nat.le_trans hFirst.size hSecond.size
  same := by
    intro scope hScope hSpared
    have hMiddle : scope < middle.scopes.size :=
      Nat.lt_of_lt_of_le hScope hFirst.size
    rw [hSecond.same scope hMiddle hSpared]
    exact hFirst.same scope hScope hSpared

/- A change elsewhere in the machine. -/
theorem elsewhere
    (hSpares : Spares touched before middle)
    (hScopes : after.scopes = middle.scopes) :
    Spares touched before after :=
  hSpares.trans (of_scopes_eq hScopes)

/- Only what was there counts. -/
theorem weaken
    (hSpares : Spares touched before after)
    {others : Nat → Prop}
    (hOthers :
      ∀ scope < before.scopes.size, touched scope →
        others scope) :
    Spares others before after where
  size := hSpares.size
  same := fun scope hScope hSpared =>
    hSpares.same scope hScope fun hTouched =>
      hSpared (hOthers scope hScope hTouched)

end Spares

/- Giving a variable a value touches its scope. -/
theorem spares_define
    (machine : Machine)
    (scope : Nat)
    (change : Bindings → Bindings) :
    Spares (· = scope) machine
      { machine with
        scopes := machine.scopes.modify scope change } where
  size := by simp
  same := by
    intro other _ hOther
    simp only [bindings, Array.getD_eq_getD_getElem?,
      Array.getElem?_modify]
    rw [if_neg (Ne.symm hOther)]

/- Opening a scope touches none of the others. -/
theorem spares_openScope
    (machine : Machine)
    (opened : Bindings) :
    Spares (fun _ => False) machine
      { machine with
        scopes := machine.scopes.push opened } where
  size := by simp
  same := by
    intro scope hScope _
    simp only [bindings, Array.getD_eq_getD_getElem?,
      Array.getElem?_push]
    rw [if_neg (Nat.ne_of_lt hScope)]

end Machine

end Gantry

------------------------------------------------------------
-- Runs That Spare Scopes
------------------------------------------------------------

namespace Gantry

namespace Run

variable {touched : Nat → Prop}

/-
  A run touches only some of the scopes that were there at
  any earlier time.
-/
def Sparing
    (touched : Nat → Prop) : Comparison :=
  fun _ Q run _ =>
    ∀ start : Machine, Keeps (start.Spares touched) Q run

/- A step that has nothing to do with scopes. -/
theorem sparing_update
    {change : Machine → Machine}
    (hChange :
      ∀ machine, (change machine).scopes = machine.scopes) :
    Sparing touched Unit (fun _ => True) (modify change)
      (modify change) :=
  fun _ => .update fun machine hMachine =>
    hMachine.elsewhere (hChange machine)

theorem sparing_sequential :
    Comparison.Sequential (Sparing touched) where
  pure := fun hValue _ => .pure hValue
  throw := fun fault _ => .throw fault
  bind := fun hFirst hRest start =>
    .bind (hFirst start) fun value hValue =>
      hRest value hValue start

/- No step of an expression has to do with scopes. -/
theorem sparing_evaluating
    (stage : Stage)
    {enter : Enter}
    (hEnter :
      ∀ closure args,
        Sparing touched Value (fun _ => True)
          (enter closure args) (enter closure args)) :
    Comparison.Evaluating stage stage enter enter
      (fun _ => True) (fun _ => True) (Sparing touched) where
  toSequential := sparing_sequential
  plain := fun _ _ => trivial
  heap := fun _ _ hMachine =>
    ⟨hMachine, fun _ _ _ _ _ => trivial⟩
  makeList := fun _ _ _ _ hMachine =>
    ⟨hMachine.elsewhere rfl, fun _ _ => trivial⟩
  append := fun _ _ _ => sparing_update fun _ => rfl
  setItem := fun _ _ _ _ => sparing_update fun _ => rfl
  nextSerial := fun _ _ hMachine =>
    ⟨hMachine.elsewhere rfl, fun _ _ => trivial⟩
  printLine := fun _ => sparing_update fun _ => rfl
  record := fun _ => sparing_update fun _ => rfl
  look := fun _ _ => .bind .get fun _ _ => .pure trivial
  lookup := by
    intro scopes word _ start
    refine .bind .get fun machine _ => ?_
    split
    · exact .pure trivial
    · exact .throw _
  enter := fun closure args _ _ => hEnter closure args

/-
  A statement touches the innermost of its scopes, if its
  expressions touch none.
-/
theorem sparing_executing
    (stage : Stage)
    {enter : Enter}
    (hEnter :
      ∀ closure args,
        Sparing (fun _ => False) Value (fun _ => True)
          (enter closure args) (enter closure args))
    (scopes : Scopes) :
    Comparison.Executing stage stage enter enter
      (fun _ => True) (fun _ => True)
      (Sparing fun _ => False) scopes
      (Sparing (· = scopes.headD 0)) where
  toSequential := sparing_sequential
  expressions := sparing_evaluating stage hEnter
  limits := rfl
  lift := by
    intro α Q left right hLeft start machine hMachine
    have hKept := hLeft machine machine (.of_scopes_eq rfl)
    exact ⟨hMachine.trans (hKept.1.weaken fun _ _ => nofun),
      hKept.2⟩
  begin := fun _ => sparing_update fun _ => rfl
  warn := fun _ => sparing_update fun _ => rfl
  define := fun name value _ _ =>
    .update fun machine hMachine =>
      hMachine.trans (machine.spares_define _ _)
  function := fun _ _ => trivial

end Run

end Gantry

------------------------------------------------------------
-- Calls
------------------------------------------------------------

namespace Gantry

namespace Run

/- A call touches what its body touches. -/
theorem sparing_callBody
    {touched : Nat → Prop}
    {body : Run Flow}
    (hBody :
      Sparing touched Flow (Flow.All fun _ => True) body
        body) :
    Sparing touched Value (fun _ => True) (callBody body)
      (callBody body) :=
  fun start => .callBody trivial
    (fun _ hMachine => hMachine.elsewhere rfl) (hBody start)
    fun _ _ hMachine => hMachine.elsewhere rfl

/-
  A call touches no scope that was there. The function may
  be any value of the script, so that the induction is on
  the calls left; its body touches the scope opened for it,
  which is none of those that were there.
-/
theorem sparing_enter
    (stage : Stage)
    (calls : Nat) :
    ∀ closure args,
      Sparing (fun _ => False) Value (fun _ => True)
        (enter stage calls closure args)
        (enter stage calls closure args) := by
  induction calls with
  | zero =>
      intro closure args
      exact sparing_sequential.bind
        (sparing_sequential.checkArity closure args)
        fun _ _ => sparing_sequential.throw _
  | succ calls ih =>
      intro closure args
      refine sparing_sequential.bind
        (sparing_sequential.checkArity closure args)
        fun _ _ start machine hMachine => ?_
      let bindings := arguments closure.params args []
      let scopes := machine.scopes.size :: closure.scopes
      let opened : Machine :=
        { machine with
          scopes := machine.scopes.push bindings }
      have hOpened := machine.spares_openScope bindings
      have hBody :=
        sparing_callBody
          ((sparing_executing stage ih scopes).block
            closure.body (Expr.allAsk_any _))
      have hCall :=
        (hBody opened opened (.of_scopes_eq rfl)).1
      have hBoth :=
        (hOpened.weaken fun _ _ => nofun).trans hCall
      -- the body's scope is numbered behind those that exist
      refine ⟨hMachine.trans (hBoth.weaken ?_),
        fun _ _ => trivial⟩
      intro scope hScope hTouched
      exact absurd hTouched (Nat.ne_of_lt hScope)

end Run

end Gantry

------------------------------------------------------------
-- Variables
------------------------------------------------------------

namespace Gantry

namespace Machine

/-
  Neither expressions nor calls give values to variables of
  scopes that are there, and statements only to variables of
  their own scope, whether or not they fail, and with any
  number of calls that may still be made inside of them.
-/
theorem only_own_scope_changes
    (stage : Stage)
    (calls : Nat)
    (machine : Machine)
    (scope : Nat)
    (hScope : scope < machine.scopes.size) :
    (∀ scopes tree,
      ((Run.expr stage (Run.enter stage calls) scopes tree).on
        machine).2.bindings scope =
          machine.bindings scope) ∧
    (∀ callee args,
      ((Run.call stage (Run.enter stage calls) callee args).on
        machine).2.bindings scope =
          machine.bindings scope) ∧
    ∀ own outer tree, scope ≠ own →
      ((Run.stmt stage (Run.enter stage calls) (own :: outer)
        tree).on machine).2.bindings scope =
          machine.bindings scope := by
  have hEnter := Run.sparing_enter stage calls
  have hExpressions := Run.sparing_evaluating stage hEnter
  have hStart (touched : Nat → Prop) :
      machine.Spares touched machine := .of_scopes_eq rfl
  refine ⟨fun scopes tree => ?_, fun callee args => ?_,
    fun own outer tree hOther => ?_⟩
  · have hTree :=
      hExpressions.expr scopes tree tree.asks_any machine
        machine (hStart _)
    exact hTree.1.same scope hScope nofun
  · let run :=
      Run.call stage (Run.enter stage calls) callee args
    have hCall :
        Run.Sparing (fun _ => False) Value (fun _ => True)
          run run :=
      hExpressions.call trivial fun _ _ => trivial
    exact (hCall machine machine (hStart _)).1.same scope
      hScope nofun
  · have hTree :=
      (Run.sparing_executing stage hEnter (own :: outer)).stmt
        tree (Expr.allAsk_any _) machine machine (hStart _)
    exact hTree.1.same scope hScope hOther

/-
  A function that gives a value to a variable of its own, and
  then fails, leaves the global variable of the same name
  alone.
-/
theorem only_own_scope_changes_shadowed :
    let word := fun text => Expr.name text Span.unset
    let body : Block :=
      .mk
        [.assign ⟨"x", Span.unset⟩
            (.literal .none Span.unset) Span.unset,
          .expr (word "y") Span.unset] Span.unset
    let shadow : Closure := ⟨0, "shadow", [], body, [0]⟩
    let machine : Machine :=
      { scopes :=
          #[[("x", .bool true), ("f", .function shadow)]] }
    let call := Expr.call (word "f") [] Span.unset
    let stage : Stage := { world := World.empty 1 1 }
    let ended :=
      (Run.expr stage (Run.enter stage 1) [0] call).on
        machine
    0 < machine.scopes.size ∧
      ended.2.scopes.size = 2 ∧
      ended.2.bindings 0 = machine.bindings 0 := by
  intro word body shadow machine call stage ended
  have hScope : 0 < machine.scopes.size := by decide
  have hSame :=
    only_own_scope_changes stage 1 machine 0 hScope
  refine ⟨hScope, by decide +kernel, ?_⟩
  exact hSame.1 [0] call

end Machine

end Gantry
