import Gantry.Proofs.Machine.Invariant

/-
  This file compares two runs that do the same wherever an
  invariant holds, and gives the invariant that all values,
  or all functions, which a script can reach have a property.

  Key definitions include:
    * `Gantry.Run.Agree`
    * `Gantry.Run.Agreeing`
    * `Gantry.Machine.Holds`

  Main statements:
    * `Gantry.Run.Agree.bind`
    * `Gantry.Machine.all_stepwise`
    * `Gantry.Machine.holds_invariant`
    * `Gantry.Machine.holds_initial`
-/

------------------------------------------------------------
-- Runs That Agree
------------------------------------------------------------

namespace Gantry

namespace Run

variable {α β : Type}
variable {P : Machine → Prop}

/-
  From every machine with a property, two runs end the same
  way, keep the property, and give results of a certain kind.
-/
structure Agree
    (P : Machine → Prop)
    (Q : α → Prop)
    (first second : Run α) : Prop where
  same :
    ∀ machine, P machine →
      on first machine = on second machine
  keeps : Keeps P Q first

namespace Agree

theorem refl
    {Q : α → Prop}
    {run : Run α}
    (hRun : Keeps P Q run) :
    Agree P Q run run where
  same := fun _ _ => rfl
  keeps := hRun

theorem pure
    {Q : α → Prop}
    {value : α}
    (hValue : Q value) :
    Agree P Q (Pure.pure value) (Pure.pure value) :=
  refl (.pure hValue)

theorem throw
    {Q : α → Prop}
    (fault : RuntimeFault) :
    Agree P Q (MonadExcept.throw fault)
      (MonadExcept.throw fault) :=
  refl (.throw fault)

theorem bind
    {R : α → Prop}
    {Q : β → Prop}
    {first second : Run α}
    {firstRest secondRest : α → Run β}
    (hFirst : Agree P R first second)
    (hRest :
      ∀ value, R value →
        Agree P Q (firstRest value) (secondRest value)) :
    Agree P Q (first >>= firstRest)
      (second >>= secondRest) where
  same := by
    intro machine hMachine
    have hKept := hFirst.keeps machine hMachine
    rw [on_bind, on_bind, ← hFirst.same machine hMachine]
    rcases hEnd : on first machine with ⟨outcome, after⟩
    rw [hEnd] at hKept
    cases outcome with
    | ok value =>
        exact (hRest value (hKept.2 value rfl)).same after
          hKept.1
    | error fault => rfl
  keeps := .bind hFirst.keeps fun value hValue =>
    (hRest value hValue).keeps

theorem ite
    {Q : α → Prop}
    {condition : Prop}
    [Decidable condition]
    {first second firstElse secondElse : Run α}
    (hThen : Agree P Q first second)
    (hElse : Agree P Q firstElse secondElse) :
    Agree P Q (if condition then first else firstElse)
      (if condition then second else secondElse) := by
  split
  · exact hThen
  · exact hElse

theorem tryCatch
    {Q : α → Prop}
    {first second : Run α}
    {firstHandler secondHandler : RuntimeFault → Run α}
    (hBody : Agree P Q first second)
    (hHandler :
      ∀ fault,
        Agree P Q (firstHandler fault)
          (secondHandler fault)) :
    Agree P Q (MonadExcept.tryCatch first firstHandler)
      (MonadExcept.tryCatch second secondHandler) where
  same := by
    intro machine hMachine
    have hKept := hBody.keeps machine hMachine
    rw [on_tryCatch, on_tryCatch,
      ← hBody.same machine hMachine]
    rcases hEnd : on first machine with ⟨outcome, after⟩
    rw [hEnd] at hKept
    cases outcome with
    | ok value => rfl
    | error fault => exact (hHandler fault).same after hKept.1
  keeps := by
    intro machine hMachine
    have hKept := hBody.keeps machine hMachine
    rw [on_tryCatch]
    rcases hEnd : on first machine with ⟨outcome, after⟩
    rw [hEnd] at hKept
    cases outcome with
    | ok value => exact hKept
    | error fault =>
        exact (hHandler fault).keeps after hKept.1

/- Calls agree if their bodies do. -/
theorem callBody
    {Inside : Machine → Prop}
    {V : Value → Prop}
    {first second : Run Flow}
    (hNone : V .none)
    (hBegin :
      ∀ machine, P machine →
        Inside { machine with depth := machine.depth + 1 })
    (hBody : Agree Inside (Flow.All V) first second)
    (hEnd :
      ∀ machine span, Inside machine →
        P { machine with
            depth := machine.depth - 1
            current := span }) :
    Agree P V (Run.callBody first)
      (Run.callBody second) where
  same := by
    intro machine hMachine
    rw [on_callBody, on_callBody,
      hBody.same _ (hBegin machine hMachine)]
  keeps := .callBody hNone hBegin hBody.keeps hEnd

end Agree

/- Two runs agree, as a comparison. -/
def Agreeing
    (P : Machine → Prop) : Comparison :=
  fun _ Q first second => Agree P Q first second

theorem agreeing_sequential :
    Comparison.Sequential (Agreeing P) where
  pure := .pure
  throw := .throw
  bind := .bind

/- The smallest steps agree with themselves. -/
theorem agreeing_stepwise
    {V : Value → Prop}
    (hKept : Comparison.Stepwise V (Keeping P)) :
    Comparison.Stepwise V (Agreeing P) where
  toSequential := agreeing_sequential
  plain := hKept.plain
  heap := .refl hKept.heap
  makeList := fun items hItems =>
    .refl (hKept.makeList items hItems)
  append := fun ref item hItem =>
    .refl (hKept.append ref item hItem)
  setItem := fun ref slot item hItem =>
    .refl (hKept.setItem ref slot item hItem)
  nextSerial := .refl hKept.nextSerial
  printLine := fun line => .refl (hKept.printLine line)
  record := fun command => .refl (hKept.record command)

variable {W : Closure → Prop}
variable {firstEnter secondEnter : Enter}

/- Expressions agree under an invariant if calls do. -/
theorem Invariant.evaluating
    (hInv : Invariant P W)
    (stage : Stage)
    (hEnter :
      ∀ closure args, W closure →
        (∀ arg ∈ args, arg.Holds W) →
          Agree P (Value.Holds W) (firstEnter closure args)
            (secondEnter closure args)) :
    Comparison.Evaluating stage stage firstEnter secondEnter
      (fun _ => True) (Value.Holds W) (Agreeing P) where
  toStepwise := agreeing_stepwise hInv.stepwise
  look := fun _ => .refl (.bind .get fun _ _ => .pure trivial)
  lookup := fun scopes word _ =>
    .refl (hInv.lookup scopes word)
  enter := hEnter

/- So do statements, if any function may be defined. -/
theorem Invariant.executing
    (hInv : Invariant P W)
    (hAny : ∀ closure, W closure)
    (stage : Stage)
    (hEnter :
      ∀ closure args, W closure →
        (∀ arg ∈ args, arg.Holds W) →
          Agree P (Value.Holds W) (firstEnter closure args)
            (secondEnter closure args))
    (scopes : Scopes) :
    Comparison.Executing stage stage firstEnter secondEnter
      (fun _ => True) (Value.Holds W) (Agreeing P) scopes
      (Agreeing P) where
  toSequential := agreeing_sequential
  expressions := hInv.evaluating stage hEnter
  limits := rfl
  lift := id
  begin := fun span => .refl (hInv.begin span)
  warn := fun warning => .refl (hInv.warn warning)
  define := fun name value hValue =>
    .refl (hInv.define scopes name value hValue)
  function := fun closure _ => hAny closure

end Run

end Gantry

------------------------------------------------------------
-- Values Within Reach
------------------------------------------------------------

namespace Gantry

namespace Machine

open Run (Keeps Keeping Anything)

variable {V : Value → Prop}
variable {B : String → Value → Prop}

/- No step brings in other values than it is given. -/
theorem all_stepwise
    (hPlain : ∀ value : Value, value.IsPlain → V value) :
    Run.Comparison.Stepwise V (Keeping (All V B)) where
  toSequential := Run.keeping_sequential
  plain := hPlain
  heap := fun machine hMachine =>
    ⟨hMachine, by
      rintro _ ⟨⟩
      exact hMachine.heap⟩
  makeList := fun items hItems machine hMachine =>
    ⟨hMachine.withHeap (hMachine.heap.alloc hItems), by
      rintro _ ⟨⟩
      exact hPlain _ trivial⟩
  append := fun ref _ hItem => .update fun _ hMachine =>
    hMachine.withHeap (hMachine.heap.append ref hItem)
  setItem := fun ref slot _ hItem => .update fun _ hMachine =>
    hMachine.withHeap (hMachine.heap.setItem ref slot hItem)
  nextSerial := fun _ hMachine =>
    ⟨⟨hMachine.heap, hMachine.scopes⟩, fun _ _ => trivial⟩
  printLine := fun _ => .update fun _ hMachine =>
    ⟨hMachine.heap, hMachine.scopes⟩
  record := fun _ => .update fun _ hMachine =>
    ⟨hMachine.heap, hMachine.scopes⟩

theorem all_lookup
    (scopes : Scopes)
    (name : String) :
    Keeps (All V B) (B name) (Run.lookup scopes name) := by
  refine .bind .get fun machine hMachine => ?_
  split
  case h_1 value hValue =>
    exact .pure (hMachine.find? hValue)
  case h_2 => exact .throw _

theorem all_define
    (scopes : Scopes)
    {name : String}
    {value : Value}
    (hValue : B name value) :
    Keeps (All V B) Anything
      (Run.define scopes name value) :=
  .update fun _ hMachine => hMachine.define _ hValue

theorem all_warn
    (warning : String) :
    Keeps (All V B) Anything (Run.warn warning) :=
  .update fun _ hMachine => ⟨hMachine.heap, hMachine.scopes⟩

theorem all_begin
    (span : Span) :
    Keeps (All V B) Anything (Run.begin span) :=
  .update fun _ hMachine => ⟨hMachine.heap, hMachine.scopes⟩

/- A new scope only holds the variables of a call. -/
theorem all_openScope
    (scopes : Scopes)
    {bindings : Bindings}
    (hBindings : bindings.All B) :
    Keeps (All V B) Anything
      (Run.openScope scopes bindings) :=
  fun _ hMachine =>
    ⟨hMachine.openScope hBindings, fun _ _ => trivial⟩

end Machine

end Gantry

------------------------------------------------------------
-- Functions Within Reach
------------------------------------------------------------

namespace Gantry

/- Every function among some variables has a property. -/
def Bindings.Holds
    (W : Closure → Prop)
    (bindings : Bindings) : Prop :=
  ∀ binding ∈ bindings, binding.2.Holds W

/-
  Every function that is an item of a list or the value of a
  variable has a property.
-/
structure Machine.Holds
    (W : Closure → Prop)
    (machine : Machine) : Prop where
  heap : machine.heap.Holds W
  scopes : ∀ bindings ∈ machine.scopes, bindings.Holds W

variable {W : Closure → Prop}

/- The variables of a call hold its arguments. -/
theorem Bindings.Holds.arguments
    {args : List Value}
    (hArgs : ∀ arg ∈ args, arg.Holds W)
    {bindings : Bindings}
    (hBindings : bindings.Holds W)
    (params : List String) :
    Holds W (Run.arguments params args bindings) :=
  All.arguments (fun _ => trivial)
    (fun arg hArg _ => hArgs arg hArg) hBindings params

namespace Machine

open Run (Keeping)

/- It is a property that all values have. -/
theorem holds_eq :
    Holds W =
      All (Value.Holds W) fun _ => Value.Holds W := by
  funext machine
  apply propext
  constructor
  · exact fun hMachine => ⟨hMachine.heap, hMachine.scopes⟩
  · exact fun hMachine => ⟨hMachine.heap, hMachine.scopes⟩

/- No step brings in other functions than it is given. -/
theorem holds_invariant
    (W : Closure → Prop) :
    Run.Invariant (Holds W) W := by
  have hPlain :
      ∀ value : Value, value.IsPlain → value.Holds W := by
    intro value hPlain
    cases value with
    | function closure => exact hPlain.elim
    | _ => trivial
  have hSteps :
      Run.Comparison.Stepwise (Value.Holds W)
        (Keeping (All (Value.Holds W)
          fun _ => Value.Holds W)) :=
    all_stepwise hPlain
  rw [holds_eq]
  exact
    { heap := hSteps.heap
      lookup := all_lookup
      makeList := hSteps.makeList
      append := fun ref item hItem machine hMachine =>
        (hSteps.append ref item hItem machine hMachine).1
      setItem := fun ref slot item hItem machine hMachine =>
        (hSteps.setItem ref slot item hItem machine
          hMachine).1
      nextSerial := hSteps.nextSerial
      define := fun scopes _ _ hValue =>
        all_define scopes hValue
      printLine := hSteps.printLine
      record := hSteps.record
      warn := all_warn
      begin := all_begin }

/- A new scope only holds the variables of a call. -/
theorem keeps_openScope
    (scopes : Scopes)
    {bindings : Bindings}
    (hBindings : bindings.Holds W) :
    Run.Keeps (Holds W) Run.Anything
      (Run.openScope scopes bindings) := by
  rw [holds_eq]
  exact all_openScope scopes hBindings

/- A fresh machine knows no functions of a script. -/
theorem holds_initial :
    Holds W {} := by
  rw [holds_eq]
  exact all_initial fun _ _ => trivial

end Machine

end Gantry
