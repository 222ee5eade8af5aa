import Gantry.Proofs.Machine.Comparison

/-
  This file gives a calculus for what the steps of a script
  keep true of the machine.

  An invariant is given by what the smallest steps keep. That
  operators, indexing, attributes, built-in functions and
  methods keep it as well follows once and for all, whatever
  the invariant says.

  Key definitions include:
    * `Gantry.Run.on`
    * `Gantry.Run.Keeps`
    * `Gantry.Value.Holds`
    * `Gantry.Run.Invariant`
    * `Gantry.Run.Keeping`

  Main statements:
    * `Gantry.Run.Keeps.callBody`
    * `Gantry.Run.Invariant.stepwise`
    * `Gantry.Run.Invariant.binary`
    * `Gantry.Run.Invariant.callBuiltin`
    * `Gantry.Run.Invariant.callMethod`
-/

------------------------------------------------------------
-- Runs From A Machine
------------------------------------------------------------

namespace Gantry

namespace Run

variable {α β : Type}

/- How a run ends from a machine, and the machine it leaves. -/
def on
    (run : Run α)
    (machine : Machine) : Except RuntimeFault α × Machine :=
  run.run.run machine

@[simp]
theorem on_get
    (machine : Machine) :
    on (get : Run Machine) machine =
      (.ok machine, machine) :=
  rfl

@[simp]
theorem on_modify
    (change : Machine → Machine)
    (machine : Machine) :
    on (modify change : Run Unit) machine =
      (.ok (), change machine) :=
  rfl

theorem on_bind
    (first : Run α)
    (rest : α → Run β)
    (machine : Machine) :
    on (first >>= rest) machine =
      match on first machine with
      | (.ok value, after) => on (rest value) after
      | (.error fault, after) => (.error fault, after) := by
  simp only [on, ExceptT.run_bind, StateT.run_bind]
  rcases hFirst : (first.run.run machine : Id _) with
    ⟨outcome, after⟩
  cases outcome with
  | ok value => rfl
  | error fault => rfl

theorem on_tryCatch
    (body : Run α)
    (handler : RuntimeFault → Run α)
    (machine : Machine) :
    on (tryCatch body handler) machine =
      match on body machine with
      | (.ok value, after) => (.ok value, after)
      | (.error fault, after) =>
          on (handler fault) after := by
  rcases hBody : on body machine with ⟨outcome, after⟩
  have hRun :
      StateT.run (σ := Machine) (m := Id) body machine =
        (outcome, after) := hBody
  change
    StateT.run (ExceptT.run (ExceptT.tryCatch body handler))
        machine = _
  simp only [ExceptT.tryCatch, ExceptT.run_mk,
    StateT.run_bind]
  rw [hRun]
  cases outcome with
  | ok value => rfl
  | error fault => rfl

/- What a call gives back when its body has ended. -/
def givenBack :
    Flow → Value
| .returned value => value
| _ => .none

/- How a call ends, by how its body does. -/
theorem on_callBody
    (body : Run Flow)
    (machine : Machine) :
    on (callBody body) machine =
      match on body
          { machine with depth := machine.depth + 1 } with
      | (.error fault, after) =>
          (.error fault,
            { after with depth := after.depth - 1 })
      | (.ok flow, after) =>
          (.ok (givenBack flow),
            { after with
              depth := after.depth - 1
              current := machine.current }) := by
  simp only [callBody, on_bind, on_get, deepen, on_modify,
    on_tryCatch]
  rcases on body { machine with depth := machine.depth + 1 }
    with ⟨outcome, after⟩
  cases outcome with
  | ok flow =>
      simp only [rise, begin, on_modify]
      cases flow <;> rfl
  | error fault => rfl

end Run

end Gantry

------------------------------------------------------------
-- Kept Properties
------------------------------------------------------------

namespace Gantry

namespace Run

variable {α β : Type}
variable {P : Machine → Prop}

/-
  A run keeps a property of the machine, whether or not it
  succeeds, and gives only results of a certain kind.
-/
def Keeps
    (P : Machine → Prop)
    (Q : α → Prop)
    (run : Run α) : Prop :=
  ∀ machine, P machine →
    P (on run machine).2 ∧
      ∀ value, (on run machine).1 = .ok value → Q value

/- A result of any kind. -/
def Anything
    (_ : α) : Prop := True

namespace Keeps

theorem pure
    {Q : α → Prop}
    {value : α}
    (hValue : Q value) :
    Keeps P Q (Pure.pure value) := by
  intro machine hMachine
  refine ⟨hMachine, ?_⟩
  rintro _ ⟨⟩
  exact hValue

theorem throw
    {Q : α → Prop}
    (fault : RuntimeFault) :
    Keeps P Q (MonadExcept.throw fault) := by
  intro machine hMachine
  exact ⟨hMachine, nofun⟩

theorem bind
    {R : α → Prop}
    {Q : β → Prop}
    {first : Run α}
    {rest : α → Run β}
    (hFirst : Keeps P R first)
    (hRest : ∀ value, R value → Keeps P Q (rest value)) :
    Keeps P Q (first >>= rest) := by
  intro machine hMachine
  have hStep := hFirst machine hMachine
  rcases hEnd : on first machine with ⟨outcome, after⟩
  rw [hEnd] at hStep
  rw [on_bind, hEnd]
  cases outcome with
  | ok value =>
      exact hRest value (hStep.2 value rfl) after hStep.1
  | error fault => exact ⟨hStep.1, nofun⟩

theorem weaken
    {Q R : α → Prop}
    {run : Run α}
    (hRun : Keeps P Q run)
    (hResult : ∀ value, Q value → R value) :
    Keeps P R run := by
  intro machine hMachine
  rcases hRun machine hMachine with ⟨hAfter, hValue⟩
  exact ⟨hAfter, fun value hOk =>
    hResult value (hValue value hOk)⟩

theorem anything
    {Q : α → Prop}
    {run : Run α}
    (hRun : Keeps P Q run) :
    Keeps P Anything run :=
  hRun.weaken fun _ _ => trivial

theorem get :
    Keeps P P MonadState.get := by
  intro machine hMachine
  refine ⟨hMachine, ?_⟩
  rintro _ ⟨⟩
  exact hMachine

theorem update
    {change : Machine → Machine}
    (hChange : ∀ machine, P machine → P (change machine)) :
    Keeps P Anything (modify change) :=
  fun machine hMachine =>
    ⟨hChange machine hMachine, fun _ _ => trivial⟩

end Keeps

end Run

end Gantry

------------------------------------------------------------
-- Invariants
------------------------------------------------------------

namespace Gantry

/-
  A value satisfies a property of functions: it either is no
  function or has that property.
-/
def Value.Holds
    (W : Closure → Prop) :
    Value → Prop
| .function closure => W closure
| _ => True

theorem Value.holds_true
    (value : Value) :
    value.Holds fun _ => True := by
  cases value with
  | _ => trivial

/- Every item of every list satisfies a property. -/
def Heap.Holds
    (W : Closure → Prop)
    (heap : Heap) : Prop :=
  ∀ ref, ∀ item ∈ heap.items ref, item.Holds W

namespace Run

/-
  A property of the machine that the smallest steps keep as
  long as all functions they are given have a property; the
  functions that they find in the machine then have it too.
-/
structure Invariant
    (P : Machine → Prop)
    (W : Closure → Prop) : Prop where
  heap : Keeps P (Heap.Holds W) heap
  lookup :
    ∀ scopes name,
      Keeps P (Value.Holds W) (lookup scopes name)
  makeList :
    ∀ items, (∀ item ∈ items.toArray, item.Holds W) →
      Keeps P (Value.Holds W) (makeList items)
  append :
    ∀ ref item, item.Holds W →
      ∀ machine, P machine →
        P { machine with
            heap := machine.heap.append ref item }
  setItem :
    ∀ ref slot item, item.Holds W →
      ∀ machine, P machine →
        P { machine with
            heap := machine.heap.setItem ref slot item }
  nextSerial : Keeps P Anything nextSerial
  define :
    ∀ scopes name value, value.Holds W →
      Keeps P Anything (define scopes name value)
  printLine : ∀ line, Keeps P Anything (printLine line)
  record : ∀ command, Keeps P Anything (record command)
  warn : ∀ warning, Keeps P Anything (warn warning)
  begin : ∀ span, Keeps P Anything (begin span)

/-
  A property that has to do neither with values nor with the
  statement that is current is kept if output keeps it.
-/
theorem Invariant.indifferent
    {P : Machine → Prop}
    (hOther :
      ∀ machine heap scopes serial span, P machine →
        P { machine with
            heap := heap
            scopes := scopes
            serial := serial
            current := span })
    (hPrint :
      ∀ line, Keeps P Anything (Run.printLine line))
    (hRecord :
      ∀ command, Keeps P Anything (Run.record command))
    (hWarn : ∀ warning, Keeps P Anything (Run.warn warning)) :
    Invariant P fun _ => True where
  heap := fun _ hMachine =>
    ⟨hMachine, fun _ _ _ item _ => item.holds_true⟩
  lookup := by
    intro scopes name
    refine .bind .get fun machine _ => ?_
    split
    case h_1 value _ => exact .pure value.holds_true
    case h_2 => exact .throw _
  makeList := fun _ _ machine hMachine =>
    ⟨hOther machine _ _ _ _ hMachine,
      fun value _ => value.holds_true⟩
  append := fun _ _ _ machine => hOther machine _ _ _ _
  setItem := fun _ _ _ _ machine => hOther machine _ _ _ _
  nextSerial := fun machine hMachine =>
    ⟨hOther machine _ _ _ _ hMachine, fun _ _ => trivial⟩
  define := fun _ _ _ _ =>
    .update fun machine => hOther machine _ _ _ _
  printLine := hPrint
  record := hRecord
  warn := hWarn
  begin := fun _ =>
    .update fun machine => hOther machine _ _ _ _

end Run

end Gantry

------------------------------------------------------------
-- Steps That Keep An Invariant
------------------------------------------------------------

namespace Gantry

namespace Run

variable {P : Machine → Prop}
variable {W : Closure → Prop}

/-
  A call keeps a property if its body keeps one that holds
  as long as the call is counted.
-/
theorem Keeps.callBody
    {Inside : Machine → Prop}
    {V : Value → Prop}
    {body : Run Flow}
    (hNone : V .none)
    (hBegin :
      ∀ machine, P machine →
        Inside { machine with depth := machine.depth + 1 })
    (hBody : Keeps Inside (Flow.All V) body)
    (hEnd :
      ∀ machine span, Inside machine →
        P { machine with
            depth := machine.depth - 1
            current := span }) :
    Keeps P V (Run.callBody body) := by
  intro machine hMachine
  have hKept := hBody _ (hBegin machine hMachine)
  rw [on_callBody]
  rcases hRun :
      on body { machine with depth := machine.depth + 1 } with
    ⟨outcome, after⟩
  rw [hRun] at hKept
  cases outcome with
  | error fault =>
      exact ⟨hEnd after after.current hKept.1, nofun⟩
  | ok flow =>
      refine ⟨hEnd after machine.current hKept.1, ?_⟩
      rintro _ ⟨⟩
      have hFlow := hKept.2 flow rfl
      cases flow with
      | returned value => exact hFlow
      | _ => exact hNone

/- What a run keeps, whatever it is compared with. -/
def Keeping
    (P : Machine → Prop) : Comparison :=
  fun _ Q run _ => Keeps P Q run

theorem keeping_sequential :
    Comparison.Sequential (Keeping P) where
  pure := .pure
  throw := .throw
  bind := .bind

theorem Keeps.oneArgument
    (function : String)
    {args : List Value}
    (hArgs : ∀ arg ∈ args, arg.Holds W) :
    Keeps P (Value.Holds W)
      (Run.oneArgument function args) :=
  keeping_sequential.oneArgument function hArgs

theorem Keeps.checkArity
    (closure : Closure)
    (args : List Value) :
    Keeps P Anything (Run.checkArity closure args) :=
  keeping_sequential.checkArity closure args

namespace Invariant

/- What an invariant says of the smallest steps. -/
theorem stepwise
    (hInv : Invariant P W) :
    Comparison.Stepwise (Value.Holds W) (Keeping P) where
  toSequential := keeping_sequential
  plain := by
    intro value hPlain
    cases value with
    | function closure => exact hPlain.elim
    | _ => trivial
  heap := hInv.heap
  makeList := hInv.makeList
  append := fun ref item hItem =>
    .update (hInv.append ref item hItem)
  setItem := fun ref slot item hItem =>
    .update (hInv.setItem ref slot item hItem)
  nextSerial := hInv.nextSerial
  printLine := hInv.printLine
  record := hInv.record

theorem isIn
    (hInv : Invariant P W)
    (needle container : Value) :
    Keeps P (Value.Holds W) (Run.isIn needle container) :=
  hInv.stepwise.isIn needle container

theorem add
    (hInv : Invariant P W)
    (left right : Value) :
    Keeps P (Value.Holds W) (Run.add left right) :=
  hInv.stepwise.add left right

theorem unary
    (hInv : Invariant P W)
    (op : UnaryOp)
    (value : Value) :
    Keeps P (Value.Holds W) (Run.unary op value) :=
  hInv.stepwise.unary op value

theorem binary
    (hInv : Invariant P W)
    (op : BinaryOp)
    {left right : Value}
    (hLeft : left.Holds W)
    (hRight : right.Holds W) :
    Keeps P (Value.Holds W) (Run.binary op left right) :=
  hInv.stepwise.binary op hLeft hRight

theorem index
    (hInv : Invariant P W)
    (object key : Value) :
    Keeps P (Value.Holds W) (Run.index object key) :=
  hInv.stepwise.index object key

theorem setIndex
    (hInv : Invariant P W)
    (object key : Value)
    {value : Value}
    (hValue : value.Holds W) :
    Keeps P Anything (Run.setIndex object key value) :=
  hInv.stepwise.setIndex object key hValue

theorem attr
    (hInv : Invariant P W)
    (object : Value)
    (name : String) :
    Keeps P (Value.Holds W) (Run.attr object name) :=
  hInv.stepwise.attr object name

/- A built-in function keeps every invariant. -/
theorem callBuiltin
    (hInv : Invariant P W)
    (stage : Stage)
    (function : Builtin)
    {args : List Value}
    (hArgs : ∀ arg ∈ args, arg.Holds W) :
    Keeps P (Value.Holds W)
      (Run.callBuiltin stage function args) := by
  have hLook :
      Keeps P (fun _ => True)
        (do return (← get).look stage) :=
    .bind .get fun _ _ => .pure trivial
  have hCall :
      Keeping P Value (Value.Holds W)
        (Run.callBuiltin stage function args)
        (Run.callBuiltin stage function args) :=
    hInv.stepwise.callBuiltin (fun _ => hLook) hArgs
  exact hCall

/- A method keeps every invariant. -/
theorem callMethod
    (hInv : Invariant P W)
    (method : Method)
    (receiver : Value)
    {args : List Value}
    (hArgs : ∀ arg ∈ args, arg.Holds W) :
    Keeps P (Value.Holds W)
      (Run.callMethod method receiver args) :=
  hInv.stepwise.callMethod method receiver hArgs

theorem itemAt?
    (hInv : Invariant P W)
    (ref place : Nat) :
    Keeps P
      (fun found =>
        ∀ item : Value, found = some item → item.Holds W)
      (Run.itemAt? ref place) :=
  hInv.stepwise.itemAt? ref place

theorem warnLimit
    (hInv : Invariant P W)
    (stage : Stage)
    (span : Span) :
    Keeps P Anything (Run.warnLimit stage span) :=
  hInv.warn _

theorem defineFunction
    (hInv : Invariant P W)
    (scopes : Scopes)
    (name : Ident)
    (params : List Ident)
    (body : Block)
    (hBody :
      ∀ serial,
        W { serial := serial
            name := name.name
            params := params.map (·.name)
            body := body
            scopes := scopes }) :
    Keeps P Anything
      (Run.defineFunction scopes name params body) :=
  .bind hInv.nextSerial fun serial _ =>
    hInv.define _ _ _ (hBody serial)

end Invariant

end Run

end Gantry
