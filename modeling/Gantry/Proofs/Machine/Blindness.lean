import Gantry.Proofs.Machine.Invariant

/-
  This file shows that the steps below statements and calls
  are blind to the statement that is current: they do the
  same whichever it is, and leave it as it was.

  Key definitions include:
    * `Gantry.Machine.moved`
    * `Gantry.Run.Blind`

  Main statements:
    * `Gantry.Run.Blind.current`
    * `Gantry.Run.Blind.binary`
    * `Gantry.Run.Blind.callBuiltin`
    * `Gantry.Run.Blind.callMethod`
-/

------------------------------------------------------------
-- Blind Steps
------------------------------------------------------------

namespace Gantry

/- The same machine at another statement. -/
def Machine.moved
    (machine : Machine)
    (span : Span) : Machine :=
  { machine with current := span }

@[simp] theorem Machine.moved_current
    (machine : Machine) :
    machine.moved machine.current = machine := rfl

namespace Run

variable {α β : Type}

/-
  From a machine at another statement, a run ends the same
  way and leaves the same machine, but for the statement.
-/
def Blind
    (run : Run α) : Prop :=
  ∀ (machine : Machine) (span : Span),
    on run (machine.moved span) =
      ((on run machine).1, (on run machine).2.moved span)

namespace Blind

/- What does not look at the statement does not change it. -/
theorem current
    {run : Run α}
    (hRun : Blind run)
    (machine : Machine) :
    (on run machine).2.current = machine.current := by
  have hSame := hRun machine machine.current
  rw [machine.moved_current] at hSame
  rw [hSame]
  rfl

theorem pure
    (value : α) :
    Blind (Pure.pure value) :=
  fun _ _ => rfl

theorem throw
    (fault : RuntimeFault) :
    Blind (MonadExcept.throw fault : Run α) :=
  fun _ _ => rfl

/- What follows may depend on what the first run comes to. -/
theorem bindTo
    {R : α → Prop}
    {first : Run α}
    {rest : α → Run β}
    (hFirst : Blind first)
    (hKept : Keeps (fun _ => True) R first)
    (hRest : ∀ value, R value → Blind (rest value)) :
    Blind (first >>= rest) := by
  intro machine span
  have hValue := (hKept machine trivial).2
  rw [on_bind, on_bind, hFirst machine span]
  rcases hEnd : on first machine with ⟨outcome, after⟩
  rw [hEnd] at hValue
  cases outcome with
  | ok value => exact hRest value (hValue value rfl) after span
  | error fault => rfl

theorem bind
    {first : Run α}
    {rest : α → Run β}
    (hFirst : Blind first)
    (hRest : ∀ value, Blind (rest value)) :
    Blind (first >>= rest) :=
  hFirst.bindTo (fun _ _ => ⟨trivial, fun _ _ => trivial⟩)
    fun value (_ : True) => hRest value

/- A change that touches other parts of the machine. -/
theorem update
    {change : Machine → Machine}
    (hChange :
      ∀ machine span,
        change (machine.moved span) =
          (change machine).moved span) :
    Blind (modify change) := by
  intro machine span
  rw [on_modify, on_modify, hChange]

theorem heap :
    Blind Run.heap :=
  fun _ _ => rfl

theorem lookup
    (scopes : Scopes)
    (name : String) :
    Blind (Run.lookup scopes name) := by
  intro machine span
  have hFind :
      (machine.moved span).find? scopes name =
        machine.find? scopes name := rfl
  rw [Run.lookup, on_bind, on_bind, on_get, on_get]
  dsimp only
  rw [hFind]
  cases machine.find? scopes name with
  | none => rfl
  | some value => rfl

theorem makeList
    (items : Items) :
    Blind (Run.makeList items) :=
  fun _ _ => rfl

theorem nextSerial :
    Blind Run.nextSerial :=
  fun _ _ => rfl

theorem define
    (scopes : Scopes)
    (name : String)
    (value : Value) :
    Blind (Run.define scopes name value) :=
  .update fun _ _ => rfl

theorem openScope
    (scopes : Scopes)
    (bindings : Bindings) :
    Blind (Run.openScope scopes bindings) :=
  fun _ _ => rfl

theorem printLine
    (line : String) :
    Blind (Run.printLine line) :=
  .update fun _ _ => rfl

theorem record
    (command : Command) :
    Blind (Run.record command) :=
  .update fun _ _ => rfl

theorem warn
    (warning : String) :
    Blind (Run.warn warning) :=
  .update fun _ _ => rfl

end Blind

end Run

end Gantry

------------------------------------------------------------
-- Operators, Functions And Methods
------------------------------------------------------------

namespace Gantry

namespace Run

variable {α : Type}

/- A run is blind, whatever it is compared with. -/
def Blindly : Comparison :=
  fun _ Q run _ => Blind run ∧ Keeps (fun _ => True) Q run

theorem Blind.blindly
    {run : Run α}
    (hRun : Blind run) :
    Blindly α (fun _ => True) run run :=
  ⟨hRun, fun _ _ => ⟨trivial, fun _ _ => trivial⟩⟩

/- The smallest steps are blind. -/
theorem blindly_stepwise :
    Comparison.Stepwise (fun _ => True) Blindly where
  pure := fun hValue => ⟨.pure _, .pure hValue⟩
  throw := fun fault => ⟨.throw fault, .throw fault⟩
  bind := fun hFirst hRest =>
    ⟨hFirst.1.bindTo hFirst.2 fun value hValue =>
      (hRest value hValue).1,
      .bind hFirst.2 fun value hValue =>
        (hRest value hValue).2⟩
  plain := fun _ _ => trivial
  heap :=
    ⟨.heap, fun _ _ => ⟨trivial, fun _ _ _ _ _ => trivial⟩⟩
  makeList := fun items _ => (Blind.makeList items).blindly
  append := fun _ _ _ =>
    (Blind.update fun _ _ => rfl).blindly
  setItem := fun _ _ _ _ =>
    (Blind.update fun _ _ => rfl).blindly
  nextSerial := Blind.nextSerial.blindly
  printLine := fun line => (Blind.printLine line).blindly
  record := fun command => (Blind.record command).blindly

namespace Blind

theorem unary
    (op : UnaryOp)
    (value : Value) :
    Blind (Run.unary op value) :=
  (blindly_stepwise.unary op value).1

theorem binary
    (op : BinaryOp)
    (left right : Value) :
    Blind (Run.binary op left right) :=
  (blindly_stepwise.binary op trivial trivial).1

theorem index
    (object key : Value) :
    Blind (Run.index object key) :=
  (blindly_stepwise.index object key).1

theorem setIndex
    (object key value : Value) :
    Blind (Run.setIndex object key value) :=
  (blindly_stepwise.setIndex object key trivial).1

theorem attr
    (object : Value)
    (name : String) :
    Blind (Run.attr object name) :=
  (blindly_stepwise.attr object name).1

/- What the crane will see depends on its commands alone. -/
theorem look
    (stage : Stage) :
    Blind (do return (← get).look stage) :=
  fun _ _ => rfl

theorem callBuiltin
    (stage : Stage)
    (function : Builtin)
    (args : List Value) :
    Blind (Run.callBuiltin stage function args) := by
  have hCall :
      Blindly Value (fun _ => True)
        (Run.callBuiltin stage function args)
        (Run.callBuiltin stage function args) :=
    blindly_stepwise.callBuiltin
      (fun _ => (look stage).blindly) fun _ _ => trivial
  exact hCall.1

theorem callMethod
    (method : Method)
    (receiver : Value)
    (args : List Value) :
    Blind (Run.callMethod method receiver args) :=
  (blindly_stepwise.callMethod method receiver
    fun _ _ => trivial).1

theorem itemAt?
    (ref place : Nat) :
    Blind (Run.itemAt? ref place) :=
  .bind .heap fun _ => .pure _

theorem warnLimit
    (stage : Stage)
    (span : Span) :
    Blind (Run.warnLimit stage span) :=
  .warn _

theorem defineFunction
    (scopes : Scopes)
    (name : Ident)
    (params : List Ident)
    (body : Block) :
    Blind (Run.defineFunction scopes name params body) :=
  .bind .nextSerial fun _ => .define _ _ _

theorem checkArity
    (closure : Closure)
    (args : List Value) :
    Blind (Run.checkArity closure args) :=
  (blindly_stepwise.checkArity closure args).1

end Blind

end Run

end Gantry
