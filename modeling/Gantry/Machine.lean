import Gantry.RuntimeFault
import Gantry.Value

/-
  This file defines the state of a running script: its lists
  and variables, what it has printed, and the commands it has
  recorded. A script only reads the world; what its commands
  do is decided when they are replayed.

  Key definitions include:
    * `Gantry.Limits`
    * `Gantry.Stage`
    * `Gantry.Bindings`
    * `Gantry.Transcript`
    * `Gantry.Machine`
    * `Gantry.Run`
-/

------------------------------------------------------------
-- Stages
------------------------------------------------------------

namespace Gantry

/-
  How often one loop may go around, and how many calls may be
  inside one another.
-/
structure Limits where
  maxIterations : Nat := 10000
  maxCallDepth : Nat := 200
deriving DecidableEq, Repr

/- What a script runs against. -/
structure Stage where
  world : World
  pose : Pose := Pose.initial
  limits : Limits := {}

end Gantry

------------------------------------------------------------
-- Bindings
------------------------------------------------------------

namespace Gantry

/- The variables of one scope. -/
abbrev Bindings := List (String × Value)

namespace Bindings

/- The value of a variable. -/
def get?
    (bindings : Bindings)
    (name : String) : Option Value :=
  bindings.lookup name

/- Give a variable a value. -/
def set
    (name : String)
    (value : Value)
    (bindings : Bindings) : Bindings :=
  (name, value) :: bindings.eraseP (·.1 == name)

/- The variables in the order of their names. -/
def sorted
    (bindings : Bindings) : Bindings :=
  bindings.mergeSort fun a b => decide (a.1 ≤ b.1)

/- The variables that every script starts with. -/
def initial : Bindings :=
  Builtin.all.map fun known => (known.name, .builtin known)

end Bindings

end Gantry

------------------------------------------------------------
-- Machines
------------------------------------------------------------

namespace Gantry

/- What a script leaves behind. -/
structure Transcript where
  stdout : String := ""
  commands : Array Command := #[]
  warnings : Array String := #[]
deriving DecidableEq, Repr

/-
  A running script. `serial` numbers functions and methods,
  `depth` counts the calls in progress, and `current` is the
  statement that was begun last.
-/
structure Machine where
  heap : Heap := {}
  scopes : Array Bindings := #[Bindings.initial]
  serial : Nat := 0
  transcript : Transcript := {}
  depth : Nat := 0
  current : Span := Span.unset

namespace Machine

/- The scope of a script's own variables. -/
def globals : Scopes := [0]

/- The variables of one scope. -/
def bindings
    (machine : Machine)
    (scope : Nat) : Bindings :=
  machine.scopes.getD scope []

/- The value of a name, from the innermost scope outward. -/
def find?
    (machine : Machine)
    (scopes : Scopes)
    (name : String) : Option Value :=
  scopes.findSome? fun scope =>
    (machine.bindings scope).get? name

/- Where the crane will be once all commands have run. -/
def predictedPose
    (machine : Machine)
    (stage : Stage) : Pose :=
  machine.transcript.commands.foldl Pose.step stage.pose

/-
  What the crane will see from there, in the world as it is
  now.
-/
def look
    (machine : Machine)
    (stage : Stage) : String :=
  stage.world.lookFrom (machine.predictedPose stage)

end Machine

end Gantry

------------------------------------------------------------
-- Runs
------------------------------------------------------------

namespace Gantry

/-
  A step of a script. What happened before a fault stays in
  the machine.
-/
abbrev Run (α : Type) :=
  ExceptT RuntimeFault (StateM Machine) α

namespace Run

variable {α : Type}

/- Stop because of a mismatch. -/
def mismatch
    (why : Mismatch) : Run α :=
  throw (.typeMismatch why)

/- Stop because of a bad argument. -/
def badArgument
    (why : BadArgument) : Run α :=
  throw (.invalidArgument why)

/- The lists of the script. -/
def heap : Run Heap := do
  return (← get).heap

/- Make a new list. -/
def makeList
    (items : Items) : Run Value :=
  modifyGet fun machine =>
    let (ref, heap) := machine.heap.alloc items
    (.list ref, { machine with heap := heap })

/- The number of a new function or method. -/
def nextSerial : Run Nat :=
  modifyGet fun machine =>
    (machine.serial,
      { machine with serial := machine.serial + 1 })

/- Give a variable of the innermost scope a value. -/
def define
    (scopes : Scopes)
    (name : String)
    (value : Value) : Run Unit :=
  modify fun machine =>
    { machine with
      scopes :=
        machine.scopes.modify (scopes.headD 0)
          (Bindings.set name value) }

/- Open a scope inside others. -/
def openScope
    (scopes : Scopes)
    (bindings : Bindings) : Run Scopes :=
  modifyGet fun machine =>
    (machine.scopes.size :: scopes,
      { machine with
        scopes := machine.scopes.push bindings })

/- Print a line. -/
def printLine
    (line : String) : Run Unit :=
  modify fun machine =>
    { machine with
      transcript := { machine.transcript with
        stdout :=
          machine.transcript.stdout ++ line ++ "\n" } }

/- Record a command. -/
def record
    (command : Command) : Run Unit :=
  modify fun machine =>
    { machine with
      transcript := { machine.transcript with
        commands :=
          machine.transcript.commands.push command } }

/- Record a warning. -/
def warn
    (warning : String) : Run Unit :=
  modify fun machine =>
    { machine with
      transcript := { machine.transcript with
        warnings :=
          machine.transcript.warnings.push warning } }

end Run

end Gantry
