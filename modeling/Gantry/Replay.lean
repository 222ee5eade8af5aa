import Gantry.Crane

/-
  This file replays commands on a yard, one after another.

  A command takes effect when it leaves the queue; it is then
  shown for one step of the clock, after which it counts as
  resolved and the next one follows. A command that fails
  takes the whole queue with it. Every command has a number,
  and the outcomes of the latest ones are on record.

  Key definitions include:
    * `Gantry.Outcome`
    * `Gantry.Completion`
    * `Gantry.Replay`
    * `Gantry.Replay.enqueueAll`
    * `Gantry.Replay.tick`
    * `Gantry.Replay.wait`
    * `Gantry.Replay.wait?`
    * `Gantry.Replay.poll`
-/

------------------------------------------------------------
-- Outcomes
------------------------------------------------------------

namespace Gantry

/- What has become of a command. -/
inductive Outcome where
  | pending
  | resolved
  | rejected (failure : CraneFailure)
  | cancelled
deriving DecidableEq, Repr

namespace Outcome

/- The command failed, or one before it did. -/
def isRejected :
    Outcome → Bool
| rejected _ => true
| _ => false

/-
  What has become of several commands. A rejection counts
  before a cancellation, and that before a pending command.
-/
def summary
    (outcomes : List Outcome) : Outcome :=
  match outcomes.find? isRejected with
  | some outcome => outcome
  | none =>
      if cancelled ∈ outcomes then
        cancelled
      else if pending ∈ outcomes then
        pending
      else
        resolved

end Outcome

/- A run of commands with consecutive numbers. -/
structure Completion where
  first : Nat
  count : Nat
deriving DecidableEq, Repr

end Gantry

------------------------------------------------------------
-- Replays
------------------------------------------------------------

namespace Gantry

/-
  The command being shown, with the cells between which the
  crane moves and the time for which it has been shown.
-/
structure Animation where
  id : Nat
  origin : Int × Int
  target : Int × Int
  elapsed : Nat := 0
deriving DecidableEq, Repr

/- The nanoseconds of a millisecond. -/
def millisecond : Nat := 1000000

/- The milliseconds for which a command is usually shown. -/
def standardStepMillis : Nat := 350

/- The number of settled outcomes that are kept on record. -/
def historyLength : Nat := 1024

/-
  A yard, the commands waiting for it, and the record of
  outcomes, which starts with command number `base`. Times
  are in nanoseconds.
-/
structure Replay where
  yard : Yard
  step : Nat := standardStepMillis * millisecond
  queue : List (Nat × Command) := []
  active? : Option Animation := none
  outcomes : Array Outcome := #[]
  base : Nat := 0
deriving DecidableEq

namespace Replay

/- An idle replay of a world, with the crane in its corner. -/
def ofWorld
    (world : World) : Replay :=
  { yard := { world := world } }

/- The cell of the crane. -/
def cell
    (yard : Yard) : Int × Int :=
  (yard.crane.pose.x, yard.crane.pose.y)

/- Nothing is shown and nothing waits. -/
def isSettled
    (replay : Replay) : Bool :=
  replay.active?.isNone && replay.queue.isEmpty

/- The number of commands that have not settled. -/
def pending
    (replay : Replay) : Nat :=
  replay.queue.length +
    (if replay.active?.isSome then 1 else 0)

/- The number of the next command. -/
def nextId
    (replay : Replay) : Nat :=
  replay.base + replay.outcomes.size

/- The number of the first command that has not settled. -/
def firstPending
    (replay : Replay) : Nat :=
  match replay.active?, replay.queue with
  | some animation, _ => animation.id
  | none, (id, _) :: _ => id
  | none, [] => replay.nextId

end Replay

end Gantry

------------------------------------------------------------
-- The Record
------------------------------------------------------------

namespace Gantry

namespace Replay

/- Enter an outcome in the record. -/
def settle
    (replay : Replay)
    (id : Nat)
    (outcome : Outcome) : Replay :=
  if replay.base ≤ id then
    { replay with
      outcomes :=
        replay.outcomes.setIfInBounds (id - replay.base)
          outcome }
  else
    replay

/- Enter one outcome for several commands. -/
def settleAll
    (replay : Replay)
    (ids : List Nat)
    (outcome : Outcome) : Replay :=
  ids.foldl (fun replay id => replay.settle id outcome)
    replay

/-
  Drop the oldest outcomes beyond the history. Every command
  before the first pending one has settled.
-/
def forget
    (replay : Replay) : Replay :=
  let settled := replay.firstPending - replay.base
  let surplus := settled - historyLength
  { replay with
    outcomes :=
      replay.outcomes.extract surplus replay.outcomes.size
    base := replay.base + surplus }

/- The outcomes of a run, while all are on record. -/
def recorded?
    (replay : Replay)
    (run : Completion) : Option (List Outcome) :=
  if run.count = 0 then
    some []
  else if replay.base ≤ run.first ∧
      run.first + run.count ≤ replay.nextId then
    let start := run.first - replay.base
    some
      (replay.outcomes.extract start
        (start + run.count)).toList
  else
    none

/- What has become of a run, while it is on record. -/
def poll
    (replay : Replay)
    (run : Completion) : Option Outcome :=
  (replay.recorded? run).map Outcome.summary

/- How many commands of a run have resolved. -/
def resolvedCount
    (replay : Replay)
    (run : Completion) : Nat :=
  ((replay.recorded? run).getD []).count .resolved

end Replay

end Gantry

------------------------------------------------------------
-- The Queue
------------------------------------------------------------

namespace Gantry

namespace Replay

/-
  Carry out the command at the head of the queue and show it.
  If it fails, it is rejected with all that wait behind it.
-/
def startNext
    (replay : Replay) : Replay :=
  match replay.queue with
  | [] => replay
  | (id, command) :: rest =>
      match replay.yard.perform command with
      | .ok yard =>
          { replay with
            yard := yard
            queue := rest
            active? := some
              { id := id
                origin := cell replay.yard
                target := cell yard } }
      | .error failure =>
          settleAll { replay with queue := [] }
            (id :: rest.map (·.1)) (.rejected failure)

/- Carry out the next command unless one is being shown. -/
def startIfIdle
    (replay : Replay) : Replay :=
  match replay.active? with
  | some _ => replay
  | none => replay.startNext

/-
  Queue several commands. None of them starts before all of
  them are queued, so that a failure takes the others along.
-/
def enqueueAll
    (replay : Replay)
    (commands : List Command) : Completion × Replay :=
  match commands with
  | [] => (⟨replay.nextId, 0⟩, replay.startIfIdle)
  | _ =>
      let after := replay.forget
      let first := after.nextId
      let numbered :=
        commands.zipIdx.map fun (command, i) =>
          (first + i, command)
      let queued :=
        { after with
          queue := after.queue ++ numbered
          outcomes :=
            after.outcomes ++
              Array.replicate commands.length
                Outcome.pending }
      (⟨first, commands.length⟩, queued.startIfIdle)

/- Queue one command. -/
def enqueue
    (replay : Replay)
    (command : Command) : Completion × Replay :=
  replay.enqueueAll [command]

/- Cancel everything that has not settled. -/
def cancelPending
    (replay : Replay) : Replay :=
  let ids :=
    (replay.active?.map (·.id)).toList ++
      replay.queue.map (·.1)
  settleAll { replay with queue := [], active? := none }
    ids .cancelled

/-
  Put the crane somewhere with empty hands, and set what it
  places then. What has not settled is cancelled.
-/
def station
    (replay : Replay)
    (pose : Pose)
    (supply : String) : Replay :=
  let after := replay.cancelPending
  { after with
    yard := { after.yard with
      crane := { pose := pose }
      supply := supply } }

/- Take another world. What has not settled is cancelled. -/
def loadWorld
    (replay : Replay)
    (world : World) : Replay :=
  let after := replay.cancelPending
  { after with yard := { after.yard with world := world } }

/- Hand the crane a block, or take its block away. -/
def setCarried
    (replay : Replay)
    (kind? : Option String) : Replay :=
  { replay with
    yard := { replay.yard with
      crane := { replay.yard.crane with
        carried? := kind? } } }

/-
  Stop: what has not settled is cancelled, and the crane
  drops its block. What was done to the world stays.
-/
def reset
    (replay : Replay) : Replay :=
  replay.cancelPending.setCarried none

end Replay

end Gantry

------------------------------------------------------------
-- Commands That Settle
------------------------------------------------------------

namespace Gantry

namespace Replay

@[simp] theorem queue_settle
    (replay : Replay)
    (id : Nat)
    (outcome : Outcome) :
    (replay.settle id outcome).queue = replay.queue := by
  unfold settle
  split <;> rfl

@[simp] theorem active?_settle
    (replay : Replay)
    (id : Nat)
    (outcome : Outcome) :
    (replay.settle id outcome).active? =
      replay.active? := by
  unfold settle
  split <;> rfl

@[simp] theorem queue_settleAll
    (replay : Replay)
    (ids : List Nat)
    (outcome : Outcome) :
    (replay.settleAll ids outcome).queue =
      replay.queue := by
  unfold settleAll
  induction ids generalizing replay with
  | nil => rfl
  | cons id ids ih => simp [ih]

@[simp] theorem active?_settleAll
    (replay : Replay)
    (ids : List Nat)
    (outcome : Outcome) :
    (replay.settleAll ids outcome).active? =
      replay.active? := by
  unfold settleAll
  induction ids generalizing replay with
  | nil => rfl
  | cons id ids ih => simp [ih]

/- Starting a command leaves none more than were queued. -/
theorem pending_startNext_le
    (replay : Replay)
    (hIdle : replay.active? = none) :
    replay.startNext.pending ≤ replay.queue.length := by
  unfold startNext
  cases hQueue : replay.queue with
  | nil => simp [pending, hQueue, hIdle]
  | cons head rest =>
      rcases head with ⟨id, command⟩
      cases hPerform : replay.yard.perform command with
      | ok yard => simp [pending, hPerform]
      | error failure => simp [pending, hPerform, hIdle]

end Replay

end Gantry

------------------------------------------------------------
-- The Clock
------------------------------------------------------------

namespace Gantry

namespace Replay

/- The command being shown has been shown long enough. -/
def finish
    (replay : Replay)
    (animation : Animation) : Replay :=
  ({ replay with active? := none }.settle animation.id
    .resolved).startNext

/- Every command that has been shown leaves one less. -/
theorem pending_finish_lt
    (replay : Replay)
    (animation : Animation)
    (hActive : replay.active? = some animation) :
    (replay.finish animation).pending <
      replay.pending := by
  have hLe :=
    pending_startNext_le
      ({ replay with active? := none }.settle animation.id
        .resolved) (by simp)
  simp only [queue_settle] at hLe
  unfold finish
  simp only [pending, hActive, Option.isSome_some] at hLe ⊢
  simp only [if_true]
  omega

/-
  Let time pass. What is left of it when a command has been
  shown goes to the one that follows.
-/
def tick
    (replay : Replay)
    (elapsed : Nat) : Replay :=
  match _ : replay.active? with
  | none => replay
  | some animation =>
      let needed := replay.step - animation.elapsed
      if elapsed < needed then
        { replay with
          active? := some
            { animation with
              elapsed := animation.elapsed + elapsed } }
      else
        tick (replay.finish animation) (elapsed - needed)
termination_by replay.pending
decreasing_by
  exact pending_finish_lt replay _ (by assumption)

/-
  Let strides of time pass until everything has settled, and
  count them. Every stride is long enough to settle at least
  one command, so that their number is bounded.
-/
def waitFrom
    (stride : Nat) :
    Nat → Nat → Replay → Nat × Replay
| 0, waited, replay => (waited, replay)
| rounds + 1, waited, replay =>
    if replay.isSettled then
      (waited, replay)
    else
      waitFrom stride rounds (waited + stride)
        (replay.tick stride)

/-
  Wait until everything has settled. The clock goes by
  steps, and by milliseconds if steps take less time.
-/
def wait
    (replay : Replay) : Nat × Replay :=
  waitFrom (max replay.step millisecond) replay.pending 0
    replay

end Replay

end Gantry

------------------------------------------------------------
-- A Clock That Can Overflow
------------------------------------------------------------

namespace Gantry

/-
  The longest time that can be held, in nanoseconds: its
  seconds fill 64 bits.
-/
def longestTime : Nat :=
  0x10000000000000000 * 1000000000 - 1

/- The sum of two times, unless it is too long to be held. -/
def addTimes?
    (time more : Nat) : Option Nat :=
  if time + more ≤ longestTime then
    some (time + more)
  else
    none

namespace Replay

/- Let time pass, unless a command is shown for too long. -/
def tick?
    (replay : Replay)
    (elapsed : Nat) : Option Replay :=
  match _ : replay.active? with
  | none => some replay
  | some animation =>
      let needed := replay.step - animation.elapsed
      if elapsed < needed then
        (addTimes? animation.elapsed elapsed).map fun shown =>
          { replay with
            active? := some
              { animation with elapsed := shown } }
      else
        tick? (replay.finish animation) (elapsed - needed)
termination_by replay.pending
decreasing_by
  exact pending_finish_lt replay _ (by assumption)

/- Let strides of time pass, unless they become too long. -/
def waitFrom?
    (stride : Nat) :
    Nat → Nat → Replay → Option (Nat × Replay)
| 0, waited, replay => some (waited, replay)
| rounds + 1, waited, replay =>
    if replay.isSettled then
      some (waited, replay)
    else do
      let after ← replay.tick? stride
      let total ← addTimes? waited stride
      waitFrom? stride rounds total after

/- Wait until everything has settled, unless it is too long. -/
def wait?
    (replay : Replay) : Option (Nat × Replay) :=
  waitFrom? (max replay.step millisecond) replay.pending 0
    replay

end Replay

end Gantry

------------------------------------------------------------
-- The View
------------------------------------------------------------

namespace Gantry

namespace Replay

/- A time in seconds. -/
def seconds
    (time : Nat) : Float :=
  (time / 1000000000).toFloat +
    (time % 1000000000).toFloat / 1000000000

/- How much of a step has passed. -/
def progress
    (replay : Replay)
    (animation : Animation) : Float :=
  if replay.step = 0 then
    1
  else
    let ratio :=
      seconds animation.elapsed / seconds replay.step
    if 1 < ratio then 1 else ratio

/- A point between two coordinates. -/
def between
    (origin target : Int)
    (part : Float) : Float :=
  let start := Float.ofInt origin
  start + (Float.ofInt target - start) * part

/- Where to draw the crane. -/
def view
    (replay : Replay) : Float × Float :=
  match replay.active? with
  | some animation =>
      let part := replay.progress animation
      (between animation.origin.1 animation.target.1 part,
        between animation.origin.2 animation.target.2 part)
  | none =>
      let place := cell replay.yard
      (Float.ofInt place.1, Float.ofInt place.2)

end Replay

end Gantry
