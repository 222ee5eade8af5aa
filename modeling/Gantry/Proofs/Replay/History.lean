import Gantry.Proofs.Replay.Record

/-
  This file tells what every operation on a replay does, one
  event at a time. An event is queuing, carrying out or
  refusing a command, showing it, finishing it, cancelling
  what is open, or a change made from outside.

  Key definitions include:
    * `Gantry.Replay.Event`
    * `Gantry.Replay.Step`
    * `Gantry.Replay.Run`
    * `Gantry.Replay.Operation`
    * `Gantry.Replay.act`
    * `Gantry.Replay.history`

  Main statements:
    * `Gantry.Replay.run_events`
    * `Gantry.Replay.run_history`
    * `Gantry.Replay.Run.orderly`
-/

------------------------------------------------------------
-- Events
------------------------------------------------------------

namespace Gantry

namespace Replay

/- What can happen to a replay. -/
inductive Event where
  | queued (commands : List Command)
  | applied (id : Nat) (command : Command)
  | refused (id : Nat) (failure : CraneFailure)
  | shown (elapsed : Nat)
  | finished (id : Nat)
  | cancelled (shown? : Option Nat)
  | stationed (pose : Pose) (supply : String)
  | loaded (world : World)
  | handed (kind? : Option String)
  | paced (step : Nat)

/-
  When an event can happen, and the replay after it. Only
  a command that can be carried out, and changes made from
  outside, reach the yard.
-/
inductive Step :
    Replay → Event → Replay → Prop
  | queued
      (replay : Replay)
      (commands : List Command) :
      Step replay (.queued commands)
        (replay.forget.push commands)
  | applied
      {replay : Replay}
      {id : Nat}
      {command : Command}
      {rest : List (Nat × Command)}
      {yard : Yard}
      (hIdle : replay.active? = none)
      (hQueue : replay.queue = (id, command) :: rest)
      (hPerform : replay.yard.perform command = .ok yard) :
      Step replay (.applied id command)
        { replay with
          yard := yard
          queue := rest
          active? := some
            { id := id
              origin := cell replay.yard
              target := cell yard } }
  | refused
      {replay : Replay}
      {id : Nat}
      {command : Command}
      {rest : List (Nat × Command)}
      {failure : CraneFailure}
      (hIdle : replay.active? = none)
      (hQueue : replay.queue = (id, command) :: rest)
      (hPerform :
        replay.yard.perform command = .error failure) :
      Step replay (.refused id failure)
        (settleAll
          { replay with queue := [], active? := none }
          replay.openIds (.rejected failure))
  | shown
      {replay : Replay}
      {animation : Animation}
      {elapsed : Nat}
      (hActive : replay.active? = some animation)
      (hShort :
        elapsed < replay.step - animation.elapsed) :
      Step replay (.shown elapsed)
        { replay with
          active? := some
            { animation with
              elapsed := animation.elapsed + elapsed } }
  | finished
      {replay : Replay}
      {animation : Animation}
      (hActive : replay.active? = some animation) :
      Step replay (.finished animation.id)
        ({ replay with active? := none }.settle
          animation.id .resolved)
  | cancelled
      (replay : Replay) :
      Step replay
        (.cancelled (replay.active?.map (·.id)))
        replay.cancelPending
  | stationed
      (replay : Replay)
      (pose : Pose)
      (supply : String) :
      Step replay (.stationed pose supply)
        { replay with
          yard := { replay.yard with
            crane := { pose := pose }
            supply := supply } }
  | loaded
      (replay : Replay)
      (world : World) :
      Step replay (.loaded world)
        { replay with
          yard := { replay.yard with world := world } }
  | handed
      (replay : Replay)
      (kind? : Option String) :
      Step replay (.handed kind?)
        (replay.setCarried kind?)
  | paced
      (replay : Replay)
      (step : Nat) :
      Step replay (.paced step)
        { replay with step := step }

/- Events that happen one after another. -/
inductive Run :
    Replay → List Event → Replay → Prop
  | nil
      (replay : Replay) :
      Run replay [] replay
  | cons
      {start middle stop : Replay}
      {event : Event}
      {events : List Event}
      (hStep : Step start event middle)
      (hRun : Run middle events stop) :
      Run start (event :: events) stop

theorem Step.run
    {start stop : Replay}
    {event : Event}
    (hStep : Step start event stop) :
    Run start [event] stop :=
  .cons hStep (.nil stop)

theorem Run.append
    {start middle stop : Replay}
    {events later : List Event}
    (hRun : Run start events middle)
    (hLater : Run middle later stop) :
    Run start (events ++ later) stop := by
  induction hRun with
  | nil => exact hLater
  | cons hStep _ ih => exact .cons hStep (ih hLater)

end Replay

end Gantry

------------------------------------------------------------
-- Order Along A Run
------------------------------------------------------------

namespace Gantry

namespace Replay

theorem cancelPending_eq
    (replay : Replay) :
    replay.cancelPending =
      settleAll
        { replay with queue := [], active? := none }
        replay.openIds .cancelled := rfl

/- Every event keeps the numbers in order. -/
theorem Step.orderly
    {replay after : Replay}
    {event : Event}
    (hStep : Step replay event after)
    (hOrderly : replay.Orderly) :
    after.Orderly := by
  cases hStep with
  | queued commands => exact hOrderly.forget.push commands
  | applied hIdle hQueue hPerform =>
      apply hOrderly.congr
      · simp [openIds, hIdle, hQueue]
      · rfl
      · rfl
  | refused hIdle hQueue hPerform =>
      exact hOrderly.settleOpen (by simp)
  | shown hActive hShort =>
      apply hOrderly.congr
      · simp [openIds, hActive]
      · rfl
      · rfl
  | finished hActive =>
      refine hOrderly.settleFirst (by simp) ?_ ?_ ?_
      · simp [openIds, hActive]
      · rfl
      · rfl
  | cancelled => exact hOrderly.settleOpen (by simp)
  | stationed pose supply =>
      exact hOrderly.congr rfl rfl rfl
  | loaded world => exact hOrderly.congr rfl rfl rfl
  | handed kind? => exact hOrderly.congr rfl rfl rfl
  | paced step => exact hOrderly.congr rfl rfl rfl

theorem Run.orderly
    {replay after : Replay}
    {events : List Event}
    (hRun : Run replay events after)
    (hOrderly : replay.Orderly) :
    after.Orderly := by
  induction hRun with
  | nil => exact hOrderly
  | cons hStep _ ih => exact ih (hStep.orderly hOrderly)

end Replay

end Gantry

------------------------------------------------------------
-- Starting Commands
------------------------------------------------------------

namespace Gantry

namespace Replay

/- What starting the next command of an idle replay does. -/
def startEvents
    (replay : Replay) : List Event :=
  match replay.queue with
  | [] => []
  | (id, command) :: _ =>
      match replay.yard.perform command with
      | .ok _ => [.applied id command]
      | .error failure => [.refused id failure]

/- What starting a command does unless one is shown. -/
def idleEvents
    (replay : Replay) : List Event :=
  match replay.active? with
  | some _ => []
  | none => replay.startEvents

/- A command that can be carried out is, and is shown. -/
theorem startNext_of_ok
    {replay : Replay}
    {id : Nat}
    {command : Command}
    {rest : List (Nat × Command)}
    {yard : Yard}
    (hQueue : replay.queue = (id, command) :: rest)
    (hPerform : replay.yard.perform command = .ok yard) :
    replay.startNext =
      { replay with
        yard := yard
        queue := rest
        active? := some
          { id := id
            origin := cell replay.yard
            target := cell yard } } := by
  unfold startNext
  simp only [hQueue, hPerform]

/- A command that fails takes all others with it. -/
theorem startNext_of_error
    {replay : Replay}
    {id : Nat}
    {command : Command}
    {rest : List (Nat × Command)}
    {failure : CraneFailure}
    (hIdle : replay.active? = none)
    (hQueue : replay.queue = (id, command) :: rest)
    (hPerform :
      replay.yard.perform command = .error failure) :
    replay.startNext =
      settleAll
        { replay with queue := [], active? := none }
        replay.openIds (.rejected failure) := by
  have hOpen :
      replay.openIds = id :: rest.map (·.1) := by
    simp [openIds, hIdle, hQueue]
  rw [hOpen]
  unfold startNext
  simp only [hQueue, hPerform, hIdle]

theorem run_startNext
    {replay : Replay}
    (hIdle : replay.active? = none) :
    Run replay replay.startEvents replay.startNext := by
  cases hQueue : replay.queue with
  | nil =>
      simp only [startEvents, startNext, hQueue]
      exact .nil replay
  | cons head rest =>
      rcases head with ⟨id, command⟩
      cases hPerform : replay.yard.perform command with
      | ok yard =>
          rw [startNext_of_ok hQueue hPerform]
          simp only [startEvents, hQueue, hPerform]
          exact (Step.applied hIdle hQueue hPerform).run
      | error failure =>
          rw [startNext_of_error hIdle hQueue hPerform]
          simp only [startEvents, hQueue, hPerform]
          exact (Step.refused hIdle hQueue hPerform).run

theorem run_startIfIdle
    (replay : Replay) :
    Run replay replay.idleEvents replay.startIfIdle := by
  unfold idleEvents startIfIdle
  cases hActive : replay.active? with
  | some animation => exact .nil replay
  | none => exact run_startNext hActive

/- What queuing a run of commands does. -/
def enqueueEvents
    (replay : Replay)
    (commands : List Command) : List Event :=
  match commands with
  | [] => replay.idleEvents
  | _ =>
      .queued commands ::
        (replay.forget.push commands).idleEvents

theorem run_enqueueAll
    (replay : Replay)
    (commands : List Command) :
    Run replay (replay.enqueueEvents commands)
      (replay.enqueueAll commands).2 := by
  cases commands with
  | nil => exact run_startIfIdle replay
  | cons command commands =>
      rw [enqueueAll_eq replay (by simp)]
      exact .cons (.queued replay _) (run_startIfIdle _)

end Replay

end Gantry

------------------------------------------------------------
-- Letting Time Pass
------------------------------------------------------------

namespace Gantry

namespace Replay

/- A replay whose shown command has resolved. -/
def resolveShown
    (replay : Replay)
    (animation : Animation) : Replay :=
  { replay with active? := none }.settle animation.id
    .resolved

theorem finish_eq
    (replay : Replay)
    (animation : Animation) :
    replay.finish animation =
      (replay.resolveShown animation).startNext := rfl

theorem active?_resolveShown
    (replay : Replay)
    (animation : Animation) :
    (replay.resolveShown animation).active? = none := by
  simp [resolveShown]

theorem tick_of_idle
    {replay : Replay}
    (elapsed : Nat)
    (hIdle : replay.active? = none) :
    replay.tick elapsed = replay := by
  rw [tick]
  split
  · rfl
  · simp_all

/- Too little time only counts toward the shown command. -/
theorem tick_of_short
    {replay : Replay}
    {animation : Animation}
    {elapsed : Nat}
    (hActive : replay.active? = some animation)
    (hShort : elapsed < replay.step - animation.elapsed) :
    replay.tick elapsed =
      { replay with
        active? := some
          { animation with
            elapsed := animation.elapsed + elapsed } } := by
  rw [tick]
  split
  · simp_all
  · rename_i shown hShown
    cases hActive.symm.trans hShown
    rw [if_pos hShort]

/- Enough time finishes it, and the rest of it goes on. -/
theorem tick_of_long
    {replay : Replay}
    {animation : Animation}
    {elapsed : Nat}
    (hActive : replay.active? = some animation)
    (hLong :
      ¬ elapsed < replay.step - animation.elapsed) :
    replay.tick elapsed =
      (replay.finish animation).tick
        (elapsed - (replay.step - animation.elapsed)) := by
  conv => lhs; rw [tick]
  split
  · simp_all
  · rename_i shown hShown
    cases hActive.symm.trans hShown
    rw [if_neg hLong]

/- What happens while time passes. -/
def tickEvents
    (replay : Replay)
    (elapsed : Nat) : List Event :=
  match _ : replay.active? with
  | none => []
  | some animation =>
      let needed := replay.step - animation.elapsed
      if elapsed < needed then
        [.shown elapsed]
      else
        .finished animation.id ::
          ((replay.resolveShown animation).startEvents ++
            tickEvents (replay.finish animation)
              (elapsed - needed))
termination_by replay.pending
decreasing_by
  exact pending_finish_lt replay _ (by assumption)

theorem run_tick
    (replay : Replay)
    (elapsed : Nat) :
    Run replay (replay.tickEvents elapsed)
      (replay.tick elapsed) := by
  fun_induction tickEvents replay elapsed with
  | case1 replay elapsed hActive =>
      rw [tick_of_idle elapsed hActive]
      exact .nil replay
  | case2 replay elapsed animation hActive needed hShort =>
      rw [tick_of_short hActive hShort]
      exact (Step.shown hActive hShort).run
  | case3 replay elapsed animation hActive needed hLong
      ih =>
      rw [tick_of_long hActive hLong]
      refine .cons (.finished hActive) (Run.append ?_ ih)
      exact
        run_startNext
          (active?_resolveShown replay animation)

/- What happens while strides of time pass. -/
def strideEvents
    (stride : Nat) :
    Nat → Replay → List Event
| 0, _ => []
| rounds + 1, replay =>
    if replay.isSettled then
      []
    else
      replay.tickEvents stride ++
        strideEvents stride rounds (replay.tick stride)

theorem run_waitFrom
    (stride rounds waited : Nat)
    (replay : Replay) :
    Run replay (strideEvents stride rounds replay)
      (waitFrom stride rounds waited replay).2 := by
  induction rounds generalizing waited replay with
  | zero => exact .nil replay
  | succ rounds ih =>
      unfold strideEvents waitFrom
      split
      · exact .nil replay
      · exact (run_tick replay stride).append (ih _ _)

/- What happens until everything has settled. -/
def waitEvents
    (replay : Replay) : List Event :=
  strideEvents (max replay.step millisecond)
    replay.pending replay

theorem run_wait
    (replay : Replay) :
    Run replay replay.waitEvents replay.wait.2 :=
  run_waitFrom _ _ _ replay

end Replay

end Gantry

------------------------------------------------------------
-- Operations
------------------------------------------------------------

namespace Gantry

namespace Replay

/- What can be asked of a replay. -/
inductive Operation where
  | enqueue (command : Command)
  | enqueueAll (commands : List Command)
  | tick (elapsed : Nat)
  | wait
  | reset
  | station (pose : Pose) (supply : String)
  | loadWorld (world : World)
  | setCarried (kind? : Option String)
  | setStep (step : Nat)

/- The commands that an operation hands to the queue. -/
def Operation.commands :
    Operation → List Command
| .enqueue command => [command]
| .enqueueAll commands => commands
| _ => []

/- The replay after an operation. -/
def act
    (replay : Replay) :
    Operation → Replay
| .enqueue command => (replay.enqueue command).2
| .enqueueAll commands => (replay.enqueueAll commands).2
| .tick elapsed => replay.tick elapsed
| .wait => replay.wait.2
| .reset => replay.reset
| .station pose supply => replay.station pose supply
| .loadWorld world => replay.loadWorld world
| .setCarried kind? => replay.setCarried kind?
| .setStep step => { replay with step := step }

/- The replay after several operations. -/
def actAll
    (replay : Replay)
    (operations : List Operation) : Replay :=
  operations.foldl act replay

/- What an operation makes happen, in time order. -/
def events
    (replay : Replay) :
    Operation → List Event
| .enqueue command => replay.enqueueEvents [command]
| .enqueueAll commands => replay.enqueueEvents commands
| .tick elapsed => replay.tickEvents elapsed
| .wait => replay.waitEvents
| .reset =>
    [.cancelled (replay.active?.map (·.id)), .handed none]
| .station pose supply =>
    [.cancelled (replay.active?.map (·.id)),
      .stationed pose supply]
| .loadWorld world =>
    [.cancelled (replay.active?.map (·.id)), .loaded world]
| .setCarried kind? => [.handed kind?]
| .setStep step => [.paced step]

/- What several operations make happen, in time order. -/
def history
    (replay : Replay) :
    List Operation → List Event
| [] => []
| operation :: operations =>
    replay.events operation ++
      history (replay.act operation) operations

/- The events of an operation lead to the replay after it. -/
theorem run_events
    (replay : Replay)
    (operation : Operation) :
    Run replay (replay.events operation)
      (replay.act operation) := by
  cases operation with
  | enqueue command => exact run_enqueueAll replay [command]
  | enqueueAll commands =>
      exact run_enqueueAll replay commands
  | tick elapsed => exact run_tick replay elapsed
  | wait => exact run_wait replay
  | reset =>
      exact .cons (.cancelled replay)
        (Step.handed replay.cancelPending none).run
  | station pose supply =>
      exact .cons (.cancelled replay)
        (Step.stationed replay.cancelPending pose supply).run
  | loadWorld world =>
      exact .cons (.cancelled replay)
        (Step.loaded replay.cancelPending world).run
  | setCarried kind? =>
      exact (Step.handed replay kind?).run
  | setStep step => exact (Step.paced replay step).run

theorem run_history
    (replay : Replay)
    (operations : List Operation) :
    Run replay (replay.history operations)
      (replay.actAll operations) := by
  induction operations generalizing replay with
  | nil => exact .nil replay
  | cons operation operations ih =>
      exact (run_events replay operation).append
        (ih (replay.act operation))

/- Later operations only add to what has happened. -/
theorem history_append
    (replay : Replay)
    (operations later : List Operation) :
    replay.history (operations ++ later) =
      replay.history operations ++
        (replay.actAll operations).history later := by
  induction operations generalizing replay with
  | nil => rfl
  | cons operation operations ih =>
      simp only [List.cons_append, history, ih,
        List.append_assoc]
      rfl

/- Numbers are in order after any operations. -/
theorem orderly_actAll
    (world : World)
    (operations : List Operation) :
    ((ofWorld world).actAll operations).Orderly :=
  (run_history (ofWorld world) operations).orderly
    (orderly_ofWorld world)

end Replay

end Gantry
