import Gantry.Proofs.Json.RoundTrip
import Gantry.Proofs.Replay.Clock
import Gantry.Proofs.Session.Reports

/-
  This file says which runs of a session are cut off by its
  clock. A session keeps the step of its configuration,
  whatever is asked of it, and a run takes one such step for
  each command that it applies. So it is cut off just when
  it applies too many, and else it ends as it would on a
  clock without bounds.

  Key definitions include:
    * `Gantry.Session.Timed`
    * `Gantry.Session.actAll?`

  Main statements:
    * `Gantry.Session.timed_actAll`
    * `Gantry.Session.Timed.run?_eq`
    * `Gantry.Session.Timed.check?_eq`
    * `Gantry.Session.Timed.actAll?`
-/

------------------------------------------------------------
-- Steps That Are Kept
------------------------------------------------------------

namespace Gantry

namespace Replay

theorem step_ticks
    (replay : Replay)
    (ticks : List Nat) :
    (ticks.foldl tick replay).step = replay.step := by
  induction ticks generalizing replay with
  | nil => rfl
  | cons elapsed ticks ih =>
      exact (ih _).trans (step_tick replay elapsed)

theorem step_wait
    (replay : Replay) :
    replay.wait.2.step = replay.step := by
  rcases wait_eq_ticks replay with ⟨ticks, hTicks⟩
  rw [hTicks, step_ticks]

/- No operation but one sets another step. -/
theorem step_act
    (replay : Replay)
    {operation : Operation}
    (hOperation : operation.KeepsPace) :
    (replay.act operation).step = replay.step := by
  cases operation with
  | enqueue command => exact step_enqueueAll replay [command]
  | enqueueAll commands =>
      exact step_enqueueAll replay commands
  | tick elapsed => exact step_tick replay elapsed
  | wait => exact step_wait replay
  | reset => exact step_cancelPending replay
  | station pose supply => exact step_cancelPending replay
  | loadWorld world => exact step_cancelPending replay
  | setCarried kind? => rfl
  | setStep step => exact hOperation.elim

end Replay

namespace Session

theorem step_resetLevel
    (session : Session) :
    session.resetLevel.replay.step = session.replay.step :=
  (Replay.step_cancelPending _).trans
    (Replay.step_cancelPending _)

theorem step_start
    (level : Level)
    (config : Config) :
    (start level config).replay.step = config.step :=
  step_resetLevel _

theorem step_replayAll
    (session : Session)
    (transcript : Transcript) :
    (session.replayAll transcript).2.replay.step =
      session.replay.step := by
  rw [replay_replayAll, Replay.step_wait,
    Replay.step_enqueueAll]

theorem step_run
    (session : Session)
    (text : String) :
    (session.run text).2.replay.step =
      session.replay.step := by
  unfold run runProgram
  dsimp only
  split
  · split
    · rfl
    · exact step_replayAll session _
  · rfl

theorem step_act
    (session : Session)
    (action : Action) :
    (session.act action).replay.step =
      session.replay.step := by
  cases action with
  | run text => rw [act, step_run]
  | check text => rw [act_check, step_run, step_resetLevel]
  | resetLevel => exact step_resetLevel session

theorem config_run
    (session : Session)
    (text : String) :
    (session.run text).2.config = session.config := by
  unfold run runProgram
  dsimp only
  split
  · split
    · rfl
    · rfl
  · rfl

end Session

end Gantry

------------------------------------------------------------
-- Sessions With The Step Of Their Configuration
------------------------------------------------------------

namespace Gantry

namespace Session

/-
  A session that is ready, whose replay takes the steps that
  its configuration asks for.
-/
structure Timed
    (config : Config)
    (session : Session) : Prop where
  ready : session.Ready
  config_eq : session.config = config
  step_eq : session.replay.step = config.step

variable {config : Config} {session : Session}

theorem timed_start
    (level : Level)
    (config : Config) :
    (start level config).Timed config where
  ready := ready_start level config
  config_eq := rfl
  step_eq := step_start level config

theorem Timed.resetLevel
    (hTimed : session.Timed config) :
    session.resetLevel.Timed config where
  ready := hTimed.ready.resetLevel
  config_eq := hTimed.config_eq
  step_eq := (step_resetLevel session).trans hTimed.step_eq

theorem Timed.run
    (hTimed : session.Timed config)
    (text : String) :
    (session.run text).2.Timed config where
  ready := hTimed.ready.run text
  config_eq := (config_run session text).trans hTimed.config_eq
  step_eq := (step_run session text).trans hTimed.step_eq

theorem Timed.act
    (hTimed : session.Timed config)
    (action : Action) :
    (session.act action).Timed config := by
  cases action with
  | run text => exact hTimed.run text
  | check text =>
      rw [act_check]
      exact hTimed.resetLevel.run text
  | resetLevel => exact hTimed.resetLevel

/- Whatever was asked of a session, it keeps its steps. -/
theorem timed_actAll
    (level : Level)
    (config : Config)
    (actions : List Action) :
    ((start level config).actAll actions).Timed config := by
  unfold actAll
  refine List.foldlRecOn actions Session.act ?_ ?_
  · exact timed_start level config
  · intro session hTimed action _
    exact hTimed.act action

end Session

end Gantry

------------------------------------------------------------
-- Runs That Fit
------------------------------------------------------------

namespace Gantry

namespace Session

variable {config : Config} {session : Session}

/- A step that has the width of its field can be held. -/
theorem step_le_longestTime
    (hStep : IsCount config.stepMillis) :
    config.step ≤ longestTime := by
  unfold IsCount at hStep
  unfold Config.step longestTime millisecond
  omega

/-
  The time that a replay waits can be held just when it has
  so many seconds as fill 64 bits, for all of its steps.
-/
theorem Timed.wait_le_longestTime_iff
    (hTimed : session.Timed config)
    (transcript : Transcript) :
    (session.replay.enqueueAll
          transcript.commands.toList).2.wait.1 ≤
        longestTime ↔
      (session.replayAll transcript).1.applied *
          config.stepMillis <
        1000 * 2 ^ 64 := by
  have hStepEq := hTimed.step_eq
  have hSteps :
      (session.replayAll transcript).1.applied =
        (session.replay.enqueueAll
          transcript.commands.toList).2.wait.2.resolvedCount
            (session.replay.enqueueAll
              transcript.commands.toList).1 :=
    rfl
  by_cases hInstant : config.stepMillis = 0
  · have hStep :
        (session.replay.enqueueAll
          transcript.commands.toList).2.step = 0 := by
      rw [Replay.step_enqueueAll, hStepEq, Config.step,
        hInstant, Nat.zero_mul]
    have hWait :=
      Replay.wait_of_instant
        (Replay.prompt_enqueueAll session.replay
          transcript.commands.toList) hStep
    rw [hInstant]
    unfold longestTime
    unfold millisecond at hWait
    omega
  · have hStep : millisecond ≤ session.replay.step := by
      rw [hStepEq, Config.step]
      exact Nat.le_mul_of_pos_left _
        (Nat.pos_of_ne_zero hInstant)
    rw [Replay.wait_enqueueAll hTimed.ready.orderly
      hTimed.ready.1 hStep, hSteps, hStepEq, Config.step]
    generalize Replay.resolvedCount _ _ = applied
    have hTime :
        config.stepMillis * millisecond * applied =
          applied * config.stepMillis * 1000000 := by
      rw [Nat.mul_comm (config.stepMillis * millisecond),
        ← Nat.mul_assoc]
      rfl
    rw [hTime]
    unfold longestTime
    omega

theorem Timed.replayAll?_eq
    (hTimed : session.Timed config)
    (hStep : IsCount config.stepMillis)
    (transcript : Transcript) :
    session.replayAll? transcript =
      if (session.replayAll transcript).1.applied *
            config.stepMillis <
          1000 * 2 ^ 64 then
        some (session.replayAll transcript)
      else
        none := by
  have hHeld :
      (session.replay.enqueueAll
          transcript.commands.toList).2.step ≤
        longestTime := by
    rw [Replay.step_enqueueAll, hTimed.step_eq]
    exact step_le_longestTime hStep
  have hFits := hTimed.wait_le_longestTime_iff transcript
  unfold replayAll?
  dsimp only
  rw [Replay.wait?_eq hHeld]
  by_cases hTime :
      (session.replay.enqueueAll
          transcript.commands.toList).2.wait.1 ≤
        longestTime
  · rw [if_pos hTime, if_pos (hFits.mp hTime)]
    rfl
  · rw [if_neg hTime, if_neg (hFits.not.mp hTime)]
    rfl

/-
  A run is cut off just when the steps of all commands that
  it applies are too long together.
-/
theorem Timed.run?_eq
    (hTimed : session.Timed config)
    (hStep : IsCount config.stepMillis)
    (text : String) :
    session.run? text =
      if (session.run text).1.applied * config.stepMillis <
          1000 * 2 ^ 64 then
        some (session.run text)
      else
        none := by
  unfold run?
  dsimp only
  cases hRead :
      (Source.ofText scriptName text).parse.program? with
  | none =>
      simp [run_of_unread session hRead, unreadable]
  | some program =>
      rw [run_of_read session hRead]
      dsimp only
      unfold runProgram?
      dsimp only
      cases hCrash :
          (program.evaluate session.stage).crash? with
      | some crash =>
          simp [runProgram_of_crash session hCrash, evaluated]
      | none =>
          rw [runProgram_of_done session hCrash]
          exact hTimed.replayAll?_eq hStep _

/- A check fits if the run in it does. -/
theorem Timed.check?_eq
    (hTimed : session.resetLevel.Timed config)
    (hStep : IsCount config.stepMillis)
    (text : String) :
    session.check? text =
      if (session.check text).1.1.applied *
            config.stepMillis <
          1000 * 2 ^ 64 then
        some (session.check text)
      else
        none := by
  rw [check?, hTimed.run?_eq hStep, check_eq]
  dsimp only
  split
  · rfl
  · rfl

end Session

end Gantry

------------------------------------------------------------
-- Pasts That Fit
------------------------------------------------------------

namespace Gantry

namespace Session

/- The session after an action, unless it is cut off. -/
def act?
    (session : Session) :
    Action → Option Session
| .run text => (session.run? text).map (·.2)
| .check text => (session.check? text).map (·.2)
| .resetLevel => some session.resetLevel

/- The session after several actions, if none is cut off. -/
def actAll?
    (session : Session)
    (actions : List Action) : Option Session :=
  actions.foldlM act? session

variable {config : Config} {session after : Session}

/- An action that is not cut off ends as it ever does. -/
theorem Timed.act_of_act?
    (hTimed : session.Timed config)
    (hStep : IsCount config.stepMillis)
    {action : Action}
    (hAct : session.act? action = some after) :
    session.act action = after := by
  cases action with
  | run text =>
      rw [act?, hTimed.run?_eq hStep] at hAct
      split at hAct
      · exact Option.some.inj hAct
      · contradiction
  | check text =>
      rw [act?, hTimed.resetLevel.check?_eq hStep] at hAct
      split at hAct
      · exact Option.some.inj hAct
      · contradiction
  | resetLevel => exact Option.some.inj hAct

/- Whatever was asked of a session without being cut off. -/
theorem Timed.actAll?
    (hTimed : session.Timed config)
    (hStep : IsCount config.stepMillis)
    {actions : List Action}
    (hActions : session.actAll? actions = some after) :
    after.Timed config := by
  induction actions generalizing session with
  | nil =>
      cases hActions
      exact hTimed
  | cons action actions ih =>
      rw [Session.actAll?, List.foldlM_cons] at hActions
      rcases Option.bind_eq_some_iff.mp hActions with
        ⟨next, hNext, hRest⟩
      have hLater := hTimed.act action
      rw [hTimed.act_of_act? hStep hNext] at hLater
      exact ih hLater hRest

end Session

end Gantry
