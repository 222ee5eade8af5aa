import Gantry.Proofs.Replay.LookAhead
import Gantry.Proofs.Session.Clock

/-
  This file compares two sessions on one level with different
  pasts. Their replays may differ in the numbers given out,
  in the outcomes on record, and in what was under way; once
  the level has been set up anew, no script tells them apart.
  If they have kept their steps, the clock does not either:
  both runs are cut off, or none is.

  Key definitions include:
    * `Gantry.Session.Move`
    * `Gantry.Session.moveAll`
    * `Gantry.Session.Move.KeepsPace`
    * `Gantry.Session.Alike`

  Main statements:
    * `Gantry.Yard.performAll_unique`
    * `Gantry.Session.Alike.replayAll`
    * `Gantry.Session.Alike.run`
    * `Gantry.Session.On.check`
    * `Gantry.Session.check_forgets_the_past`
-/

------------------------------------------------------------
-- Sessions With A Past
------------------------------------------------------------

namespace Gantry

namespace Session

/-
  What can happen to a session: it is asked something, or its
  replay is driven from outside.
-/
inductive Move where
  | action (action : Action)
  | operation (operation : Replay.Operation)

/- The session after one of these. -/
def move
    (session : Session) :
    Move → Session
| .action action => session.act action
| .operation operation =>
    { session with replay := session.replay.act operation }

/- The session after several of these. -/
def moveAll
    (session : Session)
    (moves : List Move) : Session :=
  moves.foldl move session

/-
  A session on a level, whose replay has come about by
  operations alone. Something may be under way in it.
-/
structure On
    (level : Level)
    (config : Config)
    (session : Session) : Prop where
  level : session.level = level
  config : session.config = config
  replay :
    ∃ world operations,
      session.replay =
        (Replay.ofWorld world).actAll operations

variable {level : Level}
variable {config : Config}

theorem on_start :
    (start level config).On level config where
  level := rfl
  config := rfl
  replay := (ready_start level config).2

/- One more operation on the replay. -/
theorem On.operation
    {session : Session}
    (hOn : session.On level config)
    (operation : Replay.Operation) :
    On level config
      { session with
        replay := session.replay.act operation } := by
  rcases hOn.replay with ⟨world, operations, hReplay⟩
  refine ⟨hOn.level, hOn.config, world,
    operations ++ [operation], ?_⟩
  rw [hReplay]
  simp [Replay.actAll]

theorem On.resetLevel
    {session : Session}
    (hOn : session.On level config) :
    session.resetLevel.On level config :=
  ((hOn.operation (.loadWorld session.level.world)).operation
    (.station session.level.crane.pose
      session.level.crane.supply)).operation
        (.setCarried session.level.carried?)

theorem On.run
    {session : Session}
    (hOn : session.On level config)
    (text : String) :
    (session.run text).2.On level config := by
  unfold Session.run runProgram
  dsimp only
  split
  · split
    · exact hOn
    · exact (hOn.operation (.enqueueAll _)).operation .wait
  · exact hOn

theorem On.move
    {session : Session}
    (hOn : session.On level config)
    (move : Move) :
    (session.move move).On level config := by
  cases move with
  | action action =>
      cases action with
      | run text => exact hOn.run text
      | check text =>
          rw [Session.move, act_check]
          exact hOn.resetLevel.run text
      | resetLevel => exact hOn.resetLevel
  | operation operation => exact hOn.operation operation

theorem on_moveAll
    (moves : List Move) :
    ((start level config).moveAll moves).On level config := by
  unfold moveAll
  refine List.foldlRecOn moves Session.move on_start ?_
  intro session hOn move _
  exact hOn.move move

end Session

end Gantry

------------------------------------------------------------
-- Pasts That Keep The Step
------------------------------------------------------------

namespace Gantry

namespace Session

/- It does not set another step for the replay. -/
def Move.KeepsPace :
    Move → Prop
| .action _ => True
| .operation driven => driven.KeepsPace

theorem step_move
    (session : Session)
    {move : Move}
    (hMove : move.KeepsPace) :
    (session.move move).replay.step =
      session.replay.step := by
  cases move with
  | action action => exact step_act session action
  | operation operation =>
      exact Replay.step_act session.replay hMove

theorem step_moveAll
    (session : Session)
    {moves : List Move}
    (hMoves : ∀ move ∈ moves, move.KeepsPace) :
    (session.moveAll moves).replay.step =
      session.replay.step := by
  induction moves generalizing session with
  | nil => rfl
  | cons move moves ih =>
      rw [List.forall_mem_cons] at hMoves
      exact (ih (session.move move) hMoves.2).trans
        (step_move session hMoves.1)

end Session

end Gantry

------------------------------------------------------------
-- The First Command That Fails
------------------------------------------------------------

namespace Gantry

/-
  Commands are carried out up to the first that fails, which
  leaves one way to cut them in two.
-/
theorem Yard.performAll_unique
    {yard after other : Yard}
    {done left more rest : List Command}
    (hParts : done ++ left = more ++ rest)
    (hDone : yard.performAll done = .ok after)
    (hLeft :
      ∀ command later, left = command :: later →
        ∃ failure, after.perform command = .error failure)
    (hMore : yard.performAll more = .ok other)
    (hRest :
      ∀ command later, rest = command :: later →
        ∃ failure, other.perform command = .error failure) :
    done = more ∧ left = rest := by
  induction done generalizing yard more with
  | nil =>
      cases hDone
      cases more with
      | nil => exact ⟨rfl, hParts⟩
      | cons command more =>
          rcases hLeft command _ hParts with
            ⟨failure, hFails⟩
          rcases performAll_cons hMore with
            ⟨middle, hPerform, _⟩
          rw [hFails] at hPerform
          contradiction
  | cons command done ih =>
      rcases performAll_cons hDone with
        ⟨middle, hPerform, hDone⟩
      cases more with
      | nil =>
          cases hMore
          rcases hRest command _ hParts.symm with
            ⟨failure, hFails⟩
          rw [hFails] at hPerform
          contradiction
      | cons first more =>
          rcases List.cons.inj hParts with ⟨rfl, hTails⟩
          rcases performAll_cons hMore with
            ⟨same, hSame, hMore⟩
          rw [hPerform] at hSame
          cases hSame
          rcases ih hTails hDone hMore with ⟨rfl, rfl⟩
          exact ⟨rfl, rfl⟩

end Gantry

------------------------------------------------------------
-- Sessions That Are Alike
------------------------------------------------------------

namespace Gantry

namespace Session

/- Two sessions on the same level, with their yards alike. -/
structure Alike
    (one other : Session) : Prop where
  config : one.config = other.config
  yard : one.replay.yard = other.replay.yard

variable {one other : Session}

/- Where the level is set up anew, the past is gone. -/
theorem On.alike_resetLevel
    {level : Level}
    {config : Config}
    (hOne : one.On level config)
    (hOther : other.On level config) :
    one.resetLevel.Alike other.resetLevel where
  config := hOne.config.trans hOther.config.symm
  yard := by
    have hLevel : one.level = other.level :=
      hOne.level.trans hOther.level.symm
    simp [Session.resetLevel, Replay.setCarried,
      Replay.station, Replay.loadWorld,
      Replay.cancelPending_eq, hLevel]

theorem Alike.stage
    (hAlike : one.Alike other) :
    one.stage = other.stage := by
  unfold Session.stage Session.world Session.crane
  rw [hAlike.config, hAlike.yard]

/-
  The same commands get equally far, whatever numbers they
  are given and wherever their outcomes are recorded.
-/
theorem Alike.replayAll
    (hAlike : one.Alike other)
    (hOne : one.Ready)
    (hOther : other.Ready)
    (transcript : Transcript) :
    (one.replayAll transcript).1 =
        (other.replayAll transcript).1 ∧
      (one.replayAll transcript).2.Alike
        (other.replayAll transcript).2 := by
  rcases hOne.replayAll_reports transcript with
    ⟨done, left, hParts, hApplied, hPerformed, hNone,
      hFails⟩
  rcases hOther.replayAll_reports transcript with
    ⟨more, rest, hOthers, hCount, hReached, hEmpty,
      hRefused⟩
  rw [← hAlike.yard] at hReached
  rcases Yard.performAll_unique (hParts.symm.trans hOthers)
      hPerformed
      (fun command later hLeft =>
        (hFails command later hLeft).imp fun _ => And.left)
      hReached
      (fun command later hRest =>
        (hRefused command later hRest).imp fun _ =>
          And.left) with
    ⟨rfl, rfl⟩
  rw [hPerformed] at hReached
  have hYard := Except.ok.inj hReached
  have hError :
      (one.replayAll transcript).1.error? =
        (other.replayAll transcript).1.error? := by
    cases left with
    | nil => rw [hNone rfl, hEmpty rfl]
    | cons command later =>
        rcases hFails command later rfl with
          ⟨failure, hFailure, hText⟩
        rcases hRefused command later rfl with
          ⟨reason, hReason, hOtherText⟩
        rw [← hYard, hFailure] at hReason
        cases hReason
        rw [hText, hOtherText]
  refine ⟨?_, hAlike.config, hYard⟩
  have hCount := hApplied.trans hCount.symm
  calc (one.replayAll transcript).1
      = { evaluated transcript with
          error? := (one.replayAll transcript).1.error?
          applied := (one.replayAll transcript).1.applied } :=
        rfl
    _ = { evaluated transcript with
          error? := (other.replayAll transcript).1.error?
          applied :=
            (other.replayAll transcript).1.applied } := by
        rw [hError, hCount]
    _ = (other.replayAll transcript).1 := rfl

/- A script does not tell such sessions apart. -/
theorem Alike.run
    (hAlike : one.Alike other)
    (hOne : one.Ready)
    (hOther : other.Ready)
    (text : String) :
    (one.run text).1 = (other.run text).1 ∧
      (one.run text).2.Alike (other.run text).2 := by
  cases hParse :
      (Source.ofText scriptName text).parse.program? with
  | none =>
      rw [run_of_unread one hParse, run_of_unread other hParse]
      exact ⟨rfl, hAlike⟩
  | some program =>
      rw [run_of_read one hParse, run_of_read other hParse]
      cases hCrash : (program.evaluate one.stage).crash? with
      | some crash =>
          have hOtherCrash := hCrash
          rw [hAlike.stage] at hOtherCrash
          rw [runProgram_of_crash one hCrash,
            runProgram_of_crash other hOtherCrash,
            hAlike.stage]
          exact ⟨rfl, hAlike⟩
      | none =>
          have hOtherCrash := hCrash
          rw [hAlike.stage] at hOtherCrash
          rw [runProgram_of_done one hCrash,
            runProgram_of_done other hOtherCrash,
            hAlike.stage]
          exact hAlike.replayAll hOne hOther _

/- Once it is set up anew, it is timed by its own steps. -/
theorem On.timed_resetLevel
    {level : Level}
    {config : Config}
    (hOn : one.On level config)
    (hStep : one.replay.step = config.step) :
    one.resetLevel.Timed config where
  ready := by
    rcases hOn.replay with ⟨_, _, hReplay⟩
    exact ready_resetLevel hReplay
  config_eq := hOn.config
  step_eq := (step_resetLevel one).trans hStep

/- No check tells apart what has happened before it. -/
theorem On.check
    {level : Level}
    {config : Config}
    (hOne : one.On level config)
    (hOther : other.On level config)
    (text : String) :
    (one.check text).1 = (other.check text).1 ∧
      (one.check text).2.replay.yard =
        (other.check text).2.replay.yard := by
  rcases hOne.replay with ⟨_, _, hReplay⟩
  rcases hOther.replay with ⟨_, _, hOtherReplay⟩
  rcases (hOne.alike_resetLevel hOther).run
      (ready_resetLevel hReplay)
      (ready_resetLevel hOtherReplay) text with
    ⟨hReport, hAlike⟩
  have hGoals :
      (one.resetLevel.run text).2.goalReport =
        (other.resetLevel.run text).2.goalReport := by
    unfold goalReport world
    rw [hAlike.yard]
  rw [check_eq, check_eq, hReport, hGoals]
  dsimp only
  exact ⟨rfl, hAlike.yard⟩

/- The answer to a check, and the yard that it leaves. -/
def answerAndYard
    (ended : (Report × GoalReport) × Session) :
    (Report × GoalReport) × Yard :=
  (ended.1, ended.2.replay.yard)

/-
  A check of a script gives the same report, finds the goals
  the same way, and leaves the same world, crane and supply
  on a session that has been through anything as on one that
  has just been started. With the clock that can overflow,
  this is so unless another step has been set: the check is
  cut off on both sessions or on none.
-/
theorem check_forgets_the_past
    (level : Level)
    (config : Config)
    (moves : List Move)
    (text : String) :
    let fresh := start level config
    let session := fresh.moveAll moves
    ((session.check text).1 = (fresh.check text).1 ∧
      (session.check text).2.replay.yard =
        (fresh.check text).2.replay.yard) ∧
    (IsCount config.stepMillis →
      (∀ move ∈ moves, move.KeepsPace) →
      (session.check? text).map answerAndYard =
        (fresh.check? text).map answerAndYard) := by
  intro fresh session
  have hFresh : fresh.On level config := on_start
  have hSession : session.On level config :=
    on_moveAll moves
  have hCheck := hSession.check hFresh text
  refine ⟨hCheck, fun hStep hMoves => ?_⟩
  have hTimed : session.resetLevel.Timed config :=
    hSession.timed_resetLevel
      ((step_moveAll fresh hMoves).trans
        (step_start level config))
  have hFreshTimed : fresh.resetLevel.Timed config :=
    hFresh.timed_resetLevel (step_start level config)
  rw [hTimed.check?_eq hStep, hFreshTimed.check?_eq hStep,
    hCheck.1]
  split
  · rw [Option.map_some, Option.map_some, answerAndYard,
      answerAndYard, hCheck.1, hCheck.2]
  · rfl

end Session

end Gantry
