import Gantry.Machine
import Gantry.Proofs.Replay.ExactlyOnce
import Gantry.Proofs.Replay.Sequence

/-
  This file compares where a crane is expected to be with
  where a replay puts it. Looking ahead folds moves and turns
  without any regard to walls; a replay carries commands out
  one by one. At every moment of a replay the two agree on
  the commands that have been carried out.

  Key definitions include:
    * `Gantry.Replay.Event.pose`
    * `Gantry.Replay.Event.isOwn`
    * `Gantry.Command.isStride`

  Main statements:
    * `Gantry.Yard.pose_performAll`
    * `Gantry.Machine.look_eq_of_performAll`
    * `Gantry.Replay.Run.pose_eq_follow`
    * `Gantry.Replay.Run.applied_append_rest`
    * `Gantry.Replay.lookAhead_agrees_with_replay`
-/

------------------------------------------------------------
-- What Commands Do To The Pose
------------------------------------------------------------

namespace Gantry

/- The command only moves or turns the crane. -/
def Command.isStride
    (command : Command) : Bool :=
  match command.verb with
  | .move => true
  | .turnLeft => true
  | .turnRight => true
  | _ => false

namespace Pose

theorem follow_cons
    (pose : Pose)
    (command : Command)
    (rest : List Command) :
    pose.follow (command :: rest) =
      (pose.step command).follow rest := rfl

end Pose

namespace Yard

theorem pose_takeTop
    {yard after : Yard}
    {verb : Verb}
    {block : Placement}
    (hTake : yard.takeTop verb = .ok (block, after)) :
    after.crane.pose = yard.crane.pose := by
  unfold takeTop at hTake
  dsimp only at hTake
  split at hTake
  · cases hTake
    rfl
  · cases hTake

theorem pose_stack
    {yard after : Yard}
    {verb : Verb}
    {kind : String}
    (hStack : yard.stack verb kind = .ok after) :
    after.crane.pose = yard.crane.pose := by
  unfold stack at hStack
  dsimp only at hStack
  split at hStack
  · cases hStack
    rfl
  · cases hStack

theorem pose_lift
    {yard after : Yard}
    (hLift : yard.lift = .ok after) :
    after.crane.pose = yard.crane.pose := by
  unfold lift at hLift
  split at hLift
  · cases hLift
  · split at hLift
    · cases hLift
    · rename_i block middle hTake
      cases hLift
      change middle.crane.pose = yard.crane.pose
      exact pose_takeTop hTake

theorem pose_place
    {yard after : Yard}
    (hPlace : yard.place = .ok after) :
    after.crane.pose = yard.crane.pose := by
  unfold place at hPlace
  cases hStack :
      yard.stack .place
        (yard.crane.carried?.getD yard.supply) with
  | error failure =>
      rw [hStack] at hPlace
      cases hPlace
  | ok middle =>
      rw [hStack] at hPlace
      cases hPlace
      change middle.crane.pose = yard.crane.pose
      exact pose_stack hStack

theorem pose_dig
    {yard after : Yard}
    (hDig : yard.dig = .ok after) :
    after.crane.pose = yard.crane.pose := by
  unfold dig at hDig
  cases hTake : yard.takeTop .dig with
  | error failure =>
      rw [hTake] at hDig
      cases hDig
  | ok found =>
      rw [hTake] at hDig
      cases hDig
      exact pose_takeTop hTake

/- Moves and turns change nothing but the pose. -/
theorem eq_turn_of_perform
    {yard after : Yard}
    {command : Command}
    (hStride : command.isStride = true)
    (hPerform : yard.perform command = .ok after) :
    after = yard.turn (·.step command) := by
  unfold perform at hPerform
  unfold Pose.step
  cases hVerb : command.verb with
  | move =>
      simp only [hVerb, move] at hPerform
      split at hPerform
      · cases hPerform
        rfl
      · cases hPerform
  | turnLeft =>
      simp only [hVerb] at hPerform
      cases hPerform
      rfl
  | turnRight =>
      simp only [hVerb] at hPerform
      cases hPerform
      rfl
  | _ => simp [Command.isStride, hVerb] at hStride

/-
  A command that succeeds leaves the crane where looking
  ahead expects it.
-/
theorem pose_perform
    {yard after : Yard}
    {command : Command}
    (hPerform : yard.perform command = .ok after) :
    after.crane.pose = yard.crane.pose.step command := by
  by_cases hStride : command.isStride = true
  · rw [eq_turn_of_perform hStride hPerform]
    rfl
  · unfold perform at hPerform
    unfold Pose.step
    cases hVerb : command.verb with
    | lift =>
        rw [hVerb] at hPerform
        exact pose_lift hPerform
    | place =>
        rw [hVerb] at hPerform
        exact pose_place hPerform
    | placeBlock =>
        rw [hVerb] at hPerform
        exact pose_stack hPerform
    | dig =>
        rw [hVerb] at hPerform
        exact pose_dig hPerform
    | _ => simp [Command.isStride, hVerb] at hStride

theorem performAll_cons
    {yard after : Yard}
    {command : Command}
    {rest : List Command}
    (hPerform :
      yard.performAll (command :: rest) = .ok after) :
    ∃ middle,
      yard.perform command = .ok middle ∧
        middle.performAll rest = .ok after := by
  unfold performAll at hPerform
  rw [List.foldlM_cons] at hPerform
  cases hFirst : yard.perform command with
  | error failure =>
      rw [hFirst] at hPerform
      cases hPerform
  | ok middle =>
      rw [hFirst] at hPerform
      exact ⟨middle, rfl, hPerform⟩

theorem pose_performAll
    {yard after : Yard}
    {commands : List Command}
    (hPerform : yard.performAll commands = .ok after) :
    after.crane.pose = yard.crane.pose.follow commands := by
  induction commands generalizing yard with
  | nil =>
      cases hPerform
      rfl
  | cons command rest ih =>
      rcases performAll_cons hPerform with
        ⟨middle, hFirst, hRest⟩
      rw [ih hRest, pose_perform hFirst, Pose.follow_cons]

theorem world_performAll
    {yard after : Yard}
    {commands : List Command}
    (hStrides :
      ∀ command ∈ commands, command.isStride = true)
    (hPerform : yard.performAll commands = .ok after) :
    after.world = yard.world := by
  induction commands generalizing yard with
  | nil =>
      cases hPerform
      rfl
  | cons command rest ih =>
      rcases performAll_cons hPerform with
        ⟨middle, hFirst, hRest⟩
      rw [ih (fun other hOther =>
        hStrides other (List.mem_cons_of_mem _ hOther)) hRest]
      rw [eq_turn_of_perform
        (hStrides command List.mem_cons_self) hFirst]
      rfl

end Yard

namespace Machine

theorem predictedPose_eq_follow
    (machine : Machine)
    (stage : Stage) :
    machine.predictedPose stage =
      stage.pose.follow
        machine.transcript.commands.toList := by
  unfold predictedPose Pose.follow
  rw [Array.foldl_toList]

/-
  A script that has recorded nothing but moves and turns is
  told what is ahead after they have succeeded.
-/
theorem look_eq_of_performAll
    {machine : Machine}
    {stage : Stage}
    {yard after : Yard}
    (hWorld : stage.world = yard.world)
    (hPose : stage.pose = yard.crane.pose)
    (hStrides :
      ∀ command ∈ machine.transcript.commands.toList,
        command.isStride = true)
    (hPerform :
      yard.performAll machine.transcript.commands.toList =
        .ok after) :
    machine.look stage = after.look := by
  rw [look, Yard.look, predictedPose_eq_follow, hPose,
    hWorld, Yard.pose_performAll hPerform,
    Yard.world_performAll hStrides hPerform]

end Machine

end Gantry

------------------------------------------------------------
-- The Pose Along A Run
------------------------------------------------------------

namespace Gantry

namespace Replay

/- What an event does to the pose of the crane. -/
def Event.pose
    (pose : Pose) :
    Event → Pose
| .applied _ command => pose.step command
| .stationed other _ => other
| _ => pose

/- The replay itself does this, and not someone outside. -/
def Event.isOwn :
    Event → Bool
| .applied _ _ => true
| .refused _ _ => true
| .shown _ => true
| .finished _ => true
| .queued _ => true
| _ => false

theorem Step.pose
    {replay after : Replay}
    {event : Event}
    (hStep : Step replay event after) :
    after.yard.crane.pose =
      event.pose replay.yard.crane.pose := by
  have hEffect := hStep.effect
  cases hStep with
  | applied hIdle hQueue hPerform =>
      exact Yard.pose_perform hPerform
  | stationed pose supply => rfl
  | loaded world => rfl
  | handed kind? => rfl
  | _ =>
      rw [← Except.ok.inj hEffect]
      rfl

/-
  Along a run that nobody interferes with, the crane goes
  where the commands carried out take it.
-/
theorem Run.pose_eq_follow
    {replay after : Replay}
    {events : List Event}
    (hRun : Run replay events after)
    (hOwn : ∀ event ∈ events, event.isOwn = true) :
    after.yard.crane.pose =
      replay.yard.crane.pose.follow
        ((applied events).map (·.2)) := by
  induction hRun with
  | nil => rfl
  | @cons start middle stop event events hStep hRun ih =>
      rw [ih fun other hOther =>
        hOwn other (List.mem_cons_of_mem _ hOther),
        hStep.pose]
      cases event with
      | applied id command => rfl
      | stationed pose supply =>
          cases hOwn _ List.mem_cons_self
      | _ => rfl

/- A run can be stopped at any of its moments. -/
theorem Run.split
    {start stop : Replay}
    {before later : List Event}
    (hRun : Run start (before ++ later) stop) :
    ∃ middle,
      Run start before middle ∧ Run middle later stop := by
  induction before generalizing start with
  | nil => exact ⟨start, .nil start, hRun⟩
  | cons event before ih =>
      cases hRun with
      | cons hStep hRest =>
          rcases ih hRest with ⟨middle, hBefore, hLater⟩
          exact ⟨middle, .cons hStep hBefore, hLater⟩

theorem own_startEvents
    (replay : Replay) :
    ∀ event ∈ replay.startEvents,
      event.isOwn = true := by
  unfold startEvents
  split
  · simp
  · split <;> simp [Event.isOwn]

theorem own_idleEvents
    (replay : Replay) :
    ∀ event ∈ replay.idleEvents,
      event.isOwn = true := by
  unfold idleEvents
  split
  · simp
  · exact own_startEvents replay

theorem own_tickEvents
    (replay : Replay)
    (elapsed : Nat) :
    ∀ event ∈ replay.tickEvents elapsed,
      event.isOwn = true := by
  fun_induction tickEvents replay elapsed with
  | case1 => simp
  | case2 => simp [Event.isOwn]
  | case3 replay elapsed animation hActive needed hLong
      ih =>
      intro event hEvent
      rcases List.mem_cons.mp hEvent with rfl | hEvent
      · rfl
      · rcases List.mem_append.mp hEvent with
          hStart | hLater
        · exact own_startEvents _ event hStart
        · exact ih event hLater

theorem own_ticks
    (replay : Replay)
    (ticks : List Nat) :
    ∀ event ∈ replay.history (ticks.map .tick),
      event.isOwn = true := by
  induction ticks generalizing replay with
  | nil => simp [history]
  | cons elapsed ticks ih =>
      intro event hEvent
      rcases List.mem_append.mp hEvent with hHere | hLater
      · exact own_tickEvents replay elapsed event hHere
      · exact ih _ event hLater

theorem issued_ticks
    (replay : Replay)
    (ticks : List Nat) :
    issued (replay.history (ticks.map .tick)) = [] := by
  rw [issued_history]
  simp [Operation.commands]

theorem actAll_ticks
    (replay : Replay)
    (ticks : List Nat) :
    replay.actAll (ticks.map .tick) =
      ticks.foldl tick replay := by
  unfold actAll
  rw [List.foldl_map]
  rfl

end Replay

end Gantry

------------------------------------------------------------
-- The Queue Along A Run
------------------------------------------------------------

namespace Gantry

namespace Replay

/-
  While nothing is queued, what is carried out comes off the
  front of the queue. What is left of it waits, unless it was
  dropped.
-/
theorem Run.applied_append_rest
    {replay after : Replay}
    {events : List Event}
    (hRun : Run replay events after)
    (hOrderly : replay.Orderly)
    (hIssued : issued events = []) :
    ∃ rest, replay.queue = applied events ++ rest ∧
      (after.queue = rest ∨ after.queue = []) := by
  induction hRun with
  | nil replay => exact ⟨replay.queue, rfl, Or.inl rfl⟩
  | @cons start middle stop event events hStep hRun ih =>
      have hIssued :
          event.issued = [] ∧ issued events = [] := by
        simpa [issued] using hIssued
      rcases ih (hStep.orderly hOrderly) hIssued.2 with
        ⟨rest, hQueue, hAfter⟩
      rcases hStep.queue hOrderly with
        ⟨commands, rfl, hGrown⟩ |
        ⟨id, command, rfl, hTaken⟩ |
        ⟨_, hNone, hDropped | hSame⟩
      · have hNothing : commands = [] := hIssued.1
        rw [hNothing] at hGrown
        refine ⟨rest, ?_, hAfter⟩
        rw [← List.append_nil start.queue]
        exact hGrown.symm.trans hQueue
      · refine ⟨rest, ?_, hAfter⟩
        rw [hTaken, hQueue]
        rfl
      · -- a queue that was dropped stays empty, so that
        -- nothing more is carried out
        rw [hDropped] at hQueue
        have hEmpty := List.append_eq_nil_iff.mp hQueue.symm
        refine ⟨start.queue, ?_, Or.inr ?_⟩
        · simp [applied, hNone,
            show events.filterMap Event.application? = []
              from hEmpty.1]
        · rcases hAfter with hAfter | hAfter
          · exact hAfter.trans hEmpty.2
          · exact hAfter
      · refine ⟨rest, ?_, hAfter⟩
        rw [← hSame, hQueue]
        simp [applied, hNone]

end Replay

end Gantry

------------------------------------------------------------
-- Looking Ahead
------------------------------------------------------------

namespace Gantry

namespace Replay

theorem isSettled_iff
    (replay : Replay) :
    replay.isSettled ↔
      replay.active? = none ∧ replay.queue = [] := by
  simp [isSettled]

section Moments

/-
  A settled replay gets a run of commands, and time passes.
  The events up to some moment are `before`, and `now` is
  the replay at that moment.
-/
variable
    {replay now : Replay}
    {commands : List Command}
    {ticks : List Nat}
    {before later : List Event}
    (hSplit :
      replay.history
          (.enqueueAll commands :: ticks.map .tick) =
        before ++ later)
    (hRun : Run replay before now)

include hSplit

theorem own_moment :
    ∀ event ∈ before, event.isOwn = true := by
  intro event hEvent
  have hMember :
      event ∈ replay.history
        (.enqueueAll commands :: ticks.map .tick) := by
    rw [hSplit]
    exact List.mem_append_left _ hEvent
  rcases List.mem_append.mp hMember with hStart | hTicks
  · cases commands with
    | nil => exact own_idleEvents replay event hStart
    | cons command rest =>
        rcases List.mem_cons.mp hStart with rfl | hStart
        · rfl
        · exact own_idleEvents _ event hStart
  · exact own_ticks _ ticks event hTicks

include hRun

/- The commands carried out so far are the first ones. -/
theorem applied_moment
    (hOrderly : replay.Orderly)
    (hSettled : replay.isSettled) :
    ∃ count,
      applied before =
        (numberedFrom replay.nextId commands).take
          count := by
  have hQueue := ((isSettled_iff replay).mp hSettled).2
  cases commands with
  | nil =>
      have hIssued : issued before = [] := by
        have hAll :
            issued before ++ issued later = [] := by
          rw [← issued_append, ← hSplit, issued_history]
          simp [Operation.commands]
        exact (List.append_eq_nil_iff.mp hAll).1
      rcases hRun.applied_append_rest hOrderly hIssued with
        ⟨rest, hRest, _⟩
      rw [hQueue] at hRest
      refine ⟨0, ?_⟩
      exact (List.append_eq_nil_iff.mp hRest.symm).1
  | cons command others =>
      cases before with
      | nil => exact ⟨0, rfl⟩
      | cons event before =>
          simp only [history, events, enqueueEvents,
            List.cons_append, List.cons.injEq] at hSplit
          rcases hSplit with ⟨rfl, hSplit⟩
          have hIssued : issued before = [] := by
            have hAll :
                issued before ++ issued later = [] := by
              rw [← issued_append, ← hSplit, issued_append,
                issued_idleEvents, issued_ticks]
              rfl
            exact (List.append_eq_nil_iff.mp hAll).1
          cases hRun with
          | cons hStep hRest =>
              cases hStep with
              | queued _ =>
                  rcases hRest.applied_append_rest
                      (hOrderly.forget.push _) hIssued with
                    ⟨rest, hRest, _⟩
                  simp only [push, queue_forget, hQueue,
                    List.nil_append,
                    hOrderly.nextId_forget] at hRest
                  refine ⟨(applied before).length, ?_⟩
                  rw [hRest, List.take_left]
                  rfl

/- The crane is where they take it. -/
theorem pose_moment
    {count : Nat}
    (hCommands :
      (applied before).map (·.2) = commands.take count) :
    now.yard.crane.pose =
      replay.yard.crane.pose.follow
        (commands.take count) := by
  rw [hRun.pose_eq_follow (own_moment hSplit), hCommands]

end Moments

theorem commands_numberedFrom
    (first : Nat)
    (commands : List Command) :
    (numberedFrom first commands).map (·.2) = commands := by
  unfold numberedFrom
  rw [List.map_map]
  change commands.zipIdx.map (·.1) = commands
  exact List.zipIdx_map_fst 0 commands

/-
  If all commands of a run have resolved, all of them have
  been carried out: no others have their numbers.
-/
theorem applied_of_resolved
    {replay final : Replay}
    {commands : List Command}
    {events : List Event}
    {done stopped : List Nat}
    {count : Nat}
    (hRun : Run replay events final)
    (hOrderly : replay.Orderly)
    (hHonest : Honest done stopped replay)
    (hApplied :
      applied events =
        (numberedFrom replay.nextId commands).take count)
    (hResolved :
      ∀ i, i < commands.length →
        final.outcome? (replay.nextId + i) =
          some .resolved) :
    applied events =
      numberedFrom replay.nextId commands := by
  rw [hApplied]
  apply List.take_of_length_le
  rw [← List.length_map (·.1), ids_numberedFrom,
    List.length_range']
  apply Nat.le_of_not_lt
  intro hShort
  have hDone :
      replay.nextId + count ∈ done ++ appliedIds events :=
    (hRun.honest hOrderly hHonest).told _ _
      (hResolved count hShort)
  rcases List.mem_append.mp hDone with hBefore | hHere
  · have hStarted := hHonest.started _ hBefore
    unfold firstWaiting at hStarted
    omega
  · rw [appliedIds, hApplied, List.map_take,
      ids_numberedFrom, List.range'_eq_map_range,
      ← List.map_take, List.take_range] at hHere
    simp only [List.mem_map, List.mem_range] at hHere
    rcases hHere with ⟨i, hI, hEq⟩
    omega

/- Every number of applied commands has its moment. -/
theorem exists_moment
    (events : List Event)
    (count : Nat)
    (hCount : count ≤ (applied events).length) :
    ∃ before later,
      events = before ++ later ∧
        applied before = (applied events).take count := by
  induction events generalizing count with
  | nil => exact ⟨[], [], rfl, by simp [applied]⟩
  | cons event events ih =>
      cases hApplied : event.application? with
      | none =>
          have hSame :
              applied (event :: events) =
                applied events := by
            simp [applied, hApplied]
          rw [hSame] at hCount ⊢
          rcases ih count hCount with
            ⟨before, later, hSplit, hBefore⟩
          refine ⟨event :: before, later, by simp [hSplit],
            ?_⟩
          rw [← hBefore]
          simp [applied, hApplied]
      | some application =>
          have hCons :
              applied (event :: events) =
                application :: applied events := by
            simp [applied, hApplied]
          cases count with
          | zero => exact ⟨[], event :: events, rfl, rfl⟩
          | succ count =>
              rw [hCons] at hCount ⊢
              rcases ih count (by simpa using hCount) with
                ⟨before, later, hSplit, hBefore⟩
              refine ⟨event :: before, later,
                by simp [hSplit], ?_⟩
              rw [List.take_succ_cons, ← hBefore]
              simp [applied, hApplied]

/-
  When the commands of a run are all carried out, each part
  of it from its start has its moment.
-/
theorem exists_moment_of_applied
    {replay final : Replay}
    {commands : List Command}
    {ticks : List Nat}
    (hRun :
      Run replay
        (replay.history
          (.enqueueAll commands :: ticks.map .tick))
        final)
    (hApplied :
      applied
          (replay.history
            (.enqueueAll commands :: ticks.map .tick)) =
        numberedFrom replay.nextId commands)
    {count : Nat}
    (hCount : count ≤ commands.length) :
    ∃ before later now,
      replay.history
          (.enqueueAll commands :: ticks.map .tick) =
        before ++ later ∧
        Run replay before now ∧
        (applied before).map (·.2) =
          commands.take count ∧
        now.yard.crane.pose =
          replay.yard.crane.pose.follow
            (commands.take count) := by
  have hLength :
      count ≤
        (applied
          (replay.history
            (.enqueueAll commands ::
              ticks.map .tick))).length := by
    rw [hApplied, ← List.length_map (·.2),
      commands_numberedFrom]
    exact hCount
  rcases exists_moment _ count hLength with
    ⟨before, later, hSplit, hBefore⟩
  have hCommands :
      (applied before).map (·.2) =
        commands.take count := by
    rw [hBefore, hApplied, List.map_take,
      commands_numberedFrom]
  rcases Run.split (hSplit ▸ hRun) with ⟨now, hNow, _⟩
  exact ⟨before, later, now, hSplit, hNow, hCommands,
    pose_moment hSplit hNow hCommands⟩

section Ends

/- A run of commands has come to its end. -/
variable
    {yard : Yard}
    {first : Nat}
    {done left : List Command}
    {replay : Replay}
    (hConcluded : Concluded yard first done left replay)

include hConcluded

/- A run that has resolved leaves no command undone. -/
theorem Concluded.left_of_resolved
    (hResolved :
      replay.poll ⟨first, (done ++ left).length⟩ =
        some .resolved) :
    left = [] := by
  cases left with
  | nil => rfl
  | cons command rest =>
      rcases hConcluded.poll.2 command rest rfl with
        ⟨failure, _, hRejected⟩
      rw [hRejected] at hResolved
      cases hResolved

/- A run that was rejected stopped at a failing command. -/
theorem Concluded.fails_of_rejected
    {failure : CraneFailure}
    (hRejected :
      replay.poll ⟨first, (done ++ left).length⟩ =
        some (.rejected failure)) :
    ∃ command,
      (done ++ left)[done.length]? = some command ∧
        replay.yard.perform command = .error failure := by
  cases left with
  | nil =>
      rw [hConcluded.poll.1 rfl] at hRejected
      cases hRejected
  | cons command rest =>
      rcases hConcluded.poll.2 command rest rfl with
        ⟨cause, hPerform, hCause⟩
      rw [hCause] at hRejected
      cases hRejected
      refine ⟨command, ?_, hPerform⟩
      rw [List.getElem?_append_right (Nat.le_refl _),
        Nat.sub_self]
      rfl

end Ends

/-
  A run of commands given to a settled replay, whose crane
  is in some `pose`. At every moment until all has settled,
  the commands carried out are the first ones of the run,
  and the crane is where they take it according to looking
  ahead. If the run resolves, each part of it from its start
  has such a moment; if it fails, the crane stays where the
  commands before the failing one take it. And what a script
  is told to be ahead after recording only moves and turns
  is what is ahead once they have resolved.
-/
theorem lookAhead_agrees_with_replay
    (world : World)
    (operations : List Operation)
    (commands : List Command)
    (ticks : List Nat)
    (hSettled :
      ((ofWorld world).actAll operations).isSettled)
    (hFinal :
      (ticks.foldl tick
        (((ofWorld world).actAll operations).enqueueAll
          commands).2).isSettled) :
    let replay := (ofWorld world).actAll operations
    let pose := replay.yard.crane.pose
    let run := (replay.enqueueAll commands).1
    let final := ticks.foldl tick (replay.enqueueAll commands).2
    let events :=
      replay.history (.enqueueAll commands :: ticks.map .tick)
    Run replay events final ∧
    (∀ before later now, events = before ++ later →
      Run replay before now →
        ∃ count,
          (applied before).map (·.2) = commands.take count ∧
            now.yard.crane.pose =
              pose.follow (commands.take count)) ∧
    (final.poll run = some .resolved →
      final.yard.crane.pose = pose.follow commands ∧
        ∀ count, count ≤ commands.length →
          ∃ before later now,
            events = before ++ later ∧
              Run replay before now ∧
              (applied before).map (·.2) =
                commands.take count ∧
              now.yard.crane.pose =
                pose.follow (commands.take count)) ∧
    (∀ failure, final.poll run = some (.rejected failure) →
      ∃ k command,
        commands[k]? = some command ∧
          final.yard.perform command = .error failure ∧
          final.resolvedCount run = k ∧
          final.yard.crane.pose =
            pose.follow (commands.take k)) ∧
    (∀ (machine : Machine) (stage : Stage),
      machine.transcript.commands.toList = commands →
        stage.world = replay.yard.world →
          stage.pose = pose →
            (∀ command ∈ commands,
              command.isStride = true) →
              final.poll run = some .resolved →
                machine.look stage = final.yard.look) := by
  intro replay pose run final events
  have hOrderly : replay.Orderly :=
    orderly_actAll world operations
  have hRun : Run replay events final := by
    have hHistory :=
      run_history replay
        (.enqueueAll commands :: ticks.map .tick)
    rwa [show
      replay.actAll
          (.enqueueAll commands :: ticks.map .tick) =
        final from actAll_ticks _ ticks] at hHistory
  rcases concluded_enqueueAll hOrderly hSettled commands ticks
      hFinal with
    ⟨done, left, hParts, hCount, hConcluded⟩
  have hRunEq : run = ⟨run.first, (done ++ left).length⟩ :=
    hCount
  have hPose :
      final.yard.crane.pose = pose.follow done :=
    Yard.pose_performAll hConcluded.performed
  have hDone :
      final.poll run = some .resolved → done = commands := by
    intro hResolved
    rw [hRunEq] at hResolved
    rw [hParts, hConcluded.left_of_resolved hResolved,
      List.append_nil]
  refine ⟨hRun, ?_, ?_, ?_, ?_⟩
  · intro before later now hSplit hBefore
    rcases applied_moment hSplit hBefore hOrderly
        hSettled with
      ⟨count, hApplied⟩
    have hCommands :
        (applied before).map (·.2) =
          commands.take count := by
      rw [hApplied, List.map_take, commands_numberedFrom]
    exact ⟨count, hCommands,
      pose_moment hSplit hBefore hCommands⟩
  · intro hResolved
    have hAllDone := hDone hResolved
    refine ⟨by rw [hPose, hAllDone], ?_⟩
    rcases applied_moment (List.append_nil events).symm
        hRun hOrderly hSettled with
      ⟨_, hTake⟩
    have hAll :
        applied events =
          numberedFrom replay.nextId commands := by
      refine applied_of_resolved hRun hOrderly
        ((run_history (ofWorld world) operations).honest
          (orderly_ofWorld world) (honest_ofWorld world))
        hTake ?_
      intro i hI
      rw [← first_enqueueAll hOrderly commands]
      exact hConcluded.resolved i
        (by rw [hAllDone]; exact hI)
    intro count hCount
    exact exists_moment_of_applied hRun hAll hCount
  · intro failure hRejected
    rw [hRunEq] at hRejected ⊢
    rcases hConcluded.fails_of_rejected hRejected with
      ⟨command, hCommand, hPerform⟩
    refine ⟨done.length, command, ?_, hPerform,
      hConcluded.resolvedCount, ?_⟩
    · rw [hParts]
      exact hCommand
    · rw [hPose, hParts, List.take_left]
  · intro machine stage hCommands hWorld hStart hStrides
      hResolved
    have hPerformed :
        replay.yard.performAll commands = .ok final.yard := by
      rw [← hDone hResolved]
      exact hConcluded.performed
    rw [← hCommands] at hPerformed hStrides
    exact Machine.look_eq_of_performAll hWorld hStart hStrides
      hPerformed

/-
  On a field of two by two cells, a crane turned to the east
  gets as far as the wall: the second move fails. Without it
  the run resolves, and a script that has recorded it is
  told of the wall.
-/
theorem lookAhead_agrees_with_replay_wall :
    let replay :=
      (ofWorld (World.empty 2 2)).actAll
        [.setStep 0, .enqueue ⟨.turnLeft, none⟩, .wait]
    let far : List Command :=
      [⟨.move, none⟩, ⟨.move, none⟩, ⟨.turnLeft, none⟩]
    let near : List Command :=
      [⟨.turnRight, none⟩, ⟨.move, none⟩]
    let failed := (replay.enqueueAll far).2.tick 0
    let resolved := (replay.enqueueAll near).2.tick 0
    let machine : Machine :=
      { transcript := { commands := near.toArray } }
    let stage : Stage :=
      { world := World.empty 2 2
        pose := replay.yard.crane.pose }
    replay.isSettled ∧ failed.isSettled ∧
      resolved.isSettled ∧
      failed.yard.crane.pose = ⟨1, 0, .east⟩ ∧
      resolved.yard.crane.pose = ⟨0, 1, .south⟩ ∧
      machine.look stage = resolved.yard.look ∧
      resolved.yard.look = "wall" := by
  intro replay far near failed resolved machine stage
  have hSettled : replay.isSettled := by decide +kernel
  have hFailed : failed.isSettled := by decide +kernel
  have hResolved : resolved.isSettled := by decide +kernel
  have hWall :
      failed.poll (replay.enqueueAll far).1 =
        some (.rejected (.outOfBounds .move 2 0)) := by
    decide +kernel
  have hCount :
      failed.resolvedCount (replay.enqueueAll far).1 = 1 := by
    decide +kernel
  have hDone :
      resolved.poll (replay.enqueueAll near).1 =
        some .resolved := by
    decide +kernel
  rcases lookAhead_agrees_with_replay (World.empty 2 2)
      [.setStep 0, .enqueue ⟨.turnLeft, none⟩, .wait] far [0]
      hSettled hFailed with
    ⟨_, _, _, hRejected, _⟩
  rcases lookAhead_agrees_with_replay (World.empty 2 2)
      [.setStep 0, .enqueue ⟨.turnLeft, none⟩, .wait] near [0]
      hSettled hResolved with
    ⟨_, _, hPrefixes, _, hLook⟩
  refine ⟨hSettled, hFailed, hResolved, ?_, ?_, ?_,
    by decide +kernel⟩
  · rcases hRejected _ hWall with ⟨k, _, _, _, hK, hPose⟩
    have hOne : k = 1 := hK.symm.trans hCount
    subst hOne
    exact hPose.trans (by decide +kernel)
  · exact (hPrefixes hDone).1.trans (by decide +kernel)
  · exact hLook machine stage rfl (by decide +kernel) rfl
      (by decide) hDone

end Replay

end Gantry
