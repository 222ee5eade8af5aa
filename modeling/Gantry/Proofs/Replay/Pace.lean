import Gantry.Proofs.Replay.Expiry
import Gantry.Proofs.Replay.Settling
import Mathlib.Data.Finset.Card
import Mathlib.Data.Finset.Range
import Mathlib.Logic.Function.Iterate

/-
  This file counts the strides of a clock that waits until
  everything has settled.

  While the pace stays the same, no command is shown for a
  whole step before it is finished. So a stride of one step
  finishes the command that is shown, and what is left of
  the stride is too short for the next one: every stride
  resolves just one command, however long the first of them
  has been shown and whether or not a later one fails.

  Key definitions include:
    * `Gantry.Replay.resolvedIds`
    * `Gantry.Replay.Paced`
    * `Gantry.Replay.afterStrides`

  Main statements:
    * `Gantry.Replay.Paced.act`
    * `Gantry.Replay.Paced.resolvedIds_tick`
    * `Gantry.Replay.waitFrom_eq_afterStrides`
    * `Gantry.Replay.wait_takes_a_step_each`
-/

------------------------------------------------------------
-- Commands That Have Resolved
------------------------------------------------------------

namespace Gantry

namespace Replay

/- The commands that are on record as resolved. -/
def resolvedIds
    (replay : Replay) : Finset Nat :=
  (Finset.range replay.nextId).filter fun id =>
    replay.outcome? id = some .resolved

theorem mem_resolvedIds
    {replay : Replay}
    {id : Nat} :
    id ∈ replay.resolvedIds ↔
      replay.outcome? id = some .resolved := by
  unfold resolvedIds
  rw [Finset.mem_filter, Finset.mem_range,
    and_iff_right_iff_imp]
  exact fun hResolved => (bounds_of_outcome? hResolved).2

/- What is on record as resolved was confirmed. -/
theorem Orderly.confirmed
    {replay : Replay}
    (hOrderly : replay.Orderly) :
    Confirmed replay.resolvedIds.toList replay where
  settled := by
    intro id hId
    rw [Finset.mem_toList, mem_resolvedIds] at hId
    apply Nat.lt_of_not_le
    intro hOpen
    have hPending :=
      hOrderly.waiting id hOpen (bounds_of_outcome? hId).2
    rw [hId] at hPending
    cases hPending
  resolved := by
    intro id outcome hOutcome
    rw [Finset.mem_toList, mem_resolvedIds, hOutcome,
      Option.some.injEq]

/-
  Events that neither number commands nor forget any add
  the commands that they finish.
-/
theorem Run.mem_resolvedIds_iff
    {replay after : Replay}
    {events : List Event}
    (hRun : Run replay events after)
    (hOrderly : replay.Orderly)
    (hBase : after.base = replay.base)
    (hNext : after.nextId = replay.nextId)
    (id : Nat) :
    id ∈ after.resolvedIds ↔
      id ∈ replay.resolvedIds ∨
        (id ∈ finishedIds events ∧
          replay.outcome? id ≠ none) := by
  have hConfirmed := hRun.confirmed hOrderly hOrderly.confirmed
  have hRecord :
      after.outcome? id = none ↔
        replay.outcome? id = none := by
    rw [outcome?_eq_none_iff, outcome?_eq_none_iff, hBase,
      hNext]
  rw [mem_resolvedIds]
  cases hAfter : after.outcome? id with
  | none =>
      have hNone := hRecord.mp hAfter
      simp [mem_resolvedIds, hNone]
  | some outcome =>
      have hSome : replay.outcome? id ≠ none := by
        rw [Ne, ← hRecord, hAfter]
        exact Option.some_ne_none outcome
      rw [Option.some.injEq,
        hConfirmed.resolved id outcome hAfter,
        List.mem_append, Finset.mem_toList]
      simp [hSome]

end Replay

end Gantry

------------------------------------------------------------
-- A Steady Pace
------------------------------------------------------------

namespace Gantry

namespace Replay

/-
  A replay in order whose pace does not change: a command is
  never shown for a whole step.
-/
structure Paced
    (step : Nat)
    (replay : Replay) : Prop where
  orderly : replay.Orderly
  prompt : replay.Prompt
  step_eq : replay.step = step
  short :
    ∀ animation, replay.active? = some animation →
      animation.elapsed < step

/- A command that is started has not been shown yet. -/
theorem elapsed_startNext
    {replay : Replay}
    (hIdle : replay.active? = none)
    {animation : Animation}
    (hActive :
      replay.startNext.active? = some animation) :
    animation.elapsed = 0 := by
  cases hQueue : replay.queue with
  | nil =>
      simp only [startNext, hQueue, hIdle] at hActive
      cases hActive
  | cons head rest =>
      rcases head with ⟨id, command⟩
      cases hPerform : replay.yard.perform command with
      | ok yard =>
          rw [startNext_of_ok hQueue hPerform] at hActive
          cases hActive
          rfl
      | error failure =>
          rw [startNext_of_error hIdle hQueue
            hPerform] at hActive
          simp at hActive

theorem elapsed_finish
    {replay : Replay}
    {animation next : Animation}
    (hActive :
      (replay.finish animation).active? = some next) :
    next.elapsed = 0 :=
  elapsed_startNext (active?_resolveShown replay animation)
    hActive

theorem step_finish
    (replay : Replay)
    (animation : Animation) :
    (replay.finish animation).step = replay.step := by
  rw [finish_eq, step_startNext]
  simp [resolveShown]

/- Time that passes finishes what is shown for a step. -/
theorem short_tick
    {replay : Replay}
    (hStep : 0 < replay.step)
    (hShort :
      ∀ animation, replay.active? = some animation →
        animation.elapsed < replay.step)
    (elapsed : Nat) :
    ∀ animation,
      (replay.tick elapsed).active? = some animation →
        animation.elapsed < replay.step := by
  fun_induction tick replay elapsed with
  | case1 replay elapsed hIdle => exact hShort
  | case2 replay elapsed animation hActive needed hNeeded =>
      rintro _ ⟨⟩
      dsimp only
      omega
  | case3 replay elapsed animation hActive needed hLong
      ih =>
      rw [step_finish] at ih
      apply ih hStep
      intro next hNext
      rw [elapsed_finish hNext]
      exact hStep

theorem Paced.tick
    {step : Nat}
    {replay : Replay}
    (hPaced : replay.Paced step)
    (hStep : 0 < step)
    (elapsed : Nat) :
    (replay.tick elapsed).Paced step where
  orderly := (run_tick replay elapsed).orderly hPaced.orderly
  prompt := hPaced.prompt.tick elapsed
  step_eq := by rw [step_tick, hPaced.step_eq]
  short := by
    have hSame := hPaced.step_eq
    subst hSame
    exact short_tick hStep hPaced.short elapsed

end Replay

end Gantry

------------------------------------------------------------
-- Operations At A Steady Pace
------------------------------------------------------------

namespace Gantry

namespace Replay

/- What is done to a replay leaves its pace as it is. -/
def Operation.KeepsPace :
    Operation → Prop
| .setStep _ => False
| _ => True

theorem step_startIfIdle
    (replay : Replay) :
    replay.startIfIdle.step = replay.step := by
  unfold startIfIdle
  split
  · rfl
  · exact step_startNext replay

theorem step_enqueueAll
    (replay : Replay)
    (commands : List Command) :
    (replay.enqueueAll commands).2.step = replay.step := by
  cases commands with
  | nil => exact step_startIfIdle replay
  | cons command rest =>
      rw [enqueueAll_eq replay (by simp), step_startIfIdle]
      simp only [push, forget_eq]

theorem step_cancelPending
    (replay : Replay) :
    replay.cancelPending.step = replay.step := by
  rw [cancelPending_eq, step_settleAll]

theorem active?_cancelPending
    (replay : Replay) :
    replay.cancelPending.active? = none := by
  rw [cancelPending_eq, active?_settleAll]

/- A command shown before queuing others is shown on. -/
theorem short_enqueueAll
    {step : Nat}
    {replay : Replay}
    (hStep : 0 < step)
    (hShort :
      ∀ animation, replay.active? = some animation →
        animation.elapsed < step)
    (commands : List Command) :
    ∀ animation,
      (replay.enqueueAll commands).2.active? =
          some animation →
        animation.elapsed < step := by
  have hStarted :
      ∀ ready : Replay, ready.active? = replay.active? →
        ∀ animation,
          ready.startIfIdle.active? = some animation →
            animation.elapsed < step := by
    intro ready hReady animation hActive
    unfold startIfIdle at hActive
    split at hActive
    · rename_i shown hShown
      rw [hShown, Option.some.injEq] at hActive
      subst hActive
      exact hShort shown (hReady ▸ hShown)
    · rename_i hIdle
      rw [elapsed_startNext hIdle hActive]
      exact hStep
  cases commands with
  | nil => exact hStarted replay rfl
  | cons command rest =>
      rw [enqueueAll_eq replay (by simp)]
      apply hStarted
      simp only [push, active?_forget]

theorem Paced.enqueueAll
    {step : Nat}
    {replay : Replay}
    (hPaced : replay.Paced step)
    (hStep : 0 < step)
    (commands : List Command) :
    (replay.enqueueAll commands).2.Paced step where
  orderly :=
    (run_enqueueAll replay commands).orderly hPaced.orderly
  prompt := prompt_enqueueAll replay commands
  step_eq := by rw [step_enqueueAll, hPaced.step_eq]
  short := short_enqueueAll hStep hPaced.short commands

theorem Paced.ticks
    {step : Nat}
    {replay : Replay}
    (hPaced : replay.Paced step)
    (hStep : 0 < step)
    (ticks : List Nat) :
    (ticks.foldl Replay.tick replay).Paced step :=
  List.foldlRecOn ticks Replay.tick hPaced
    fun _ hBefore elapsed _ => hBefore.tick hStep elapsed

/- A replay that shows nothing has its pace. -/
theorem Paced.of_idle
    {step : Nat}
    {replay : Replay}
    (hOrderly : replay.Orderly)
    (hPrompt : replay.Prompt)
    (hStep : replay.step = step)
    (hIdle : replay.active? = none) :
    replay.Paced step where
  orderly := hOrderly
  prompt := hPrompt
  step_eq := hStep
  short := by
    intro animation hActive
    rw [hIdle] at hActive
    cases hActive

theorem Paced.act
    {step : Nat}
    {replay : Replay}
    (hPaced : replay.Paced step)
    (hStep : 0 < step)
    {operation : Operation}
    (hOperation : operation.KeepsPace) :
    (replay.act operation).Paced step := by
  have hOrderly :=
    (run_events replay operation).orderly hPaced.orderly
  have hPrompt := hPaced.prompt.act operation
  have hCancelled :=
    (step_cancelPending replay).trans hPaced.step_eq
  have hIdle := active?_cancelPending replay
  cases operation with
  | enqueue command =>
      exact hPaced.enqueueAll hStep [command]
  | enqueueAll commands =>
      exact hPaced.enqueueAll hStep commands
  | tick elapsed => exact hPaced.tick hStep elapsed
  | wait =>
      rcases wait_eq_ticks replay with ⟨ticks, hTicks⟩
      change replay.wait.2.Paced step
      rw [hTicks]
      exact hPaced.ticks hStep ticks
  | reset =>
      exact .of_idle hOrderly hPrompt hCancelled hIdle
  | station pose supply =>
      exact .of_idle hOrderly hPrompt hCancelled hIdle
  | loadWorld world =>
      exact .of_idle hOrderly hPrompt hCancelled hIdle
  | setCarried kind? =>
      exact ⟨hOrderly, hPrompt, hPaced.step_eq,
        hPaced.short⟩
  | setStep other => exact hOperation.elim

theorem Paced.actAll
    {step : Nat}
    {replay : Replay}
    (hPaced : replay.Paced step)
    (hStep : 0 < step)
    {operations : List Operation}
    (hOperations :
      ∀ operation ∈ operations, operation.KeepsPace) :
    (replay.actAll operations).Paced step :=
  List.foldlRecOn operations Replay.act hPaced
    fun _ hBefore operation hMember =>
      hBefore.act hStep (hOperations operation hMember)

/- Before commands are queued there is nothing to show. -/
theorem settled_act
    {replay : Replay}
    (hSettled :
      replay.active? = none ∧ replay.queue = [])
    {operation : Operation}
    (hOperation : operation.commands = []) :
    (replay.act operation).active? = none ∧
      (replay.act operation).queue = [] := by
  have hStart : replay.startIfIdle = replay := by
    simp only [startIfIdle, startNext, hSettled]
  have hCancelled :
      replay.cancelPending.active? = none ∧
        replay.cancelPending.queue = [] := by
    simp [cancelPending_eq]
  cases operation with
  | enqueue command => cases hOperation
  | enqueueAll commands =>
      change commands = [] at hOperation
      subst hOperation
      change
        replay.startIfIdle.active? = none ∧
          replay.startIfIdle.queue = []
      rw [hStart]
      exact hSettled
  | tick elapsed =>
      change
        (replay.tick elapsed).active? = none ∧
          (replay.tick elapsed).queue = []
      rw [tick_of_idle elapsed hSettled.1]
      exact hSettled
  | wait =>
      have hPending : replay.pending = 0 := by
        simp [pending, hSettled]
      change
        replay.wait.2.active? = none ∧
          replay.wait.2.queue = []
      rw [wait, hPending]
      exact hSettled
  | reset => exact hCancelled
  | station pose supply => exact hCancelled
  | loadWorld world => exact hCancelled
  | setCarried kind? => exact hSettled
  | setStep step => exact hSettled

theorem settled_actAll
    {replay : Replay}
    (hSettled :
      replay.active? = none ∧ replay.queue = [])
    {operations : List Operation}
    (hOperations :
      ∀ operation ∈ operations, operation.commands = []) :
    (replay.actAll operations).active? = none ∧
      (replay.actAll operations).queue = [] := by
  induction operations generalizing replay with
  | nil => exact hSettled
  | cons operation operations ih =>
      rw [List.forall_mem_cons] at hOperations
      exact ih (settled_act hSettled hOperations.1)
        hOperations.2

end Replay

end Gantry

------------------------------------------------------------
-- One Stride
------------------------------------------------------------

namespace Gantry

namespace Replay

/- Starting a command finishes none. -/
theorem finishedIds_startEvents
    (replay : Replay) :
    finishedIds replay.startEvents = [] := by
  unfold startEvents
  split
  · rfl
  · split
    · rfl
    · rfl

/- Too little time for what is shown finishes nothing. -/
theorem finishedIds_tickEvents_of_short
    {replay : Replay}
    {elapsed : Nat}
    (hShort :
      ∀ animation, replay.active? = some animation →
        elapsed < replay.step - animation.elapsed) :
    finishedIds (replay.tickEvents elapsed) = [] := by
  rw [tickEvents]
  split
  · rfl
  · rename_i animation hActive
    rw [if_pos (hShort animation hActive)]
    rfl

/- A stride of one step finishes the command shown. -/
theorem Paced.finishedIds_tickEvents
    {step : Nat}
    {replay : Replay}
    (hPaced : replay.Paced step)
    {animation : Animation}
    (hActive : replay.active? = some animation) :
    finishedIds (replay.tickEvents step) =
      [animation.id] := by
  have hSame := hPaced.step_eq
  have hElapsed := hPaced.short animation hActive
  have hStep :=
    (step_finish replay animation).trans hSame
  -- What is left of the stride is the time for which the
  -- command had been shown before.
  have hRest :
      finishedIds
        ((replay.finish animation).tickEvents
          (step - (replay.step - animation.elapsed))) =
        [] := by
    apply finishedIds_tickEvents_of_short
    intro next hNext
    rw [elapsed_finish hNext]
    omega
  rw [tickEvents]
  split
  · simp_all
  · rename_i shown hShown
    cases hActive.symm.trans hShown
    rw [if_neg (by omega)]
    have hStart :=
      finishedIds_startEvents
        (replay.resolveShown animation)
    unfold finishedIds at *
    rw [List.filterMap_cons, List.filterMap_append, hStart,
      hRest]
    rfl

/- Neither end of the record moves while time passes. -/
theorem window_startNext
    (replay : Replay) :
    replay.startNext.base = replay.base ∧
      replay.startNext.nextId = replay.nextId := by
  unfold startNext
  split
  · exact ⟨rfl, rfl⟩
  · split
    · exact ⟨rfl, rfl⟩
    · rw [base_settleAll, nextId_settleAll]
      exact ⟨rfl, rfl⟩

theorem window_tick
    (replay : Replay)
    (elapsed : Nat) :
    (replay.tick elapsed).base = replay.base ∧
      (replay.tick elapsed).nextId = replay.nextId := by
  fun_induction tick replay elapsed with
  | case1 => exact ⟨rfl, rfl⟩
  | case2 => exact ⟨rfl, rfl⟩
  | case3 replay elapsed animation hActive needed hLong
      ih =>
      have hStart :=
        window_startNext (replay.resolveShown animation)
      rw [← finish_eq] at hStart
      rw [ih.1, ih.2, hStart.1, hStart.2]
      unfold resolveShown
      rw [base_settle, nextId_settle]
      exact ⟨rfl, rfl⟩

/- A stride of one step resolves the command shown. -/
theorem Paced.resolvedIds_tick
    {step : Nat}
    {replay : Replay}
    (hPaced : replay.Paced step)
    {animation : Animation}
    (hActive : replay.active? = some animation) :
    animation.id ∉ replay.resolvedIds ∧
      (replay.tick step).resolvedIds =
        insert animation.id replay.resolvedIds := by
  have hOpen : animation.id ∈ replay.openIds := by
    simp [openIds, hActive]
  have hPending :=
    (hPaced.orderly.outcome?_eq_pending_iff
      animation.id).mpr hOpen
  rcases window_tick replay step with ⟨hBase, hNext⟩
  refine ⟨by simp [mem_resolvedIds, hPending], ?_⟩
  ext id
  rw [(run_tick replay step).mem_resolvedIds_iff
    hPaced.orderly hBase hNext,
    hPaced.finishedIds_tickEvents hActive,
    List.mem_singleton, Finset.mem_insert, or_comm]
  constructor
  · rintro (⟨hId, _⟩ | hResolved)
    · exact .inl hId
    · exact .inr hResolved
  · rintro (rfl | hResolved)
    · exact .inl ⟨rfl, by simp [hPending]⟩
    · exact .inr hResolved

end Replay

end Gantry

------------------------------------------------------------
-- Stride After Stride
------------------------------------------------------------

namespace Gantry

namespace Replay

/- The replay after some strides. -/
def afterStrides
    (stride rounds : Nat)
    (replay : Replay) : Replay :=
  (fun replay => tick replay stride)^[rounds] replay

theorem afterStrides_succ
    (stride rounds : Nat)
    (replay : Replay) :
    afterStrides stride (rounds + 1) replay =
      afterStrides stride rounds (replay.tick stride) :=
  Function.iterate_succ_apply _ _ _

/-
  Waiting takes strides up to the first moment at which
  everything has settled, if it may take enough of them, and
  each stride resolves one command.
-/
theorem waitFrom_eq_afterStrides
    {step : Nat}
    {replay : Replay}
    (hPaced : replay.Paced step)
    (hStep : 0 < step)
    {bound : Nat}
    (hBound : replay.pending ≤ bound)
    (waited : Nat) :
    ∃ rounds,
      waitFrom step bound waited replay =
          (waited + step * rounds,
            afterStrides step rounds replay) ∧
        (afterStrides step rounds replay).isSettled = true ∧
        (∀ fewer < rounds,
          (afterStrides step fewer replay).isSettled =
            false) ∧
        ((afterStrides step rounds replay).resolvedIds \
          replay.resolvedIds).card = rounds ∧
        replay.resolvedIds ⊆
          (afterStrides step rounds replay).resolvedIds := by
  induction bound generalizing waited replay with
  | zero =>
      have hSettled :=
        hPaced.prompt.isSettled_waitFrom
          (Nat.le_of_eq hPaced.step_eq) hBound waited
      exact ⟨0, rfl, hSettled, nofun, by simp [afterStrides],
        subset_rfl⟩
  | succ bound ih =>
      rw [waitFrom]
      split
      · rename_i hSettled
        exact ⟨0, rfl, hSettled, nofun,
          by simp [afterStrides], subset_rfl⟩
      · rename_i hBusy
        have hActive :=
          hPaced.prompt.active?_isSome (by simpa using hBusy)
        have hLess :=
          pending_tick_lt hActive
            (Nat.le_of_eq hPaced.step_eq)
        rcases Option.isSome_iff_exists.mp hActive with
          ⟨animation, hAnimation⟩
        rcases hPaced.resolvedIds_tick hAnimation with
          ⟨hNew, hAdded⟩
        rcases ih (hPaced.tick hStep step) (by omega)
            (waited + step) with
          ⟨rounds, hWait, hSettled, hFirst, hCount, hKept⟩
        rw [hAdded] at hCount hKept
        refine ⟨rounds + 1, ?_, ?_, ?_, ?_, ?_⟩
        · rw [hWait, afterStrides_succ, Nat.mul_succ,
            Nat.add_assoc, Nat.add_comm step]
        · rw [afterStrides_succ]
          exact hSettled
        · intro fewer hFewer
          cases fewer with
          | zero =>
              rw [Bool.not_eq_true] at hBusy
              exact hBusy
          | succ fewer =>
              rw [afterStrides_succ]
              exact hFirst fewer (by omega)
        · rw [afterStrides_succ]
          have hMember :=
            hKept (Finset.mem_insert_self animation.id _)
          rw [Finset.sdiff_insert] at hCount
          rw [← Finset.card_erase_add_one
            (Finset.mem_sdiff.mpr ⟨hMember, hNew⟩), hCount]
        · rw [afterStrides_succ]
          exact (Finset.subset_insert _ _).trans hKept

end Replay

end Gantry

------------------------------------------------------------
-- Waiting
------------------------------------------------------------

namespace Gantry

namespace Replay

/-
  Waiting on a replay whose pace was chosen before the first
  command was queued, and is a millisecond or more.

  The clock takes strides of one step until everything has
  settled, and it does so after a first number of strides:
  the replay is the one after that many of them, and not
  settled after fewer. The time that it waited is one step
  for each command that has resolved in the meantime.
-/
theorem wait_takes_a_step_each
    (world : World)
    (setup operations : List Operation)
    (hSetup :
      ∀ operation ∈ setup, operation.commands = [])
    (hOperations :
      ∀ operation ∈ operations, operation.KeepsPace)
    (hStep :
      millisecond ≤ ((ofWorld world).actAll setup).step) :
    let start := (ofWorld world).actAll setup
    let replay := start.actAll operations
    let after := replay.wait.2
    replay.step = start.step ∧
    after.isSettled = true ∧
    replay.wait.1 =
      replay.step *
        (after.resolvedIds \ replay.resolvedIds).card ∧
    ∃ rounds,
      replay.wait =
          (replay.step * rounds,
            afterStrides replay.step rounds replay) ∧
        ∀ fewer < rounds,
          (afterStrides replay.step fewer
            replay).isSettled = false := by
  intro start replay after
  have hPositive : 0 < start.step :=
    Nat.lt_of_lt_of_le (by decide) hStep
  have hIdle : start.active? = none :=
    (settled_actAll ⟨rfl, rfl⟩ hSetup).1
  have hStart : start.Paced start.step :=
    .of_idle (orderly_actAll world setup)
      (prompt_actAll world setup) rfl hIdle
  have hPaced : replay.Paced start.step :=
    hStart.actAll hPositive hOperations
  have hSame : replay.step = start.step := hPaced.step_eq
  have hStride :
      max replay.step millisecond = replay.step :=
    Nat.max_eq_left (hSame ▸ hStep)
  rw [← hSame] at hPaced hPositive
  rcases waitFrom_eq_afterStrides hPaced hPositive
      (Nat.le_refl _) 0 with
    ⟨rounds, hWait, hSettled, hFirst, hCount, _⟩
  have hWhole :
      replay.wait =
        (replay.step * rounds,
          afterStrides replay.step rounds replay) := by
    rw [wait, hStride, hWait, Nat.zero_add]
  have hAfter :
      after = afterStrides replay.step rounds replay := by
    change replay.wait.2 = _
    rw [hWhole]
  refine ⟨hSame, ?_, ?_, rounds, hWhole, hFirst⟩
  · rw [hAfter]
    exact hSettled
  · rw [hAfter, hCount, hWhole]

/-
  A field of two by two cells with two milliseconds for a
  step. The turn has been shown for one of them when the
  clock starts to wait; the first move follows it, the
  second runs into the wall and takes the last turn with it.
  So two commands resolve, and four milliseconds pass.
-/
theorem wait_takes_a_step_each_wall :
    let setup : List Operation :=
      [.setStep (2 * millisecond)]
    let operations : List Operation :=
      [.enqueueAll
        [⟨.turnLeft, none⟩, ⟨.move, none⟩, ⟨.move, none⟩,
          ⟨.turnLeft, none⟩],
        .tick millisecond]
    let start := (ofWorld (World.empty 2 2)).actAll setup
    let replay := start.actAll operations
    (∀ operation ∈ setup, operation.commands = []) ∧
    (∀ operation ∈ operations, operation.KeepsPace) ∧
    millisecond ≤ start.step ∧
    replay.wait.2.isSettled = true ∧
    replay.wait.1 =
      replay.step *
        (replay.wait.2.resolvedIds \
          replay.resolvedIds).card ∧
    replay.wait.1 = 4 * millisecond ∧
    replay.wait.2.outcomes =
      #[.resolved, .resolved,
        .rejected (.outOfBounds .move 2 0),
        .rejected (.outOfBounds .move 2 0)] := by
  intro setup operations start replay
  have hSetup :
      ∀ operation ∈ setup, operation.commands = [] :=
    List.forall_mem_singleton.mpr rfl
  have hOperations :
      ∀ operation ∈ operations, operation.KeepsPace :=
    List.forall_mem_cons.mpr
      ⟨trivial, List.forall_mem_singleton.mpr trivial⟩
  have hStep : millisecond ≤ start.step := by
    decide +kernel
  rcases wait_takes_a_step_each (World.empty 2 2) setup
      operations hSetup hOperations hStep with
    ⟨_, hSettled, hTime, _⟩
  exact ⟨hSetup, hOperations, hStep, hSettled, hTime,
    by decide +kernel, by decide +kernel⟩

end Replay

end Gantry
