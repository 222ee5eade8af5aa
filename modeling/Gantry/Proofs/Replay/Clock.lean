import Mathlib.Order.Interval.Finset.Nat
import Gantry.Proofs.Replay.Bookkeeping
import Gantry.Proofs.Replay.Pace
import Gantry.Proofs.Replay.Sequence

/-
  This file says when the clock of a replay overflows. The
  time for which a command is shown never does, because it
  stays below a step. The time that is waited does as soon as
  the strides taken are too long together, and they are one
  step for each command that resolves.

  Main statements:
    * `Gantry.Replay.tick?_eq`
    * `Gantry.Replay.wait?_eq`
    * `Gantry.Replay.wait_enqueueAll`
-/

------------------------------------------------------------
-- Times That Are Too Long
------------------------------------------------------------

namespace Gantry

namespace Replay

/- A step that can be held is never exceeded on the way. -/
theorem tick?_eq
    {replay : Replay}
    (hStep : replay.step ≤ longestTime)
    (elapsed : Nat) :
    replay.tick? elapsed = some (replay.tick elapsed) := by
  fun_induction tick replay elapsed with
  | case1 replay elapsed hIdle =>
      rw [tick?]
      split
      · rfl
      · simp_all
  | case2 replay elapsed animation hActive needed hShort =>
      have hSum :
          animation.elapsed + elapsed ≤ longestTime := by
        omega
      rw [tick?]
      split
      · simp_all
      · rename_i shown hShown
        cases hActive.symm.trans hShown
        rw [if_pos hShort, addTimes?, if_pos hSum]
        rfl
  | case3 replay elapsed animation hActive needed hLong
      ih =>
      rw [tick?]
      split
      · simp_all
      · rename_i shown hShown
        cases hActive.symm.trans hShown
        rw [if_neg hLong]
        exact ih (step_finish replay animation ▸ hStep)

/- Waiting does not turn the clock back. -/
theorem le_waitFrom
    (stride rounds waited : Nat)
    (replay : Replay) :
    waited ≤ (waitFrom stride rounds waited replay).1 := by
  induction rounds generalizing waited replay with
  | zero => exact Nat.le_refl _
  | succ rounds ih =>
      rw [waitFrom]
      split
      · exact Nat.le_refl _
      · exact Nat.le_trans (Nat.le_add_right _ _) (ih _ _)

/-
  The clock overflows if the whole time waited is too long:
  what was waited before is less.
-/
theorem waitFrom?_eq
    {replay : Replay}
    (hStep : replay.step ≤ longestTime)
    {waited : Nat}
    (hWaited : waited ≤ longestTime)
    (stride rounds : Nat) :
    waitFrom? stride rounds waited replay =
      if (waitFrom stride rounds waited replay).1 ≤
          longestTime then
        some (waitFrom stride rounds waited replay)
      else
        none := by
  induction rounds generalizing waited replay with
  | zero => exact (if_pos hWaited).symm
  | succ rounds ih =>
      rw [waitFrom?, waitFrom]
      by_cases hSettled : replay.isSettled = true
      · rw [if_pos hSettled, if_pos hSettled,
          if_pos hWaited]
      · rw [if_neg hSettled, if_neg hSettled, tick?_eq hStep,
          addTimes?]
        by_cases hSum : waited + stride ≤ longestTime
        · rw [if_pos hSum]
          exact ih ((step_tick replay stride).symm ▸ hStep)
            hSum
        · have hLater :=
            le_waitFrom stride rounds (waited + stride)
              (replay.tick stride)
          rw [if_neg hSum, if_neg (by omega)]
          rfl

/- Waiting fails just when the time waited is too long. -/
theorem wait?_eq
    {replay : Replay}
    (hStep : replay.step ≤ longestTime) :
    replay.wait? =
      if replay.wait.1 ≤ longestTime then
        some replay.wait
      else
        none :=
  waitFrom?_eq hStep (Nat.zero_le _) _ _

end Replay

end Gantry

------------------------------------------------------------
-- The Time For A Run
------------------------------------------------------------

namespace Gantry

namespace Replay

theorem afterStrides_eq_foldl
    (stride rounds : Nat)
    (replay : Replay) :
    afterStrides stride rounds replay =
      (List.replicate rounds stride).foldl tick replay := by
  induction rounds generalizing replay with
  | zero => rfl
  | succ rounds ih =>
      rw [afterStrides_succ, ih, List.replicate_succ,
        List.foldl_cons]

/- Queuing commands finishes none. -/
theorem finishedIds_enqueueEvents
    (replay : Replay)
    (commands : List Command) :
    finishedIds (replay.enqueueEvents commands) = [] := by
  have hIdle :
      ∀ ready : Replay, finishedIds ready.idleEvents = [] := by
    intro ready
    unfold idleEvents
    split
    · rfl
    · exact finishedIds_startEvents ready
  cases commands with
  | nil => exact hIdle replay
  | cons command rest => exact hIdle _

theorem exists_run_ticks
    (replay : Replay)
    (ticks : List Nat) :
    ∃ events, Run replay events (ticks.foldl tick replay) := by
  induction ticks generalizing replay with
  | nil => exact ⟨[], .nil replay⟩
  | cons elapsed ticks ih =>
      rcases ih (replay.tick elapsed) with ⟨events, hRun⟩
      exact ⟨_, (run_tick replay elapsed).append hRun⟩

theorem nextId_ticks
    (replay : Replay)
    (ticks : List Nat) :
    (ticks.foldl tick replay).nextId = replay.nextId := by
  induction ticks generalizing replay with
  | nil => rfl
  | cons elapsed ticks ih =>
      exact (ih _).trans (window_tick replay elapsed).2

/- None of the commands queued has resolved already. -/
theorem lt_nextId_of_mem_resolvedIds
    {replay : Replay}
    (hOrderly : replay.Orderly)
    (commands : List Command)
    {id : Nat}
    (hResolved :
      id ∈ (replay.enqueueAll commands).2.resolvedIds) :
    id < replay.nextId := by
  have hConfirmed :=
    (run_enqueueAll replay commands).confirmed hOrderly
      hOrderly.confirmed
  rw [finishedIds_enqueueEvents, List.append_nil]
    at hConfirmed
  rw [mem_resolvedIds] at hResolved
  have hBefore :=
    (hConfirmed.resolved id .resolved hResolved).mp rfl
  rw [Finset.mem_toList, mem_resolvedIds] at hBefore
  exact (bounds_of_outcome? hBefore).2

/- What resolved before a run was resolved when it began. -/
theorem mem_resolvedIds_of_lt_nextId
    {replay queued after : Replay}
    {events later : List Event}
    (hOrderly : replay.Orderly)
    (hSettled : replay.isSettled)
    (hQueued : Run replay events queued)
    (hAfter : Run queued later after)
    {id : Nat}
    (hBefore : id < replay.nextId)
    (hResolved : id ∈ after.resolvedIds) :
    id ∈ queued.resolvedIds := by
  rw [mem_resolvedIds] at hResolved ⊢
  have hNext := hQueued.orderly hOrderly
  have hKept := (bounds_of_outcome? hResolved).1
  have hBase := hAfter.base_le hNext
  have hFirst := hQueued.base_le hOrderly
  simp only [isSettled, Bool.and_eq_true,
    Option.isNone_iff_eq_none, List.isEmpty_iff] at hSettled
  cases hOutcome : replay.outcome? id with
  | none =>
      rw [outcome?_eq_none_iff] at hOutcome
      omega
  | some outcome =>
      have hDone : outcome ≠ .pending := by
        rintro rfl
        rw [hOrderly.outcome?_eq_pending_iff] at hOutcome
        simp [openIds, hSettled] at hOutcome
      have hThen :=
        hQueued.outcome?_of_settled hOrderly hOutcome hDone
          (Nat.le_trans hBase hKept)
      have hNow :=
        hAfter.outcome?_of_settled hNext hThen hDone hKept
      rw [hThen, ← hNow, hResolved]

/-
  Once a run is concluded, and nothing was queued after it,
  its commands that were done are the only ones from its first
  on that resolved.
-/
theorem Concluded.mem_resolvedIds_iff
    {yard : Yard}
    {first : Nat}
    {done left : List Command}
    {replay : Replay}
    (hConcluded : Concluded yard first done left replay)
    (hNext :
      replay.nextId = first + (done ++ left).length)
    {id : Nat}
    (hLate : first ≤ id) :
    id ∈ replay.resolvedIds ↔ id < first + done.length := by
  rw [List.length_append] at hNext
  rw [mem_resolvedIds]
  constructor
  · intro hResolved
    refine Nat.lt_of_not_le fun hLeft => ?_
    have hBound := (bounds_of_outcome? hResolved).2
    cases left with
    | nil =>
        rw [List.length_nil] at hNext
        omega
    | cons command rest =>
        rcases hConcluded.rejected command rest rfl with
          ⟨failure, -, hRejected⟩
        have hOther :=
          hRejected (id - (first + done.length)) (by omega)
        rw [← Nat.add_assoc, Nat.add_sub_cancel' hLeft,
          hResolved] at hOther
        cases hOther
  · intro hDone
    have hResolved :=
      hConcluded.resolved (id - first) (by omega)
    rwa [Nat.add_sub_cancel' hLate] at hResolved

/-
  From a settled replay on, just the commands of a run are
  resolved that are counted in the end.
-/
theorem card_resolvedIds_sdiff
    {replay : Replay}
    (hOrderly : replay.Orderly)
    (hSettled : replay.isSettled)
    (commands : List Command)
    (ticks : List Nat)
    (hFinal :
      (ticks.foldl tick
        (replay.enqueueAll commands).2).isSettled) :
    let queued := (replay.enqueueAll commands).2
    let after := ticks.foldl tick queued
    (after.resolvedIds \ queued.resolvedIds).card =
      after.resolvedCount (replay.enqueueAll commands).1 := by
  intro queued after
  have hQueued : Run replay _ queued :=
    run_enqueueAll replay commands
  rcases exists_run_ticks queued ticks with ⟨events, hAfter⟩
  rcases concluded_enqueueAll hOrderly hSettled commands
      ticks hFinal with
    ⟨done, left, hParts, hRun, hConcluded⟩
  rw [hRun, hConcluded.resolvedCount]
  have hNext :
      after.nextId =
        replay.nextId + (done ++ left).length := by
    rw [← hParts]
    exact (nextId_ticks queued ticks).trans
      (hOrderly.nextId_act (.enqueueAll commands))
  rw [first_enqueueAll hOrderly commands] at hConcluded
  have hIds :
      after.resolvedIds \ queued.resolvedIds =
        Finset.Ico replay.nextId
          (replay.nextId + done.length) := by
    ext id
    rw [Finset.mem_sdiff, Finset.mem_Ico]
    constructor
    · rintro ⟨hResolved, hNew⟩
      have hLate : replay.nextId ≤ id := by
        apply Nat.le_of_not_lt
        intro hBefore
        exact hNew
          (mem_resolvedIds_of_lt_nextId hOrderly hSettled
            hQueued hAfter hBefore hResolved)
      exact ⟨hLate,
        (hConcluded.mem_resolvedIds_iff hNext hLate).mp
          hResolved⟩
    · rintro ⟨hLate, hDone⟩
      refine
        ⟨(hConcluded.mem_resolvedIds_iff hNext hLate).mpr
          hDone, fun hOld => ?_⟩
      have hBefore :=
        lt_nextId_of_mem_resolvedIds hOrderly commands hOld
      omega
  rw [hIds, Nat.card_Ico, Nat.add_sub_cancel_left]

/- Waiting for a run takes a step for each of its commands. -/
theorem wait_enqueueAll
    {replay : Replay}
    (hOrderly : replay.Orderly)
    (hSettled : replay.isSettled)
    (hStep : millisecond ≤ replay.step)
    (commands : List Command) :
    let run := (replay.enqueueAll commands).1
    let queued := (replay.enqueueAll commands).2
    queued.wait.1 =
      replay.step * queued.wait.2.resolvedCount run := by
  intro run queued
  have hPositive : 0 < replay.step :=
    Nat.lt_of_lt_of_le (by decide) hStep
  have hIdle : replay.active? = none := by
    simp only [isSettled, Bool.and_eq_true,
      Option.isNone_iff_eq_none] at hSettled
    exact hSettled.1
  have hPrompt : replay.Prompt := fun _ => by
    simp only [isSettled, Bool.and_eq_true,
      List.isEmpty_iff] at hSettled
    exact hSettled.2
  have hPaced : queued.Paced replay.step :=
    (Paced.of_idle hOrderly hPrompt rfl hIdle).enqueueAll
      hPositive commands
  have hStride :
      max queued.step millisecond = replay.step := by
    rw [hPaced.step_eq, Nat.max_eq_left hStep]
  rcases waitFrom_eq_afterStrides hPaced hPositive
      (Nat.le_refl _) 0 with
    ⟨rounds, hWait, hEnd, -, hCount, -⟩
  rw [afterStrides_eq_foldl] at hWait hEnd hCount
  have hResolved :=
    card_resolvedIds_sdiff hOrderly hSettled commands _ hEnd
  rw [wait, hStride, hWait, Nat.zero_add]
  exact congrArg (replay.step * ·)
    (hCount.symm.trans hResolved)

/- Commands that take no time are shown for none. -/
theorem active?_tick_of_instant
    {replay : Replay}
    (hStep : replay.step = 0)
    (elapsed : Nat) :
    (replay.tick elapsed).active? = none := by
  fun_induction tick replay elapsed with
  | case1 replay elapsed hIdle => exact hIdle
  | case2 replay elapsed animation hActive needed hShort =>
      omega
  | case3 replay elapsed animation hActive needed hLong
      ih =>
      exact ih ((step_finish replay animation).trans hStep)

/- Then one stride of the clock is enough for all of them. -/
theorem wait_of_instant
    {replay : Replay}
    (hPrompt : replay.Prompt)
    (hStep : replay.step = 0) :
    replay.wait.1 ≤ millisecond := by
  have hTick :
      (replay.tick millisecond).isSettled = true := by
    have hIdle := active?_tick_of_instant hStep millisecond
    simp [isSettled, hIdle, hPrompt.tick millisecond hIdle]
  have hOnce :
      ∀ rounds waited,
        (waitFrom millisecond rounds waited
          (replay.tick millisecond)).1 = waited := by
    intro rounds waited
    cases rounds with
    | zero => rfl
    | succ rounds => rw [waitFrom, if_pos hTick]
  rw [wait, hStep, Nat.zero_max]
  cases replay.pending with
  | zero => exact Nat.zero_le _
  | succ rounds =>
      rw [waitFrom]
      split
      · exact Nat.zero_le _
      · rw [hOnce, Nat.zero_add]

end Replay

end Gantry
