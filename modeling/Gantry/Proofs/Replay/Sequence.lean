import Gantry.Proofs.Replay.Settling
import Mathlib.Order.Bounds.Basic

/-
  This file compares the replay of a run of commands with
  carrying them out one after another. From a settled replay
  on, and however time passes, exactly the commands before
  the first that fails take effect.

  Key definitions include:
    * `Gantry.Yard.performAll`
    * `Gantry.Replay.Underway`
    * `Gantry.Replay.Concluded`

  Main statements:
    * `Gantry.Replay.Underway.startNext`
    * `Gantry.Replay.replaying_tick`
    * `Gantry.Replay.replaying_enqueueAll`
    * `Gantry.Replay.enqueueAll_refines_performAll`
-/

------------------------------------------------------------
-- Commands One After Another
------------------------------------------------------------

namespace Gantry

namespace Yard

/- Carry out several commands; the first failure ends it. -/
def performAll
    (yard : Yard)
    (commands : List Command) :
    Except CraneFailure Yard :=
  commands.foldlM perform yard

@[simp] theorem performAll_nil
    (yard : Yard) :
    yard.performAll [] = .ok yard := rfl

theorem performAll_append
    {yard middle : Yard}
    {commands : List Command}
    (hFirst : yard.performAll commands = .ok middle)
    (later : List Command) :
    yard.performAll (commands ++ later) =
      middle.performAll later := by
  unfold performAll at hFirst ⊢
  rw [List.foldlM_append, hFirst]
  rfl

theorem performAll_concat
    {yard middle : Yard}
    {commands : List Command}
    (hFirst : yard.performAll commands = .ok middle)
    (command : Command) :
    yard.performAll (commands ++ [command]) =
      middle.perform command := by
  rw [performAll_append hFirst]
  change (middle.perform command >>= pure) = _
  rw [bind_pure]

/- Where a command fails, no longer run gets through. -/
theorem performAll_of_error
    {yard middle : Yard}
    {commands : List Command}
    {command : Command}
    {failure : CraneFailure}
    (hFirst : yard.performAll commands = .ok middle)
    (hPerform : middle.perform command = .error failure)
    (later : List Command) :
    yard.performAll (commands ++ command :: later) =
      .error failure := by
  rw [performAll_append hFirst]
  unfold performAll
  rw [List.foldlM_cons, hPerform]
  rfl

end Yard

end Gantry

------------------------------------------------------------
-- Runs On Record
------------------------------------------------------------

namespace Gantry

namespace Replay

/- A run is on record when each of its commands is. -/
theorem recorded?_eq_some
    {replay : Replay}
    {run : Completion}
    {outcomes : List Outcome}
    (hLength : outcomes.length = run.count)
    (hOutcomes :
      ∀ i, i < run.count →
        replay.outcome? (run.first + i) = outcomes[i]?) :
    replay.recorded? run = some outcomes := by
  unfold recorded?
  by_cases hEmpty : run.count = 0
  · rw [if_pos hEmpty]
    rw [hEmpty] at hLength
    rw [List.length_eq_zero_iff.mp hLength]
  · have hSome :
        ∀ i, i < run.count →
          replay.base ≤ run.first + i ∧
            run.first + i < replay.nextId := by
      intro i hI
      have hOutcome := hOutcomes i hI
      rw [List.getElem?_eq_getElem
        (by omega)] at hOutcome
      exact bounds_of_outcome? hOutcome
    have hFirst := hSome 0 (by omega)
    have hLast := hSome (run.count - 1) (by omega)
    rw [if_neg hEmpty, if_pos (by omega)]
    dsimp only
    rw [Option.some.injEq]
    apply List.ext_getElem?
    intro i
    rw [Array.getElem?_toList, Array.getElem?_extract]
    by_cases hI : i < run.count
    · have hOutcome := hOutcomes i hI
      rw [outcome?, if_pos (by omega)] at hOutcome
      rw [← hOutcome, if_pos]
      · congr 1
        omega
      · unfold nextId at hLast
        omega
    · rw [if_neg (by omega)]
      symm
      rw [List.getElem?_eq_none_iff]
      omega

/-
  What becomes of a run whose first commands have resolved
  and whose others were rejected for one reason.
-/
theorem summary_resolved_append
    (count : Nat)
    (others : List Outcome)
    {outcome : Outcome}
    (hRejected : outcome.isRejected = true)
    (hOthers : ∀ other ∈ others, other = outcome)
    (hNonempty : others ≠ []) :
    Outcome.summary
        (List.replicate count .resolved ++ others) =
      outcome := by
  have hSkip :
      (List.replicate count Outcome.resolved).find?
        Outcome.isRejected = none := by
    rw [List.find?_eq_none]
    intro other hOther
    rw [List.eq_of_mem_replicate hOther]
    simp [Outcome.isRejected]
  rcases List.exists_cons_of_ne_nil hNonempty with
    ⟨head, rest, rfl⟩
  have hHead := hOthers head (by simp)
  subst hHead
  unfold Outcome.summary
  rw [List.find?_append, hSkip, Option.none_or,
    List.find?_cons_of_pos hRejected]

theorem summary_resolved
    (count : Nat) :
    Outcome.summary (List.replicate count .resolved) =
      .resolved := by
  have hFind :
      (List.replicate count Outcome.resolved).find?
        Outcome.isRejected = none := by
    rw [List.find?_eq_none]
    intro other hOther
    rw [List.eq_of_mem_replicate hOther]
    simp [Outcome.isRejected]
  unfold Outcome.summary
  rw [hFind]
  simp [List.mem_replicate]

end Replay

end Gantry

------------------------------------------------------------
-- A Run Under Way
------------------------------------------------------------

namespace Gantry

namespace Replay

/-
  A run of commands numbered from `first` has been started
  on a `yard`: the commands `done` have been carried out, and
  those `waiting` are the whole queue.
-/
structure Underway
    (yard : Yard)
    (first : Nat)
    (done waiting : List Command)
    (replay : Replay) : Prop where
  orderly : replay.Orderly
  performed : yard.performAll done = .ok replay.yard
  queue :
    replay.queue =
      numberedFrom (first + done.length) waiting
  next :
    replay.nextId = first + done.length + waiting.length
  resolved :
    ∀ i, first + i < replay.firstPending →
      replay.outcome? (first + i) = some .resolved

/-
  Such a run has come to its end: what is left of it was
  rejected because its first command failed.
-/
structure Concluded
    (yard : Yard)
    (first : Nat)
    (done left : List Command)
    (replay : Replay) : Prop where
  idle : replay.active? = none
  performed : yard.performAll done = .ok replay.yard
  resolved :
    ∀ i, i < done.length →
      replay.outcome? (first + i) = some .resolved
  rejected :
    ∀ command rest, left = command :: rest →
      ∃ failure,
        replay.yard.perform command = .error failure ∧
          ∀ i, i < left.length →
            replay.outcome? (first + (done.length + i)) =
              some (.rejected failure)

/- The run is being shown, or it has come to its end. -/
def Replaying
    (yard : Yard)
    (first : Nat)
    (commands : List Command)
    (replay : Replay) : Prop :=
  ∃ done left,
    commands = done ++ left ∧
      ((Underway yard first done left replay ∧
          replay.active?.isSome) ∨
        Concluded yard first done left replay)

theorem Underway.pending
    {yard : Yard}
    {first : Nat}
    {done waiting : List Command}
    {replay : Replay}
    (hUnderway : Underway yard first done waiting replay) :
    replay.pending =
      waiting.length +
        (if replay.active?.isSome then 1 else 0) := by
  unfold Replay.pending
  rw [hUnderway.queue]
  simp [numberedFrom]

/- While nothing is shown, all that is done has resolved. -/
theorem Underway.firstPending
    {yard : Yard}
    {first : Nat}
    {done waiting : List Command}
    {replay : Replay}
    (hUnderway : Underway yard first done waiting replay)
    (hIdle : replay.active? = none) :
    replay.firstPending = first + done.length := by
  have hComplete := hUnderway.orderly.complete
  have hPending := hUnderway.pending
  have hNext := hUnderway.next
  simp only [hIdle, Option.isSome_none,
    Bool.false_eq_true, if_false] at hPending
  omega

theorem numberedFrom_cons
    (first : Nat)
    (command : Command)
    (rest : List Command) :
    numberedFrom first (command :: rest) =
      (first, command) ::
        numberedFrom (first + 1) rest := by
  unfold numberedFrom
  rw [List.zipIdx_cons', List.map_cons, List.map_map]
  congr 1
  apply List.map_congr_left
  intro pair _
  simp [Nat.add_assoc, Nat.add_comm 1]

/- The next command is carried out, or it ends the run. -/
theorem Underway.startNext
    {yard : Yard}
    {first : Nat}
    {done waiting : List Command}
    {replay : Replay}
    (hUnderway : Underway yard first done waiting replay)
    (hIdle : replay.active? = none) :
    Replaying yard first (done ++ waiting)
      replay.startNext := by
  have hFirst := hUnderway.firstPending hIdle
  have hQueue := hUnderway.queue
  have hOrderly := hUnderway.orderly
  cases waiting with
  | nil =>
      have hSame : replay.startNext = replay := by
        unfold Replay.startNext
        rw [hQueue]
        rfl
      rw [hSame]
      refine ⟨done, [], rfl, Or.inr ?_⟩
      constructor
      · exact hIdle
      · exact hUnderway.performed
      · intro i hI
        exact hUnderway.resolved i (by omega)
      · intro command rest hLeft
        cases hLeft
  | cons command rest =>
      rw [numberedFrom_cons] at hQueue
      cases hPerform : replay.yard.perform command with
      | ok after =>
          have hStep :=
            Step.applied hIdle hQueue hPerform
          rw [← startNext_of_ok hQueue hPerform] at hStep
          refine ⟨done ++ [command], rest, by simp,
            Or.inl ⟨?_, ?_⟩⟩
          · constructor
            · exact hStep.orderly hOrderly
            · rw [Yard.performAll_concat
                hUnderway.performed, hPerform,
                startNext_of_ok hQueue hPerform]
            · rw [startNext_of_ok hQueue hPerform]
              simp [Nat.add_assoc]
            · rw [startNext_of_ok hQueue hPerform]
              have hNext := hUnderway.next
              simp only [List.length_cons,
                List.length_append,
                List.length_nil] at hNext ⊢
              change replay.nextId = _
              omega
            · intro i hI
              rw [startNext_of_ok hQueue hPerform] at hI ⊢
              have hI : first + i < first + done.length :=
                hI
              exact hUnderway.resolved i (by omega)
          · rw [startNext_of_ok hQueue hPerform]
            rfl
      | error failure =>
          rw [startNext_of_error hIdle hQueue hPerform]
          refine ⟨done, command :: rest, rfl, Or.inr ?_⟩
          constructor
          · simp
          · simpa using hUnderway.performed
          · intro i hI
            rw [outcome?_settleAll, if_neg]
            · exact hUnderway.resolved i (by omega)
            · rw [hOrderly.mem_openIds_iff]
              omega
          · intro head tail hLeft
            cases hLeft
            refine ⟨failure, by simpa using hPerform, ?_⟩
            intro i hI
            have hNext := hUnderway.next
            have hOpen :
                first + (done.length + i) ∈
                  replay.openIds := by
              rw [hOrderly.mem_openIds_iff]
              omega
            have hPending :=
              (hOrderly.outcome?_eq_pending_iff _).mpr hOpen
            rw [outcome?_settleAll, if_pos]
            refine ⟨hOpen, ?_⟩
            change replay.outcome? _ ≠ none
            simp [hPending]

/- A command shown long enough resolves. -/
theorem Underway.resolveShown
    {yard : Yard}
    {first : Nat}
    {done waiting : List Command}
    {replay : Replay}
    {animation : Animation}
    (hUnderway : Underway yard first done waiting replay)
    (hActive : replay.active? = some animation) :
    Underway yard first done waiting
      (replay.resolveShown animation) := by
  have hOrderly := hUnderway.orderly
  have hStep := Step.finished hActive
  have hId : replay.firstPending = animation.id := by
    simp [Replay.firstPending, hActive]
  have hAfter :
      (replay.resolveShown animation).firstPending =
        replay.firstPending + 1 := by
    have hComplete := hOrderly.complete
    have hCompleteAfter := (hStep.orderly hOrderly).complete
    rw [nextId_settle] at hCompleteAfter
    simp only [Replay.pending, hActive, active?_settle,
      queue_settle, Option.isSome_some, Option.isSome_none,
      Bool.false_eq_true, if_true,
      if_false] at hComplete hCompleteAfter
    change
      (replay.resolveShown animation).firstPending +
        (replay.queue.length + 0) =
          replay.nextId at hCompleteAfter
    omega
  constructor
  · exact hStep.orderly hOrderly
  · simpa [Replay.resolveShown] using hUnderway.performed
  · simpa [Replay.resolveShown] using hUnderway.queue
  · rw [Replay.resolveShown, nextId_settle]
    exact hUnderway.next
  · intro i hI
    rw [hAfter] at hI
    rw [Replay.resolveShown, outcome?_settle]
    split
    · rfl
    · rename_i hOther
      by_cases hEq : first + i = animation.id
      · have hPending :=
          (hOrderly.outcome?_eq_pending_iff
            animation.id).mpr (by simp [openIds, hActive])
        exfalso
        apply hOther
        refine ⟨hEq, ?_⟩
        change replay.outcome? _ ≠ none
        simp [hEq, hPending]
      · exact hUnderway.resolved i (by omega)

/- The time that passes keeps a run on its way. -/
theorem replaying_tick
    {yard : Yard}
    {first : Nat}
    {commands : List Command}
    {replay : Replay}
    (hReplaying : Replaying yard first commands replay)
    (elapsed : Nat) :
    Replaying yard first commands
      (replay.tick elapsed) := by
  fun_induction tick replay elapsed with
  | case1 replay elapsed hIdle => exact hReplaying
  | case2 replay elapsed animation hActive needed hShort =>
      rcases hReplaying with
        ⟨done, left, hSplit, ⟨hUnderway, _⟩ | hConcluded⟩
      · refine ⟨done, left, hSplit, Or.inl ⟨?_, rfl⟩⟩
        have hStep := Step.shown hActive hShort
        have hFirst :
            replay.firstPending = animation.id := by
          simp [firstPending, hActive]
        constructor
        · exact hStep.orderly hUnderway.orderly
        · exact hUnderway.performed
        · exact hUnderway.queue
        · exact hUnderway.next
        · intro i hI
          have hI : first + i < animation.id := hI
          exact hUnderway.resolved i (by omega)
      · rw [hConcluded.idle] at hActive
        cases hActive
  | case3 replay elapsed animation hActive needed hLong
      ih =>
      apply ih
      rcases hReplaying with
        ⟨done, left, hSplit, ⟨hUnderway, _⟩ | hConcluded⟩
      · rw [finish_eq, hSplit]
        exact
          (hUnderway.resolveShown hActive).startNext
            (active?_resolveShown replay animation)
      · rw [hConcluded.idle] at hActive
        cases hActive

theorem replaying_ticks
    {yard : Yard}
    {first : Nat}
    {commands : List Command}
    {replay : Replay}
    (hReplaying : Replaying yard first commands replay)
    (ticks : List Nat) :
    Replaying yard first commands
      (ticks.foldl tick replay) := by
  induction ticks generalizing replay with
  | nil => exact hReplaying
  | cons elapsed ticks ih =>
      exact ih (replaying_tick hReplaying elapsed)

/- A settled replay starts a run of commands as a whole. -/
theorem replaying_enqueueAll
    {replay : Replay}
    (hOrderly : replay.Orderly)
    (hSettled : replay.isSettled)
    (commands : List Command) :
    Replaying replay.yard
      (replay.enqueueAll commands).1.first commands
      (replay.enqueueAll commands).2 := by
  simp only [isSettled, Bool.and_eq_true,
    Option.isNone_iff_eq_none,
    List.isEmpty_iff] at hSettled
  rcases hSettled with ⟨hIdle, hQueue⟩
  cases commands with
  | nil =>
      have hSame : replay.startIfIdle = replay := by
        simp only [startIfIdle, hIdle, startNext, hQueue]
      refine ⟨[], [], rfl, Or.inr ?_⟩
      change Concluded _ _ _ _ replay.startIfIdle
      rw [hSame]
      constructor
      · exact hIdle
      · rfl
      · intro i hI
        cases hI
      · intro command rest hLeft
        cases hLeft
  | cons command rest =>
      rw [enqueueAll_eq replay (by simp)]
      have hIdlePush :
          (replay.forget.push
            (command :: rest)).active? = none := by
        simp [push, hIdle]
      have hPush :=
        hOrderly.forget.push (command :: rest)
      have hUnderway :
          Underway replay.yard replay.forget.nextId []
            (command :: rest)
            (replay.forget.push (command :: rest)) := by
        constructor
        · exact hPush
        · simp [push]
        · simp [push, hQueue]
        · rw [nextId_push]
          simp
        · intro i hI
          have hComplete := hPush.complete
          have hPending :
              (replay.forget.push
                (command :: rest)).pending =
                  (command :: rest).length := by
            simp [pending, push, hIdle, hQueue,
              numberedFrom]
          rw [nextId_push] at hComplete
          omega
      have hStart :
          (replay.forget.push
              (command :: rest)).startIfIdle =
            (replay.forget.push
              (command :: rest)).startNext := by
        simp only [startIfIdle, hIdlePush]
      rw [hStart]
      exact hUnderway.startNext hIdlePush

end Replay

end Gantry

------------------------------------------------------------
-- Replay Refines The Sequence
------------------------------------------------------------

namespace Gantry

namespace Replay

/- What a run that has come to its end left on record. -/
theorem Concluded.recorded
    {yard : Yard}
    {first : Nat}
    {done left : List Command}
    {replay : Replay}
    (hConcluded : Concluded yard first done left replay) :
    ∃ others,
      replay.recorded? ⟨first, (done ++ left).length⟩ =
          some
            (List.replicate done.length .resolved ++
              others) ∧
        others.length = left.length ∧
        ∀ command rest, left = command :: rest →
          ∃ failure,
            replay.yard.perform command = .error failure ∧
              ∀ other ∈ others,
                other = .rejected failure := by
  cases left with
  | nil =>
      refine ⟨[], ?_, rfl, by simp⟩
      apply recorded?_eq_some
      · simp
      · intro i hI
        have hI : i < done.length := by simpa using hI
        rw [hConcluded.resolved i hI, List.append_nil,
          List.getElem?_replicate, if_pos hI]
  | cons command rest =>
      rcases hConcluded.rejected command rest rfl with
        ⟨failure, hPerform, hRejected⟩
      refine
        ⟨List.replicate (command :: rest).length
          (.rejected failure), ?_, by simp, ?_⟩
      · apply recorded?_eq_some
        · simp
        · intro i hI
          have hI :
              i < done.length + (command :: rest).length := by
            simpa using hI
          by_cases hDone : i < done.length
          · rw [hConcluded.resolved i hDone,
              List.getElem?_append_left (by simpa),
              List.getElem?_replicate, if_pos hDone]
          · have hRest :=
              hRejected (i - done.length) (by omega)
            have hIndex :
                done.length + (i - done.length) = i := by
              omega
            rw [hIndex] at hRest
            rw [hRest,
              List.getElem?_append_right (by simpa using
                hDone),
              List.getElem?_replicate, if_pos (by
                rw [List.length_replicate]
                omega)]
      · intro head tail hLeft
        cases hLeft
        refine ⟨failure, hPerform, ?_⟩
        intro other hOther
        exact List.eq_of_mem_replicate hOther

/- Just the commands done count as resolved. -/
theorem Concluded.resolvedCount
    {yard : Yard}
    {first : Nat}
    {done left : List Command}
    {replay : Replay}
    (hConcluded : Concluded yard first done left replay) :
    replay.resolvedCount ⟨first, (done ++ left).length⟩ =
      done.length := by
  rcases hConcluded.recorded with
    ⟨others, hRecorded, hLength, hOthers⟩
  have hNone : others.count .resolved = 0 := by
    rw [List.count_eq_zero]
    intro hMember
    cases left with
    | nil =>
        rw [List.length_eq_zero_iff.mp hLength] at hMember
        cases hMember
    | cons command rest =>
        rcases hOthers command rest rfl with
          ⟨failure, _, hAll⟩
        cases hAll _ hMember
  unfold Replay.resolvedCount
  rw [hRecorded, Option.getD_some, List.count_append,
    List.count_replicate_self, hNone, Nat.add_zero]

/- The run as a whole resolved, or its next command failed. -/
theorem Concluded.poll
    {yard : Yard}
    {first : Nat}
    {done left : List Command}
    {replay : Replay}
    (hConcluded : Concluded yard first done left replay) :
    (left = [] →
      replay.poll ⟨first, (done ++ left).length⟩ =
        some .resolved) ∧
      ∀ command rest, left = command :: rest →
        ∃ failure,
          replay.yard.perform command = .error failure ∧
            replay.poll ⟨first, (done ++ left).length⟩ =
              some (.rejected failure) := by
  rcases hConcluded.recorded with
    ⟨others, hRecorded, hLength, hOthers⟩
  constructor
  · rintro rfl
    rw [List.length_eq_zero_iff.mp hLength] at hRecorded
    rw [Replay.poll, hRecorded, Option.map_some,
      List.append_nil, summary_resolved]
  · intro command rest hLeft
    rcases hOthers command rest hLeft with
      ⟨failure, hPerform, hAll⟩
    refine ⟨failure, hPerform, ?_⟩
    have hNonempty : others ≠ [] := by
      intro hEmpty
      rw [hEmpty, hLeft] at hLength
      cases hLength
    rw [Replay.poll, hRecorded, Option.map_some,
      summary_resolved_append done.length others rfl hAll
        hNonempty]

/-
  The commands done are the longest part of the run, from
  its start, that succeeds one after another.
-/
theorem Concluded.isGreatest
    {yard : Yard}
    {first : Nat}
    {done left : List Command}
    {replay : Replay}
    (hConcluded : Concluded yard first done left replay) :
    IsGreatest
      {count | count ≤ (done ++ left).length ∧
        ∃ after,
          yard.performAll ((done ++ left).take count) =
            .ok after}
      done.length := by
  constructor
  · refine ⟨by simp, replay.yard, ?_⟩
    rw [List.take_left]
    exact hConcluded.performed
  · rintro count ⟨hCount, after, hAfter⟩
    apply Nat.le_of_not_lt
    intro hLonger
    cases left with
    | nil =>
        rw [List.append_nil] at hCount
        omega
    | cons command rest =>
        rcases hConcluded.rejected command rest rfl with
          ⟨failure, hPerform, _⟩
        have hTake :
            (done ++ command :: rest).take count =
              done ++ command ::
                rest.take (count - done.length - 1) := by
          rw [List.take_append, List.take_of_length_le
            (by omega)]
          congr 1
          cases hSize : count - done.length with
          | zero => omega
          | succ size => rfl
        rw [hTake, Yard.performAll_of_error
          hConcluded.performed hPerform] at hAfter
        cases hAfter

theorem Replaying.concluded
    {yard : Yard}
    {first : Nat}
    {commands : List Command}
    {replay : Replay}
    (hReplaying : Replaying yard first commands replay)
    (hSettled : replay.isSettled) :
    ∃ done left,
      commands = done ++ left ∧
        Concluded yard first done left replay := by
  rcases hReplaying with
    ⟨done, left, hSplit, ⟨_, hActive⟩ | hConcluded⟩
  · simp only [isSettled, Bool.and_eq_true,
      Option.isNone_iff_eq_none] at hSettled
    rw [hSettled.1] at hActive
    cases hActive
  · exact ⟨done, left, hSplit, hConcluded⟩

theorem count_enqueueAll
    (replay : Replay)
    (commands : List Command) :
    (replay.enqueueAll commands).1.count =
      commands.length := by
  cases commands with
  | nil => rfl
  | cons command rest => rfl

theorem first_enqueueAll
    {replay : Replay}
    (hOrderly : replay.Orderly)
    (commands : List Command) :
    (replay.enqueueAll commands).1.first =
      replay.nextId := by
  cases commands with
  | nil => rfl
  | cons command rest => exact hOrderly.nextId_forget

/- Once all has settled, a run of commands is concluded. -/
theorem concluded_enqueueAll
    {replay : Replay}
    (hOrderly : replay.Orderly)
    (hSettled : replay.isSettled)
    (commands : List Command)
    (ticks : List Nat)
    (hFinal :
      (ticks.foldl tick
        (replay.enqueueAll commands).2).isSettled) :
    let run := (replay.enqueueAll commands).1
    ∃ done left,
      commands = done ++ left ∧
        run = ⟨run.first, (done ++ left).length⟩ ∧
        Concluded replay.yard run.first done left
          (ticks.foldl tick
            (replay.enqueueAll commands).2) := by
  rcases (replaying_ticks
      (replaying_enqueueAll hOrderly hSettled commands)
      ticks).concluded hFinal with
    ⟨done, left, hParts, hConcluded⟩
  refine ⟨done, left, hParts, ?_, hConcluded⟩
  rw [← hParts, ← count_enqueueAll replay commands]

/-
  A run of commands given to a settled replay. Let `k`
  commands at its start succeed one after another, and no
  more. However time passes until all has settled, the yard
  is that after exactly these `k` commands, just they count
  as resolved, and the run as a whole has resolved if they
  are all, or else was rejected because the next command
  fails. Waiting is such a way for time to pass.
-/
theorem enqueueAll_refines_performAll
    (world : World)
    (operations : List Operation)
    (commands : List Command)
    (hSettled :
      ((ofWorld world).actAll operations).isSettled) :
    let replay := (ofWorld world).actAll operations
    let run := (replay.enqueueAll commands).1
    let started := (replay.enqueueAll commands).2
    (∃ ticks : List Nat,
      started.wait.2 = ticks.foldl tick started) ∧
    started.wait.2.isSettled ∧
    ∃ k,
      IsGreatest
        {count | count ≤ commands.length ∧
          ∃ after,
            replay.yard.performAll (commands.take count) =
              .ok after} k ∧
      ∀ ticks : List Nat,
        (ticks.foldl tick started).isSettled →
          let final := ticks.foldl tick started
          replay.yard.performAll (commands.take k) =
              .ok final.yard ∧
            final.resolvedCount run = k ∧
            (k = commands.length →
              final.poll run = some .resolved) ∧
            (∀ command, commands[k]? = some command →
              ∃ failure,
                final.yard.perform command =
                    .error failure ∧
                  final.poll run =
                    some (.rejected failure)) := by
  intro replay run started
  have hReplaying :
      Replaying replay.yard run.first commands started :=
    replaying_enqueueAll (orderly_actAll world operations)
      hSettled commands
  have hRun : run = ⟨run.first, commands.length⟩ := by
    rw [← count_enqueueAll replay commands]
  have hWait : started.wait.2.isSettled :=
    (prompt_enqueueAll replay commands).isSettled_wait
  rcases wait_eq_ticks started with ⟨strides, hStrides⟩
  refine ⟨⟨strides, hStrides⟩, hWait, ?_⟩
  rw [hStrides] at hWait
  -- the commands done when waiting is over give the number,
  -- which no other way for time to pass can change
  rcases (replaying_ticks hReplaying strides).concluded
      hWait with
    ⟨waited, rest, hSplit, hWaited⟩
  have hLongest := hWaited.isGreatest
  rw [← hSplit] at hLongest
  refine ⟨waited.length, hLongest, ?_⟩
  intro ticks hTicks final
  rcases (replaying_ticks hReplaying ticks).concluded
      hTicks with
    ⟨done, left, hParts, hConcluded⟩
  have hSame : waited.length = done.length := by
    have hOther := hConcluded.isGreatest
    rw [← hParts] at hOther
    exact hLongest.unique hOther
  have hPoll := hConcluded.poll
  have hCount := hConcluded.resolvedCount
  rw [← hParts, ← hRun] at hPoll hCount
  rw [hSame]
  refine ⟨?_, hCount, ?_, ?_⟩
  · rw [hParts, List.take_left]
    exact hConcluded.performed
  · intro hAll
    apply hPoll.1
    rw [hParts, List.length_append] at hAll
    apply List.length_eq_zero_iff.mp
    omega
  · intro command hCommand
    rw [hParts, List.getElem?_append_right
      (Nat.le_refl _), Nat.sub_self] at hCommand
    cases left with
    | nil => cases hCommand
    | cons head tail =>
        cases hCommand
        exact hPoll.2 command tail rfl

/-
  A field of two by two cells, a crane turned to the east,
  steps that take no time: the first move succeeds, the
  second runs into the wall and takes the turn with it.
-/
theorem enqueueAll_refines_performAll_wall :
    let replay :=
      (ofWorld (World.empty 2 2)).actAll
        [.setStep 0, .enqueue ⟨.turnLeft, none⟩, .wait]
    let commands : List Command :=
      [⟨.move, none⟩, ⟨.move, none⟩, ⟨.turnLeft, none⟩]
    let run := (replay.enqueueAll commands).1
    let final := (replay.enqueueAll commands).2.tick 5
    replay.isSettled ∧
      final.isSettled ∧
      replay.yard.performAll (commands.take 1) =
        .ok final.yard ∧
      final.poll run =
        some (.rejected (.outOfBounds .move 2 0)) := by
  intro replay commands run final
  have hSettled : replay.isSettled := by decide +kernel
  have hFinal : final.isSettled := by decide +kernel
  refine ⟨hSettled, hFinal, ?_⟩
  rcases enqueueAll_refines_performAll (World.empty 2 2)
      [.setStep 0, .enqueue ⟨.turnLeft, none⟩, .wait]
      commands hSettled with
    ⟨_, _, k, _, hTicks⟩
  rcases hTicks [5] hFinal with
    ⟨hPerformed, hCount, _, hNext⟩
  have hOne : final.resolvedCount run = 1 := by
    decide +kernel
  have hK : k = 1 := hCount.symm.trans hOne
  subst hK
  refine ⟨hPerformed, ?_⟩
  rcases hNext ⟨.move, none⟩ rfl with
    ⟨failure, hFailure, hPoll⟩
  have hWall :
      final.yard.perform ⟨.move, none⟩ =
        .error (.outOfBounds .move 2 0) := by
    decide +kernel
  have hSame := hFailure.symm.trans hWall
  cases hSame
  exact hPoll

end Replay

end Gantry
