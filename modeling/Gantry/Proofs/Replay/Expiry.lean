import Gantry.Proofs.Replay.LifeCycle

/-
  This file says what it means that a run of commands has
  been forgotten. The record drops outcomes one by one, from
  the oldest on, and always keeps the latest `historyLength`
  that have settled. So a run that is no longer than that,
  or longer by one, is forgotten only when all of it has
  settled; a longer one can be forgotten while some of its
  commands are still open.

  Key definitions include:
    * `Gantry.Replay.Windowed`
    * `Gantry.Replay.finishedIds`
    * `Gantry.Replay.Confirmed`

  Main statements:
    * `Gantry.Replay.Step.firstPending_le`
    * `Gantry.Replay.Run.windowed`
    * `Gantry.Replay.Run.confirmed`
    * `Gantry.Replay.forgotten_means_settled`
-/

------------------------------------------------------------
-- The Window
------------------------------------------------------------

namespace Gantry

namespace Replay

/- What is pending after an event was so or is new. -/
theorem Change.firstPending_le_of_pending
    {replay after : Replay}
    {event : Event}
    (hChange : Change replay after event)
    (hOrderly : replay.Orderly)
    {id : Nat}
    (hPending : after.outcome? id = some .pending) :
    replay.firstPending ≤ id := by
  have hComplete := hOrderly.complete
  have hOld :
      replay.outcome? id = some .pending →
        replay.firstPending ≤ id := by
    intro hBefore
    apply Nat.le_of_not_lt
    intro hSettled
    exact hOrderly.settled id hSettled hBefore
  cases hChange with
  | longer commands _ hAfter =>
      rw [hAfter] at hPending
      split at hPending
      · omega
      · split at hPending
        · exact hOld hPending
        · cases hPending
  | same _ _ hAfter =>
      rw [hAfter] at hPending
      exact hOld hPending
  | first _ _ hAfter =>
      rw [hAfter] at hPending
      split at hPending
      · cases hPending
      · exact hOld hPending
  | rest _ hFinal _ _ hAfter =>
      rw [hAfter] at hPending
      split at hPending
      · omega
      · exact hOld hPending

/- Commands settle in order and never open again. -/
theorem Step.firstPending_le
    {replay after : Replay}
    {event : Event}
    (hStep : Step replay event after)
    (hOrderly : replay.Orderly) :
    replay.firstPending ≤ after.firstPending := by
  have hAfter := hStep.orderly hOrderly
  by_cases hOpen : after.firstPending < after.nextId
  · exact
      (hStep.change hOrderly).firstPending_le_of_pending
        hOrderly
        (hAfter.waiting after.firstPending (Nat.le_refl _)
          hOpen)
  · have hNext := hStep.nextId hOrderly
    have hComplete := hOrderly.complete
    omega

/-
  Outcomes are dropped only where so many later ones have
  settled that the history is full.
-/
def Windowed
    (replay : Replay) : Prop :=
  replay.base ≤ replay.firstPending - historyLength

theorem Step.windowed
    {replay after : Replay}
    {event : Event}
    (hStep : Step replay event after)
    (hOrderly : replay.Orderly)
    (hWindowed : replay.Windowed) :
    after.Windowed := by
  have hFirst := hStep.firstPending_le hOrderly
  unfold Windowed at *
  cases hStep.change hOrderly with
  | longer commands hBase _ =>
      rw [hBase, surplus]
      omega
  | same _ hBase _ => omega
  | first _ hBase _ => omega
  | rest _ _ _ hBase _ => omega

theorem Run.windowed
    {replay after : Replay}
    {events : List Event}
    (hRun : Run replay events after)
    (hOrderly : replay.Orderly)
    (hWindowed : replay.Windowed) :
    after.Windowed := by
  induction hRun with
  | nil => exact hWindowed
  | cons hStep _ ih =>
      exact ih (hStep.orderly hOrderly)
        (hStep.windowed hOrderly hWindowed)

theorem windowed_actAll
    (world : World)
    (operations : List Operation) :
    ((ofWorld world).actAll operations).Windowed :=
  (run_history (ofWorld world) operations).windowed
    (orderly_ofWorld world) (Nat.zero_le _)

/- Of a run that is forgotten, this many have settled. -/
theorem Coherent.settled_of_forgotten
    {run : Completion}
    {replay : Replay}
    (hRun : Coherent run replay)
    (hWindowed : replay.Windowed)
    (hPoll : replay.poll run = none) :
    run.first + historyLength < replay.firstPending := by
  rw [hRun.poll_eq_none_iff] at hPoll
  unfold Windowed at hWindowed
  omega

end Replay

end Gantry

------------------------------------------------------------
-- Commands That Have Resolved
------------------------------------------------------------

namespace Gantry

namespace Replay

/- The commands that events resolve, in time order. -/
def finishedIds
    (events : List Event) : List Nat :=
  events.filterMap Event.finished?

/-
  Just the commands `done` have resolved, as far as there
  is a record of them.
-/
structure Confirmed
    (done : List Nat)
    (replay : Replay) : Prop where
  settled : ∀ id ∈ done, id < replay.firstPending
  resolved :
    ∀ id outcome, replay.outcome? id = some outcome →
      (outcome = .resolved ↔ id ∈ done)

/- A command that resolves is no longer the first open one. -/
theorem Step.firstPending_lt_of_finished
    {replay after : Replay}
    {id : Nat}
    (hStep : Step replay (.finished id) after)
    (hOrderly : replay.Orderly) :
    id < after.firstPending := by
  have hAfter := hStep.orderly hOrderly
  have hNext := hStep.nextId hOrderly
  have hFirst := hStep.firstPending_le hOrderly
  cases hStep.change hOrderly with
  | same hEvent _ _ => cases hEvent
  | rest hEvent _ _ _ _ => cases hEvent
  | first hOpen _ hOutcome =>
      apply Nat.lt_of_not_le
      intro hLe
      have hPending :=
        hAfter.waiting replay.firstPending hLe (by omega)
      rw [hOutcome, if_pos rfl] at hPending
      cases hPending

theorem Step.confirmed
    {replay after : Replay}
    {event : Event}
    {done : List Nat}
    (hStep : Step replay event after)
    (hOrderly : replay.Orderly)
    (hDone : Confirmed done replay) :
    Confirmed (done ++ event.finished?.toList) after := by
  have hFirst := hStep.firstPending_le hOrderly
  have hComplete := hOrderly.complete
  have hOpen :
      ∀ id, replay.firstPending ≤ id → id ∉ done := by
    intro id hId hMember
    have := hDone.settled id hMember
    omega
  constructor
  · intro id hId
    rcases List.mem_append.mp hId with hOld | hNew
    · exact Nat.lt_of_lt_of_le (hDone.settled id hOld) hFirst
    · rw [Option.mem_toList] at hNew
      cases event with
      | finished other =>
          cases hNew
          exact hStep.firstPending_lt_of_finished hOrderly
      | _ => cases hNew
  · intro id outcome hOutcome
    cases hStep.change hOrderly with
    | longer commands _ hAfter =>
        rw [hAfter] at hOutcome
        simp only [Event.finished?, Option.toList_none,
          List.append_nil]
        split at hOutcome
        · cases hOutcome
          have := hOpen id (by omega)
          simpa using this
        · split at hOutcome
          · exact hDone.resolved id outcome hOutcome
          · cases hOutcome
    | same hEvent _ hAfter =>
        rw [hAfter] at hOutcome
        rw [hEvent, Option.toList_none, List.append_nil]
        exact hDone.resolved id outcome hOutcome
    | first _ _ hAfter =>
        rw [hAfter] at hOutcome
        simp only [Event.finished?, Option.toList_some,
          List.mem_append, List.mem_singleton]
        split at hOutcome
        · rename_i hEq
          cases hOutcome
          simp [hEq]
        · rename_i hOther
          rw [hDone.resolved id outcome hOutcome]
          simp [hOther]
    | rest hEvent _ hFailed _ hAfter =>
        rw [hAfter] at hOutcome
        rw [hEvent, Option.toList_none, List.append_nil]
        split at hOutcome
        · rename_i hBounds
          cases hOutcome
          have := hOpen id hBounds.1
          simp [this, hFailed]
        · exact hDone.resolved id outcome hOutcome

theorem Run.confirmed
    {replay after : Replay}
    {events : List Event}
    {done : List Nat}
    (hRun : Run replay events after)
    (hOrderly : replay.Orderly)
    (hDone : Confirmed done replay) :
    Confirmed (done ++ finishedIds events) after := by
  induction hRun generalizing done with
  | nil => simpa [finishedIds] using hDone
  | @cons start middle stop event events hStep hRun ih =>
      have hLater :=
        ih (hStep.orderly hOrderly)
          (hStep.confirmed hOrderly hDone)
      have hSplit :
          finishedIds (event :: events) =
            event.finished?.toList ++
              finishedIds events := by
        cases hFinished : event.finished? with
        | none => simp [finishedIds, hFinished]
        | some id => simp [finishedIds, hFinished]
      rw [hSplit, ← List.append_assoc]
      exact hLater

theorem confirmed_actAll
    (world : World)
    (operations : List Operation) :
    Confirmed
      (finishedIds ((ofWorld world).history operations))
      ((ofWorld world).actAll operations) := by
  have hEmpty : Confirmed [] (ofWorld world) := by
    constructor
    · simp
    · intro id outcome hOutcome
      have hBounds := bounds_of_outcome? hOutcome
      have hNext : (ofWorld world).nextId = 0 := rfl
      omega
  simpa using
    (run_history (ofWorld world) operations).confirmed
      (orderly_ofWorld world) hEmpty

/- The commands counted are those that have resolved. -/
theorem Coherent.resolvedCount
    {run : Completion}
    {replay : Replay}
    {done : List Nat}
    (hRun : Coherent run replay)
    (hDone : Confirmed done replay)
    (hPoll : replay.poll run ≠ none) :
    replay.resolvedCount run =
      run.ids.countP fun id => decide (id ∈ done) := by
  rw [Ne, hRun.poll_eq_none_iff] at hPoll
  have hNumbered := hRun.numbered
  rw [Replay.resolvedCount, recorded?_eq hNumbered,
    if_pos (by omega), Option.getD_some, List.count,
    List.countP_filterMap]
  apply List.countP_congr
  intro id hId
  rw [Completion.ids, List.mem_range'_1] at hId
  cases hOutcome : replay.outcome? id with
  | none =>
      rw [outcome?_eq_none_iff] at hOutcome
      omega
  | some outcome =>
      have hResolved := hDone.resolved id outcome hOutcome
      simp [hResolved]

end Replay

end Gantry

------------------------------------------------------------
-- Forgotten Runs
------------------------------------------------------------

namespace Gantry

namespace Replay

/-
  A run that was handed out, at any later time. If it is
  forgotten, its first commands have settled, as many as the
  history keeps and one more; if it is not, just those of its
  commands are counted that have resolved. So of a run that
  is not longer than that, nothing is forgotten while any of
  its commands is shown or waits.
-/
theorem forgotten_means_settled
    (world : World)
    (operations : List Operation)
    (run : Completion)
    (hRun : run ∈ (ofWorld world).handles operations) :
    let now := (ofWorld world).actAll operations
    let done :=
      finishedIds ((ofWorld world).history operations)
    (now.poll run = none →
      ∀ id ∈ run.ids, id ≤ run.first + historyLength →
        id ∉ now.openIds) ∧
    (now.poll run ≠ none →
      now.resolvedCount run =
        run.ids.countP fun id => decide (id ∈ done)) ∧
    (run.count ≤ historyLength + 1 →
      (∃ id ∈ run.ids, id ∈ now.openIds) →
        now.poll run ≠ none) := by
  intro now done
  have hOrderly : now.Orderly :=
    orderly_actAll world operations
  have hCoherent : Coherent run now :=
    coherent_of_mem_handles (orderly_ofWorld world) hRun
  have hWindowed : now.Windowed :=
    windowed_actAll world operations
  have hSettled :
      now.poll run = none →
        ∀ id ∈ run.ids, id ≤ run.first + historyLength →
          id ∉ now.openIds := by
    intro hPoll id _ hEarly hOpen
    have hFirst :=
      hCoherent.settled_of_forgotten hWindowed hPoll
    rw [hOrderly.mem_openIds_iff] at hOpen
    omega
  refine ⟨hSettled, ?_, ?_⟩
  · exact hCoherent.resolvedCount
      (confirmed_actAll world operations)
  · rintro hShort ⟨id, hId, hOpen⟩ hPoll
    refine hSettled hPoll id hId ?_ hOpen
    rw [Completion.ids, List.mem_range'_1] at hId
    omega

/-
  A run as long as the history and one more, of which the
  last command is still shown when another one is queued.
-/
theorem forgotten_means_settled_turns :
    let turn : Command := ⟨.turnLeft, none⟩
    let operations : List Operation :=
      [.setStep 1,
        .enqueueAll (List.replicate (historyLength + 1) turn),
        .tick historyLength, .enqueue turn]
    let run : Completion := ⟨0, historyLength + 1⟩
    let now := (ofWorld (World.empty 1 1)).actAll operations
    run ∈ (ofWorld (World.empty 1 1)).handles operations ∧
      historyLength ∈ now.openIds ∧
      now.poll run ≠ none := by
  intro turn operations run now
  have hRun :
      run ∈ (ofWorld (World.empty 1 1)).handles
        operations := by
    decide +kernel
  have hOpen : historyLength ∈ now.openIds := by
    decide +kernel
  refine ⟨hRun, hOpen, ?_⟩
  exact (forgotten_means_settled (World.empty 1 1) operations
    run hRun).2.2 (Nat.le_refl _)
    ⟨historyLength, by decide +kernel, hOpen⟩

/-
  With one command more, the run is forgotten while its last
  command is still shown.
-/
theorem forgotten_while_shown :
    let turn : Command := ⟨.turnLeft, none⟩
    let operations : List Operation :=
      [.setStep 1,
        .enqueueAll (List.replicate (historyLength + 2) turn),
        .tick (historyLength + 1), .enqueue turn]
    let run : Completion := ⟨0, historyLength + 2⟩
    let now := (ofWorld (World.empty 1 1)).actAll operations
    run ∈ (ofWorld (World.empty 1 1)).handles operations ∧
      historyLength + 1 ∈ run.ids ∧
      historyLength + 1 ∈ now.openIds ∧
      now.poll run = none ∧
      now.resolvedCount run = 0 := by
  decide +kernel

end Replay

end Gantry
