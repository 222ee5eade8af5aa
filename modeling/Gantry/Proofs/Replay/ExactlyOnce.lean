import Gantry.Proofs.Replay.History

/-
  This file shows that every command is carried out at most
  once, that commands are carried out in the order in which
  they were queued, and that the outcomes on record tell the
  truth, whatever operations are mixed.

  Key definitions include:
    * `Gantry.Replay.applied`
    * `Gantry.Replay.interrupted`
    * `Gantry.Replay.Event.effect`
    * `Gantry.Replay.Honest`

  Main statements:
    * `Gantry.Replay.Run.effect`
    * `Gantry.Replay.Run.applied_inOrder`
    * `Gantry.Replay.Run.applied_issued`
    * `Gantry.Replay.Run.honest`
    * `Gantry.Replay.applied_exactly_once`
-/

------------------------------------------------------------
-- The Yard
------------------------------------------------------------

namespace Gantry

namespace Replay

/-
  What an event does to the yard. Only commands that are
  carried out and changes from outside do anything to it.
-/
def Event.effect
    (yard : Yard) :
    Event → Except CraneFailure Yard
| .applied _ command => yard.perform command
| .stationed pose supply =>
    .ok { yard with
      crane := { pose := pose }
      supply := supply }
| .loaded world => .ok { yard with world := world }
| .handed kind? =>
    .ok { yard with
      crane := { yard.crane with carried? := kind? } }
| _ => .ok yard

theorem Step.effect
    {replay after : Replay}
    {event : Event}
    (hStep : Step replay event after) :
    event.effect replay.yard = .ok after.yard := by
  cases hStep with
  | queued commands => simp [Event.effect, push]
  | applied hIdle hQueue hPerform => exact hPerform
  | refused hIdle hQueue hPerform => simp [Event.effect]
  | shown hActive hShort => rfl
  | finished hActive => simp [Event.effect]
  | cancelled => simp [Event.effect, cancelPending_eq]
  | stationed pose supply => rfl
  | loaded world => rfl
  | handed kind? => rfl
  | paced step => rfl

/- The yard is what the events have made of it. -/
theorem Run.effect
    {replay after : Replay}
    {events : List Event}
    (hRun : Run replay events after) :
    events.foldlM Event.effect replay.yard =
      .ok after.yard := by
  induction hRun with
  | nil => rfl
  | cons hStep _ ih =>
      rw [List.foldlM_cons, hStep.effect]
      exact ih

end Replay

end Gantry

------------------------------------------------------------
-- The Queue
------------------------------------------------------------

namespace Gantry

namespace Replay

/- The commands that an event puts into the queue. -/
def Event.issued :
    Event → List Command
| .queued commands => commands
| _ => []

/- The commands put into the queue, in time order. -/
def issued
    (events : List Event) : List Command :=
  events.flatMap Event.issued

/- The command that an event carries out. -/
def Event.application? :
    Event → Option (Nat × Command)
| .applied id command => some (id, command)
| _ => none

/- The commands carried out, in time order. -/
def applied
    (events : List Event) : List (Nat × Command) :=
  events.filterMap Event.application?

/- The numbers of the commands carried out. -/
def appliedIds
    (events : List Event) : List Nat :=
  (applied events).map (·.1)

theorem Event.eq_applied
    {event : Event}
    {id : Nat}
    {command : Command}
    (hApplied :
      event.application? = some (id, command)) :
    event = .applied id command := by
  cases event with
  | applied other command =>
      simp only [application?, Option.some.injEq,
        Prod.mk.injEq] at hApplied
      rw [hApplied.1, hApplied.2]
  | _ => simp [application?] at hApplied

theorem appliedIds_append
    (events later : List Event) :
    appliedIds (events ++ later) =
      appliedIds events ++ appliedIds later := by
  simp [appliedIds, applied]

/- Every command takes a number of its own. -/
theorem Step.nextId
    {replay after : Replay}
    {event : Event}
    (hStep : Step replay event after)
    (hOrderly : replay.Orderly) :
    after.nextId =
      replay.nextId + event.issued.length := by
  cases hStep with
  | queued commands =>
      rw [nextId_push, hOrderly.nextId_forget]
      rfl
  | applied hIdle hQueue hPerform => rfl
  | refused hIdle hQueue hPerform =>
      rw [nextId_settleAll]
      rfl
  | shown hActive hShort => rfl
  | finished hActive =>
      rw [nextId_settle]
      rfl
  | cancelled =>
      rw [cancelPending_eq, nextId_settleAll]
      rfl
  | stationed pose supply => rfl
  | loaded world => rfl
  | handed kind? => rfl
  | paced step => rfl

/-
  The queue gets longer at its end, or it loses its head to
  be carried out, or all of it; otherwise it stays.
-/
theorem Step.queue
    {replay after : Replay}
    {event : Event}
    (hStep : Step replay event after)
    (hOrderly : replay.Orderly) :
    (∃ commands,
      event = .queued commands ∧
        after.queue =
          replay.queue ++
            numberedFrom replay.nextId commands) ∨
    (∃ id command,
      event = .applied id command ∧
        replay.queue = (id, command) :: after.queue) ∨
    (event.issued = [] ∧
      event.application? = none ∧
        (after.queue = [] ∨
          after.queue = replay.queue)) := by
  cases hStep with
  | queued commands =>
      refine Or.inl ⟨commands, rfl, ?_⟩
      rw [← hOrderly.nextId_forget]
      simp [push]
  | applied hIdle hQueue hPerform =>
      exact Or.inr (Or.inl ⟨_, _, rfl, hQueue⟩)
  | refused hIdle hQueue hPerform =>
      exact Or.inr (Or.inr ⟨rfl, rfl, Or.inl (by simp)⟩)
  | shown hActive hShort =>
      exact Or.inr (Or.inr ⟨rfl, rfl, Or.inr rfl⟩)
  | finished hActive =>
      exact Or.inr (Or.inr ⟨rfl, rfl, Or.inr (by simp)⟩)
  | cancelled =>
      refine Or.inr (Or.inr ⟨rfl, rfl, Or.inl ?_⟩)
      simp [cancelPending_eq]
  | stationed pose supply =>
      exact Or.inr (Or.inr ⟨rfl, rfl, Or.inr rfl⟩)
  | loaded world =>
      exact Or.inr (Or.inr ⟨rfl, rfl, Or.inr rfl⟩)
  | handed kind? =>
      exact Or.inr (Or.inr ⟨rfl, rfl, Or.inr rfl⟩)
  | paced step =>
      exact Or.inr (Or.inr ⟨rfl, rfl, Or.inr rfl⟩)

theorem Step.queue_of_applied
    {replay after : Replay}
    {id : Nat}
    {command : Command}
    (hStep : Step replay (.applied id command) after) :
    replay.queue = (id, command) :: after.queue := by
  cases hStep with
  | applied hIdle hQueue hPerform => exact hQueue

end Replay

end Gantry

------------------------------------------------------------
-- The Order Of Application
------------------------------------------------------------

namespace Gantry

namespace Replay

/- The number of the first command that has not started. -/
def firstWaiting
    (replay : Replay) : Nat :=
  replay.nextId - replay.queue.length

/- The commands that wait are the last ones. -/
theorem Orderly.queue_ids
    {replay : Replay}
    (hOrderly : replay.Orderly) :
    replay.queue.length ≤ replay.nextId ∧
      replay.queue.map (·.1) =
        List.range' replay.firstWaiting
          replay.queue.length := by
  have hNumbered := hOrderly.numbered
  have hComplete := hOrderly.complete
  unfold firstWaiting
  unfold openIds pending at hNumbered
  unfold pending at hComplete
  cases hActive : replay.active? with
  | none =>
      simp only [hActive, Option.map_none,
        Option.toList_none, List.nil_append,
        Option.isSome_none, Bool.false_eq_true,
        if_false, Nat.add_zero] at hNumbered hComplete
      refine ⟨by omega, ?_⟩
      rw [hNumbered]
      congr 1
      omega
  | some animation =>
      simp only [hActive, Option.map_some,
        Option.toList_some, List.singleton_append,
        Option.isSome_some, if_true,
        List.range'_succ] at hNumbered hComplete
      refine ⟨by omega, ?_⟩
      rw [(List.cons.inj hNumbered).2]
      congr 1
      omega

/- What waits has not settled. -/
theorem Orderly.firstPending_le_firstWaiting
    {replay : Replay}
    (hOrderly : replay.Orderly) :
    replay.firstPending ≤ replay.firstWaiting := by
  have hComplete := hOrderly.complete
  unfold pending at hComplete
  unfold firstWaiting
  omega

/- The head of the queue is the first that has not started. -/
theorem Orderly.firstWaiting_eq
    {replay : Replay}
    (hOrderly : replay.Orderly)
    {id : Nat}
    {command : Command}
    {rest : List (Nat × Command)}
    (hQueue : replay.queue = (id, command) :: rest) :
    replay.firstWaiting = id := by
  have hIds := hOrderly.queue_ids.2
  rw [hQueue, List.map_cons, List.length_cons,
    List.range'_succ] at hIds
  exact (List.cons.inj hIds).1.symm

/- Commands never go back to waiting. -/
theorem Step.firstWaiting_le
    {replay after : Replay}
    {event : Event}
    (hStep : Step replay event after)
    (hOrderly : replay.Orderly) :
    replay.firstWaiting ≤ after.firstWaiting := by
  have hNext := hStep.nextId hOrderly
  unfold firstWaiting
  rcases hStep.queue hOrderly with
    ⟨commands, rfl, hQueue⟩ |
    ⟨id, command, rfl, hQueue⟩ |
    ⟨hIssued, hApplied, hQueue | hQueue⟩
  · have hLength :
        after.queue.length =
          replay.queue.length + commands.length := by
      simp [hQueue, numberedFrom]
    rw [hNext, hLength]
    simp only [Event.issued]
    omega
  · rw [hNext, hQueue, List.length_cons]
    omega
  · rw [hNext, hQueue, List.length_nil]
    omega
  · rw [hNext, hQueue]
    omega

/- The command carried out is the first that waits. -/
theorem Step.firstWaiting_of_applied
    {replay after : Replay}
    {id : Nat}
    {command : Command}
    (hStep : Step replay (.applied id command) after)
    (hOrderly : replay.Orderly) :
    id = replay.firstWaiting ∧
      id < after.firstWaiting := by
  have hNext := hStep.nextId hOrderly
  have hLength := hOrderly.queue_ids.1
  have hQueue := hStep.queue_of_applied
  have hFirst := hOrderly.firstWaiting_eq hQueue
  refine ⟨hFirst.symm, ?_⟩
  rw [← hFirst]
  rw [hQueue, List.length_cons] at hLength
  unfold firstWaiting
  rw [hQueue, List.length_cons, hNext]
  simp only [Event.issued, List.length_nil]
  omega

theorem Run.firstWaiting_le
    {replay after : Replay}
    {events : List Event}
    (hRun : Run replay events after)
    (hOrderly : replay.Orderly) :
    replay.firstWaiting ≤ after.firstWaiting := by
  induction hRun with
  | nil => exact Nat.le_refl _
  | cons hStep _ ih =>
      exact Nat.le_trans (hStep.firstWaiting_le hOrderly)
        (ih (hStep.orderly hOrderly))

/-
  Along a run, commands are carried out in the order of
  their numbers, from the first that waits at its start.
-/
theorem Run.applied_inOrder
    {replay after : Replay}
    {events : List Event}
    (hRun : Run replay events after)
    (hOrderly : replay.Orderly) :
    (appliedIds events).Pairwise (· < ·) ∧
      ∀ id ∈ appliedIds events,
        replay.firstWaiting ≤ id ∧
          id < after.firstWaiting := by
  induction hRun with
  | nil => simp [appliedIds, applied]
  | @cons start middle stop event events hStep hRun ih =>
      rcases ih (hStep.orderly hOrderly) with
        ⟨hSorted, hBounds⟩
      have hMono := hStep.firstWaiting_le hOrderly
      have hTail :
          ∀ id ∈ appliedIds events,
            start.firstWaiting ≤ id ∧
              id < stop.firstWaiting := by
        intro id hId
        have hBound := hBounds id hId
        omega
      cases hApplied : event.application? with
      | none =>
          have hSame :
              appliedIds (event :: events) =
                appliedIds events := by
            simp [appliedIds, applied, hApplied]
          rw [hSame]
          exact ⟨hSorted, hTail⟩
      | some application =>
          rcases application with ⟨id, command⟩
          have hEvent := Event.eq_applied hApplied
          subst hEvent
          have hFirst :=
            hStep.firstWaiting_of_applied hOrderly
          have hMiddle :=
            hRun.firstWaiting_le (hStep.orderly hOrderly)
          have hCons :
              appliedIds (.applied id command :: events) =
                id :: appliedIds events := by
            simp [appliedIds, applied, hApplied]
          rw [hCons]
          constructor
          · refine List.pairwise_cons.mpr ⟨?_, hSorted⟩
            intro other hOther
            have hBound := hBounds other hOther
            omega
          · intro other hOther
            rcases List.mem_cons.mp hOther with rfl | hOther
            · omega
            · exact hTail other hOther

/-
  `commands` are all the commands that got a number, in
  order, and what waits is among them.
-/
structure Issued
    (commands : List Command)
    (replay : Replay) : Prop where
  length : commands.length = replay.nextId
  queue :
    ∀ id command, (id, command) ∈ replay.queue →
      commands[id]? = some command

theorem Step.issued
    {replay after : Replay}
    {event : Event}
    {commands : List Command}
    (hStep : Step replay event after)
    (hOrderly : replay.Orderly)
    (hIssued : Issued commands replay) :
    Issued (commands ++ event.issued) after := by
  constructor
  · rw [hStep.nextId hOrderly, List.length_append,
      hIssued.length]
  · intro id command hMember
    have hOld :
        (id, command) ∈ replay.queue →
          (commands ++ event.issued)[id]? =
            some command := by
      intro hQueue
      have hFound := hIssued.queue id command hQueue
      rw [List.getElem?_append_left]
      · exact hFound
      · exact (List.getElem?_eq_some_iff.mp hFound).1
    rcases hStep.queue hOrderly with
      ⟨fresh, rfl, hQueue⟩ |
      ⟨first, head, rfl, hQueue⟩ |
      ⟨_, _, hQueue | hQueue⟩
    · rw [hQueue, List.mem_append] at hMember
      rcases hMember with hMember | hMember
      · exact hOld hMember
      · rcases List.mem_iff_getElem?.mp hMember with
          ⟨i, hI⟩
        rw [getElem?_numberedFrom,
          Option.map_eq_some_iff] at hI
        rcases hI with ⟨found, hFound, hPair⟩
        cases hPair
        rw [← hIssued.length, List.getElem?_append_right
          (Nat.le_add_right _ _), Nat.add_sub_cancel_left]
        exact hFound
    · exact hOld (by rw [hQueue]; simp [hMember])
    · rw [hQueue] at hMember
      cases hMember
    · exact hOld (hQueue ▸ hMember)

/- What is carried out under a number was queued under it. -/
theorem Run.applied_issued
    {replay after : Replay}
    {events : List Event}
    {commands : List Command}
    (hRun : Run replay events after)
    (hOrderly : replay.Orderly)
    (hIssued : Issued commands replay) :
    ∀ id command, (id, command) ∈ applied events →
      (commands ++ issued events)[id]? = some command := by
  induction hRun generalizing commands with
  | nil =>
      intro id command hMember
      cases hMember
  | @cons start middle stop event events hStep hRun ih =>
      intro id command hMember
      have hLater :=
        ih (hStep.orderly hOrderly)
          (hStep.issued hOrderly hIssued)
      have hSplit :
          commands ++ Replay.issued (event :: events) =
            commands ++ event.issued ++
              Replay.issued events := by
        simp [Replay.issued]
      rw [hSplit]
      have hEither :
          event.application? = some (id, command) ∨
            (id, command) ∈ applied events := by
        cases hApplied : event.application? with
        | none =>
            right
            simpa [applied, hApplied] using hMember
        | some application =>
            simpa [applied, hApplied, eq_comm] using hMember
      rcases hEither with hHere | hThere
      · have hEvent := Event.eq_applied hHere
        subst hEvent
        have hFound :=
          hIssued.queue id command
            (by rw [hStep.queue_of_applied]; simp)
        rw [List.append_assoc, List.getElem?_append_left]
        · exact hFound
        · exact (List.getElem?_eq_some_iff.mp hFound).1
      · exact hLater id command hThere

end Replay

end Gantry

------------------------------------------------------------
-- Honest Outcomes
------------------------------------------------------------

namespace Gantry

namespace Replay

/- The command whose showing an event breaks off. -/
def Event.interrupted? :
    Event → Option Nat
| .cancelled shown? => shown?
| _ => none

/- The commands cancelled while they were shown. -/
def interrupted
    (events : List Event) : List Nat :=
  events.filterMap Event.interrupted?

/-
  An outcome tells the truth about a command, where `done`
  are the commands carried out and `stopped` those cancelled
  while they were shown.
-/
def Tells
    (done stopped : List Nat)
    (id : Nat) :
    Outcome → Prop
| .pending => True
| .resolved => id ∈ done
| .rejected _ => id ∉ done
| .cancelled => id ∈ done → id ∈ stopped

/- What a command says of itself bears on no other one. -/
theorem Tells.append
    {done stopped more : List Nat}
    {id first : Nat}
    {outcome : Outcome}
    (hTells : Tells done stopped id outcome)
    (hNe : id ≠ first) :
    Tells (done ++ [first]) (stopped ++ more) id
      outcome := by
  cases outcome with
  | pending => trivial
  | resolved =>
      exact List.mem_append_left _ hTells
  | rejected failure =>
      intro hMember
      rcases List.mem_append.mp hMember with hOld | hNew
      · exact hTells hOld
      · exact hNe (List.mem_singleton.mp hNew)
  | cancelled =>
      intro hMember
      rcases List.mem_append.mp hMember with hOld | hNew
      · exact List.mem_append_left _ (hTells hOld)
      · exact absurd (List.mem_singleton.mp hNew) hNe

/- Breaking off one command leaves the others as they are. -/
theorem Tells.interrupt
    {done stopped : List Nat}
    {id : Nat}
    {outcome : Outcome}
    (hTells : Tells done stopped id outcome)
    (more : List Nat) :
    Tells done (stopped ++ more) id outcome := by
  cases outcome with
  | pending => trivial
  | resolved => exact hTells
  | rejected failure => exact hTells
  | cancelled =>
      intro hMember
      exact List.mem_append_left _ (hTells hMember)

/-
  The command shown has been carried out, those that wait
  have not, and all outcomes on record tell the truth.
-/
structure Honest
    (done stopped : List Nat)
    (replay : Replay) : Prop where
  shown :
    ∀ animation, replay.active? = some animation →
      animation.id ∈ done
  started : ∀ id ∈ done, id < replay.firstWaiting
  told :
    ∀ id outcome, replay.outcome? id = some outcome →
      Tells done stopped id outcome

theorem Orderly.firstWaiting_le_of_mem_queue
    {replay : Replay}
    (hOrderly : replay.Orderly)
    {id : Nat}
    (hMember : id ∈ replay.queue.map (·.1)) :
    replay.firstWaiting ≤ id := by
  rw [hOrderly.queue_ids.2, List.mem_range'_1] at hMember
  exact hMember.1

/- An open command that was carried out is being shown. -/
theorem Honest.eq_shown
    {done stopped : List Nat}
    {replay : Replay}
    (hHonest : Honest done stopped replay)
    (hOrderly : replay.Orderly)
    {id : Nat}
    (hOpen : id ∈ replay.openIds)
    (hDone : id ∈ done) :
    replay.active?.map (·.id) = some id := by
  rcases List.mem_append.mp hOpen with hShown | hWaiting
  · exact Option.mem_toList.mp hShown
  · have hStarted := hHonest.started id hDone
    have hNot :=
      hOrderly.firstWaiting_le_of_mem_queue hWaiting
    omega

/- Every event keeps outcomes honest. -/
theorem Step.told
    {replay after : Replay}
    {event : Event}
    {done stopped : List Nat}
    (hStep : Step replay event after)
    (hOrderly : replay.Orderly)
    (hHonest : Honest done stopped replay)
    (id : Nat)
    (outcome : Outcome)
    (hOutcome : after.outcome? id = some outcome) :
    Tells
      (done ++ (event.application?.map (·.1)).toList)
      (stopped ++ event.interrupted?.toList) id
      outcome := by
  cases hStep with
  | queued commands =>
      rw [outcome?_push, outcome?_forget] at hOutcome
      split at hOutcome
      · cases hOutcome
        trivial
      · split at hOutcome
        · simpa [Event.application?, Event.interrupted?]
            using hHonest.told id outcome hOutcome
        · cases hOutcome
  | @applied first command rest yard hIdle hQueue
      hPerform =>
      have hOld : replay.outcome? id = some outcome :=
        hOutcome
      by_cases hEq : id = first
      · -- the command carried out is still on record as
        -- pending, which says nothing yet
        have hOpen : id ∈ replay.openIds := by
          simp [openIds, hQueue, hEq]
        rw [(hOrderly.outcome?_eq_pending_iff id).mpr
          hOpen] at hOld
        cases hOld
        trivial
      · exact (hHonest.told id outcome hOld).append hEq
  | refused hIdle hQueue hPerform =>
      rw [outcome?_settleAll] at hOutcome
      simp only [Event.application?, Event.interrupted?,
        Option.map_none, Option.toList_none,
        List.append_nil]
      split at hOutcome
      · rename_i hOpen
        cases hOutcome
        intro hDone
        have hShown :=
          hHonest.eq_shown hOrderly hOpen.1 hDone
        simp [hIdle] at hShown
      · exact hHonest.told id outcome hOutcome
  | shown hActive hShort =>
      simpa [Event.application?, Event.interrupted?] using
        hHonest.told id outcome hOutcome
  | @finished animation hActive =>
      rw [outcome?_settle] at hOutcome
      simp only [Event.application?, Event.interrupted?,
        Option.map_none, Option.toList_none,
        List.append_nil]
      split at hOutcome
      · rename_i hShown
        cases hOutcome
        rw [hShown.1]
        exact hHonest.shown animation hActive
      · exact hHonest.told id outcome hOutcome
  | cancelled =>
      rw [cancelPending_eq, outcome?_settleAll] at hOutcome
      simp only [Event.application?, Event.interrupted?,
        Option.map_none, Option.toList_none,
        List.append_nil]
      split at hOutcome
      · rename_i hOpen
        cases hOutcome
        intro hDone
        apply List.mem_append_right
        rw [Option.mem_toList]
        exact hHonest.eq_shown hOrderly hOpen.1 hDone
      · exact (hHonest.told id outcome hOutcome).interrupt _
  | stationed pose supply =>
      simpa [Event.application?, Event.interrupted?] using
        hHonest.told id outcome hOutcome
  | loaded world =>
      simpa [Event.application?, Event.interrupted?] using
        hHonest.told id outcome hOutcome
  | handed kind? =>
      simpa [Event.application?, Event.interrupted?] using
        hHonest.told id outcome hOutcome
  | paced step =>
      simpa [Event.application?, Event.interrupted?] using
        hHonest.told id outcome hOutcome

/- Only a command just carried out becomes the shown one. -/
theorem Step.active?
    {replay after : Replay}
    {event : Event}
    (hStep : Step replay event after)
    (animation : Animation)
    (hActive : after.active? = some animation) :
    event.application?.map (·.1) = some animation.id ∨
      ∃ earlier, replay.active? = some earlier ∧
        earlier.id = animation.id := by
  cases hStep with
  | applied hIdle hQueue hPerform =>
      cases hActive
      exact Or.inl rfl
  | refused hIdle hQueue hPerform => simp at hActive
  | shown hShown hShort =>
      cases hActive
      exact Or.inr ⟨_, hShown, rfl⟩
  | finished hShown => simp at hActive
  | cancelled => simp [cancelPending_eq] at hActive
  | queued commands =>
      refine Or.inr ⟨animation, ?_, rfl⟩
      simpa [push] using hActive
  | stationed pose supply =>
      exact Or.inr ⟨animation, hActive, rfl⟩
  | loaded world =>
      exact Or.inr ⟨animation, hActive, rfl⟩
  | handed kind? =>
      exact Or.inr ⟨animation, hActive, rfl⟩
  | paced step =>
      exact Or.inr ⟨animation, hActive, rfl⟩

theorem Step.honest
    {replay after : Replay}
    {event : Event}
    {done stopped : List Nat}
    (hStep : Step replay event after)
    (hOrderly : replay.Orderly)
    (hHonest : Honest done stopped replay) :
    Honest
      (done ++ (event.application?.map (·.1)).toList)
      (stopped ++ event.interrupted?.toList)
      after := by
  constructor
  · intro animation hActive
    rcases hStep.active? animation hActive with
      hHere | ⟨earlier, hEarlier, hSame⟩
    · apply List.mem_append_right
      rw [hHere]
      simp
    · apply List.mem_append_left
      rw [← hSame]
      exact hHonest.shown earlier hEarlier
  · intro id hDone
    rcases List.mem_append.mp hDone with hOld | hNew
    · exact Nat.lt_of_lt_of_le (hHonest.started id hOld)
        (hStep.firstWaiting_le hOrderly)
    · rw [Option.mem_toList, Option.map_eq_some_iff] at hNew
      rcases hNew with ⟨⟨first, command⟩, hApplied, rfl⟩
      have hEvent := Event.eq_applied hApplied
      subst hEvent
      exact (hStep.firstWaiting_of_applied hOrderly).2
  · exact hStep.told hOrderly hHonest

/- Outcomes are honest after any run. -/
theorem Run.honest
    {replay after : Replay}
    {events : List Event}
    {done stopped : List Nat}
    (hRun : Run replay events after)
    (hOrderly : replay.Orderly)
    (hHonest : Honest done stopped replay) :
    Honest (done ++ appliedIds events)
      (stopped ++ interrupted events) after := by
  induction hRun generalizing done stopped with
  | nil => simpa [appliedIds, applied, interrupted]
  | @cons start middle stop event events hStep hRun ih =>
      have hLater :=
        ih (hStep.orderly hOrderly)
          (hStep.honest hOrderly hHonest)
      have hDone :
          done ++ appliedIds (event :: events) =
            done ++ (event.application?.map (·.1)).toList ++
              appliedIds events := by
        cases hApplied : event.application? <;>
          simp [appliedIds, applied, hApplied]
      have hStopped :
          stopped ++ interrupted (event :: events) =
            stopped ++ event.interrupted?.toList ++
              interrupted events := by
        cases hInterrupted : event.interrupted? <;>
          simp [interrupted, hInterrupted]
      rw [hDone, hStopped]
      exact hLater

end Replay

end Gantry

------------------------------------------------------------
-- Any Mix Of Operations
------------------------------------------------------------

namespace Gantry

namespace Replay

theorem issued_append
    (events later : List Event) :
    issued (events ++ later) =
      issued events ++ issued later :=
  List.flatMap_append

theorem issued_startEvents
    (replay : Replay) :
    issued replay.startEvents = [] := by
  unfold startEvents
  split
  · rfl
  · split
    · rfl
    · rfl

theorem issued_idleEvents
    (replay : Replay) :
    issued replay.idleEvents = [] := by
  unfold idleEvents
  split
  · rfl
  · exact issued_startEvents replay

theorem issued_enqueueEvents
    (replay : Replay)
    (commands : List Command) :
    issued (replay.enqueueEvents commands) = commands := by
  cases commands with
  | nil => exact issued_idleEvents replay
  | cons command commands =>
      simp only [enqueueEvents, issued, Event.issued,
        List.flatMap_cons]
      rw [← issued, issued_idleEvents, List.append_nil]

theorem issued_tickEvents
    (replay : Replay)
    (elapsed : Nat) :
    issued (replay.tickEvents elapsed) = [] := by
  fun_induction tickEvents replay elapsed with
  | case1 => rfl
  | case2 => rfl
  | case3 replay elapsed animation hActive needed hLong
      ih =>
      change issued (_ ++ _) = []
      rw [issued_append, issued_startEvents, ih]
      rfl

theorem issued_strideEvents
    (stride rounds : Nat)
    (replay : Replay) :
    issued (strideEvents stride rounds replay) = [] := by
  induction rounds generalizing replay with
  | zero => rfl
  | succ rounds ih =>
      unfold strideEvents
      split
      · rfl
      · rw [issued_append, issued_tickEvents, ih]
        rfl

/- Commands are queued by the operations that bring them. -/
theorem issued_events
    (replay : Replay)
    (operation : Operation) :
    issued (replay.events operation) =
      operation.commands := by
  cases operation with
  | enqueue command =>
      exact issued_enqueueEvents replay [command]
  | enqueueAll commands =>
      exact issued_enqueueEvents replay commands
  | tick elapsed => exact issued_tickEvents replay elapsed
  | wait => exact issued_strideEvents _ _ replay
  | reset => rfl
  | station pose supply => rfl
  | loadWorld world => rfl
  | setCarried kind? => rfl
  | setStep step => rfl

theorem issued_history
    (replay : Replay)
    (operations : List Operation) :
    issued (replay.history operations) =
      operations.flatMap Operation.commands := by
  induction operations generalizing replay with
  | nil => rfl
  | cons operation operations ih =>
      rw [history, issued_append, issued_events, ih,
        List.flatMap_cons]

theorem issued_ofWorld
    (world : World) :
    Issued [] (ofWorld world) where
  length := rfl
  queue := by
    intro id command hMember
    cases hMember

theorem honest_ofWorld
    (world : World) :
    Honest [] [] (ofWorld world) where
  shown := by
    intro animation hActive
    cases hActive
  started := by
    intro id hDone
    cases hDone
  told := by
    intro id outcome hOutcome
    have hBounds := bounds_of_outcome? hOutcome
    exact absurd hBounds.2 (Nat.not_lt_zero id)

/-
  A command that has settled is not carried out afterwards.
-/
theorem Run.not_applied_of_settled
    {replay after : Replay}
    {events : List Event}
    (hRun : Run replay events after)
    (hOrderly : replay.Orderly)
    {id : Nat}
    {outcome : Outcome}
    (hOutcome : replay.outcome? id = some outcome)
    (hSettled : outcome ≠ .pending) :
    id ∉ appliedIds events := by
  intro hApplied
  have hWaiting :=
    ((hRun.applied_inOrder hOrderly).2 id hApplied).1
  have hFirst := hOrderly.firstPending_le_firstWaiting
  have hPending :=
    hOrderly.waiting id (by omega)
      (bounds_of_outcome? hOutcome).2
  rw [hOutcome] at hPending
  exact hSettled (Option.some.inj hPending)

/-
  Whatever `operations` are made and whatever comes `later`,
  commands are carried out at most once, in the order and
  with the content in which they were queued. What is on
  record after the `operations` is true, also of all that
  comes `later`: a resolved command has been carried out
  once, a rejected one never, and a cancelled one only if it
  was the one shown when it was cancelled. The yard is what
  the changes from outside and these commands, all of which
  succeed, make of it one after another.
-/
theorem applied_exactly_once
    (world : World)
    (operations later : List Operation) :
    let start := ofWorld world
    let replay := start.actAll operations
    let past := start.history operations
    let all := start.history (operations ++ later)
    (appliedIds all).Pairwise (· < ·) ∧
      (∀ id command, (id, command) ∈ applied all →
        ((operations ++ later).flatMap
          Operation.commands)[id]? = some command) ∧
      (∀ id, replay.outcome? id = some .resolved →
        (appliedIds all).count id = 1) ∧
      (∀ id failure,
        replay.outcome? id = some (.rejected failure) →
          id ∉ appliedIds all) ∧
      (∀ id, replay.outcome? id = some .cancelled →
        id ∈ appliedIds all → id ∈ interrupted past) ∧
      Run start past replay ∧
      past.foldlM Event.effect start.yard =
        .ok replay.yard := by
  intro start replay past all
  have hOrderly : replay.Orderly :=
    orderly_actAll world operations
  have hPast : Run start past replay :=
    run_history start operations
  have hLater :
      Run replay (replay.history later)
        (replay.actAll later) :=
    run_history replay later
  have hAll :
      Run start all (start.actAll (operations ++ later)) :=
    run_history start (operations ++ later)
  have hSplit : all = past ++ replay.history later :=
    history_append start operations later
  have hInOrder :=
    (hAll.applied_inOrder (orderly_ofWorld world)).1
  have hHonest :=
    hPast.honest (orderly_ofWorld world)
      (honest_ofWorld world)
  simp only [List.nil_append] at hHonest
  refine ⟨hInOrder, ?_, ?_, ?_, ?_, hPast, hPast.effect⟩
  · rw [← issued_history start]
    have hIssued :=
      hAll.applied_issued (orderly_ofWorld world)
        (issued_ofWorld world)
    simpa only [List.nil_append] using hIssued
  · intro id hResolved
    have hDone : id ∈ appliedIds all := by
      rw [hSplit, appliedIds_append]
      exact List.mem_append_left _
        (hHonest.told id _ hResolved)
    have hNodup : (appliedIds all).Nodup :=
      hInOrder.imp Nat.ne_of_lt
    rw [hNodup.count, if_pos hDone]
  · intro id failure hRejected
    rw [hSplit, appliedIds_append, List.mem_append]
    rintro (hBefore | hAfter)
    · exact hHonest.told id _ hRejected hBefore
    · exact hLater.not_applied_of_settled hOrderly
        hRejected (by simp) hAfter
  · intro id hCancelled hDone
    rw [hSplit, appliedIds_append,
      List.mem_append] at hDone
    rcases hDone with hBefore | hAfter
    · exact hHonest.told id _ hCancelled hBefore
    · exact absurd hAfter
        (hLater.not_applied_of_settled hOrderly
          hCancelled (by simp))

end Replay

end Gantry
