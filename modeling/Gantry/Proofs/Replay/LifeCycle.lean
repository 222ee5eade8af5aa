import Gantry.Proofs.Replay.ExactlyOnce
import Gantry.Proofs.Replay.Sequence
import Mathlib.Data.List.Basic

/-
  This file follows a run of commands from the moment it is
  handed out. While it is on record, some of its commands
  have resolved and all others share one outcome; once the
  run as a whole has an outcome, it keeps that outcome until
  it is forgotten, and what is forgotten stays so.

  Key definitions include:
    * `Gantry.Replay.Change`
    * `Gantry.Replay.Coherent`
    * `Gantry.Completion.ids`
    * `Gantry.Replay.handles`

  Main statements:
    * `Gantry.Replay.Step.change`
    * `Gantry.Replay.Step.coherent`
    * `Gantry.Replay.recorded?_eq`
    * `Gantry.Replay.coherent_of_mem_handles`
    * `Gantry.Replay.handle_keeps_its_outcome`
-/

------------------------------------------------------------
-- Changes Of The Record
------------------------------------------------------------

namespace Gantry

namespace Replay

/- The command that an event resolves. -/
def Event.finished? :
    Event → Option Nat
| .finished id => some id
| _ => none

/-
  What an event does to the record: it adds commands behind
  all others and drops some of the oldest, or it leaves the
  record alone, or the first open command resolves, or all
  open commands fail together.
-/
inductive Change
    (replay after : Replay) :
    Event → Prop
  | longer
      (commands : List Command)
      (hBase : after.base = replay.base + replay.surplus)
      (hOutcome :
        ∀ id, after.outcome? id =
          if replay.nextId ≤ id ∧
              id < replay.nextId + commands.length then
            some .pending
          else if replay.base + replay.surplus ≤ id then
            replay.outcome? id
          else
            none) :
      Change replay after (.queued commands)
  | same
      {event : Event}
      (hEvent : event.finished? = none)
      (hBase : after.base = replay.base)
      (hOutcome :
        ∀ id, after.outcome? id = replay.outcome? id) :
      Change replay after event
  | first
      (hOpen : replay.firstPending < replay.nextId)
      (hBase : after.base = replay.base)
      (hOutcome :
        ∀ id, after.outcome? id =
          if id = replay.firstPending then
            some .resolved
          else
            replay.outcome? id) :
      Change replay after (.finished replay.firstPending)
  | rest
      {event : Event}
      {outcome : Outcome}
      (hEvent : event.finished? = none)
      (hFinal : outcome ≠ .pending)
      (hFailed : outcome ≠ .resolved)
      (hBase : after.base = replay.base)
      (hOutcome :
        ∀ id, after.outcome? id =
          if replay.firstPending ≤ id ∧
              id < replay.nextId then
            some outcome
          else
            replay.outcome? id) :
      Change replay after event

/- All open commands get the outcome that they are given. -/
theorem Orderly.outcome?_settleOpen
    {replay : Replay}
    (hOrderly : replay.Orderly)
    (outcome : Outcome)
    (id : Nat) :
    (settleAll
      { replay with queue := [], active? := none }
      replay.openIds outcome).outcome? id =
      if replay.firstPending ≤ id ∧ id < replay.nextId then
        some outcome
      else
        replay.outcome? id := by
  rw [outcome?_settleAll]
  change
    (if id ∈ replay.openIds ∧ replay.outcome? id ≠ none then
      some outcome
    else
      replay.outcome? id) = _
  by_cases hOpen : id ∈ replay.openIds
  · have hPending :=
      (hOrderly.outcome?_eq_pending_iff id).mpr hOpen
    rw [if_pos ⟨hOpen, by simp [hPending]⟩,
      if_pos ((hOrderly.mem_openIds_iff id).mp hOpen)]
  · rw [if_neg (fun hBoth => hOpen hBoth.1),
      if_neg (fun hBounds =>
        hOpen ((hOrderly.mem_openIds_iff id).mpr hBounds))]

/- The command shown is the first that has not settled. -/
theorem Orderly.firstPending_of_active?
    {replay : Replay}
    (hOrderly : replay.Orderly)
    {animation : Animation}
    (hActive : replay.active? = some animation) :
    replay.firstPending = animation.id ∧
      replay.firstPending < replay.nextId := by
  have hFirst : replay.firstPending = animation.id := by
    simp [firstPending, hActive]
  have hOpen : animation.id ∈ replay.openIds := by
    simp [openIds, hActive]
  rw [hOrderly.mem_openIds_iff] at hOpen
  exact ⟨hFirst, by omega⟩

/- Every event changes the record in one of these ways. -/
theorem Step.change
    {replay after : Replay}
    {event : Event}
    (hStep : Step replay event after)
    (hOrderly : replay.Orderly) :
    Change replay after event := by
  cases hStep with
  | queued commands =>
      refine .longer commands (base_forget replay) ?_
      intro id
      rw [outcome?_push, hOrderly.nextId_forget,
        outcome?_forget]
  | applied hIdle hQueue hPerform =>
      exact .same rfl rfl fun _ => rfl
  | refused hIdle hQueue hPerform =>
      refine .rest rfl (by simp) (by simp) ?_
        (hOrderly.outcome?_settleOpen _)
      rw [base_settleAll]
  | shown hActive hShort =>
      exact .same rfl rfl fun _ => rfl
  | @finished animation hActive =>
      rcases hOrderly.firstPending_of_active? hActive with
        ⟨hFirst, hOpen⟩
      have hPending :=
        hOrderly.waiting replay.firstPending
          (Nat.le_refl _) hOpen
      rw [← hFirst]
      refine .first hOpen (base_settle _ _ _) ?_
      intro id
      rw [outcome?_settle]
      by_cases hEq : id = replay.firstPending
      · subst hEq
        rw [if_pos rfl]
        refine if_pos ⟨rfl, ?_⟩
        change replay.outcome? replay.firstPending ≠ none
        simp [hPending]
      · rw [if_neg hEq]
        exact if_neg fun hBoth => hEq hBoth.1
  | cancelled =>
      refine .rest rfl (by simp) (by simp) ?_
        (hOrderly.outcome?_settleOpen _)
      rw [cancelPending_eq, base_settleAll]
  | stationed pose supply =>
      exact .same rfl rfl fun _ => rfl
  | loaded world => exact .same rfl rfl fun _ => rfl
  | handed kind? => exact .same rfl rfl fun _ => rfl
  | paced step => exact .same rfl rfl fun _ => rfl

/- Nothing that has been forgotten comes back. -/
theorem Change.base_le
    {replay after : Replay}
    {event : Event}
    (hChange : Change replay after event) :
    replay.base ≤ after.base := by
  cases hChange with
  | longer commands hBase _ =>
      rw [hBase]
      exact Nat.le_add_right _ _
  | same _ hBase _ => exact Nat.le_of_eq hBase.symm
  | first _ hBase _ => exact Nat.le_of_eq hBase.symm
  | rest _ _ _ hBase _ => exact Nat.le_of_eq hBase.symm

/- A command that has settled keeps its outcome. -/
theorem Change.outcome?_of_settled
    {replay after : Replay}
    {event : Event}
    (hChange : Change replay after event)
    (hOrderly : replay.Orderly)
    {id : Nat}
    {outcome : Outcome}
    (hOutcome : replay.outcome? id = some outcome)
    (hSettled : outcome ≠ .pending) :
    after.outcome? id = some outcome ∨
      after.outcome? id = none := by
  have hBounds := bounds_of_outcome? hOutcome
  have hFirst : id < replay.firstPending := by
    apply Nat.lt_of_not_le
    intro hOpen
    have hPending := hOrderly.waiting id hOpen hBounds.2
    rw [hOutcome, Option.some.injEq] at hPending
    exact hSettled hPending
  cases hChange with
  | longer commands _ hAfter =>
      rw [hAfter, if_neg (by omega)]
      split
      · exact Or.inl hOutcome
      · exact Or.inr rfl
  | same _ _ hAfter =>
      rw [hAfter]
      exact Or.inl hOutcome
  | first _ _ hAfter =>
      rw [hAfter, if_neg (by omega)]
      exact Or.inl hOutcome
  | rest _ _ _ _ hAfter =>
      rw [hAfter, if_neg (by omega)]
      exact Or.inl hOutcome

end Replay

end Gantry

------------------------------------------------------------
-- Coherent Runs
------------------------------------------------------------

namespace Gantry

/- The numbers of the commands of a run. -/
def Completion.ids
    (run : Completion) : List Nat :=
  List.range' run.first run.count

namespace Replay

/-
  The commands of a run have been numbered, and if one of
  them has not resolved, those behind it share its outcome.
-/
structure Coherent
    (run : Completion)
    (replay : Replay) : Prop where
  numbered : run.first + run.count ≤ replay.nextId
  shared :
    ∀ id later outcome,
      run.first ≤ id → id ≤ later →
        later < run.first + run.count →
          replay.outcome? id = some outcome →
            outcome ≠ .resolved →
              replay.outcome? later = some outcome

/-
  No event sets commands of a run apart. Where one of them
  has failed, the run has no open commands: they would share
  the failure.
-/
theorem Step.coherent
    {replay after : Replay}
    {event : Event}
    {run : Completion}
    (hStep : Step replay event after)
    (hOrderly : replay.Orderly)
    (hRun : Coherent run replay) :
    Coherent run after := by
  have hNumbered := hRun.numbered
  have hNext := hStep.nextId hOrderly
  constructor
  · omega
  intro id later outcome hFirst hLater hLast hOutcome
    hFailed
  have hShared :
      replay.outcome? id = some outcome →
        replay.outcome? later = some outcome := fun hOld =>
    hRun.shared id later outcome hFirst hLater hLast hOld
      hFailed
  have hBehind :
      id < replay.firstPending →
        replay.outcome? id = some outcome →
          later < replay.firstPending := by
    intro hSettled hOld
    apply Nat.lt_of_not_le
    intro hOpen
    have hPending := hOrderly.waiting later hOpen (by omega)
    rw [hShared hOld, Option.some.injEq] at hPending
    rw [hPending] at hOld
    exact hOrderly.settled id hSettled hOld
  cases hStep.change hOrderly with
  | longer commands _ hAfter =>
      rw [hAfter, if_neg (by omega)] at hOutcome ⊢
      split at hOutcome
      · rw [if_pos (by omega)]
        exact hShared hOutcome
      · cases hOutcome
  | same _ _ hAfter =>
      rw [hAfter] at hOutcome ⊢
      exact hShared hOutcome
  | first hOpen _ hAfter =>
      rw [hAfter] at hOutcome ⊢
      split at hOutcome
      · cases hOutcome
        contradiction
      · rename_i hOther
        rw [if_neg ?_]
        · exact hShared hOutcome
        · rintro rfl
          have := hBehind (by omega) hOutcome
          omega
  | rest _ _ _ _ hAfter =>
      rw [hAfter] at hOutcome ⊢
      split at hOutcome
      · rw [if_pos (by omega)]
        exact hOutcome
      · rw [if_neg ?_]
        · exact hShared hOutcome
        · intro hOpen
          have := hBehind (by omega) hOutcome
          omega

theorem Run.coherent
    {replay after : Replay}
    {events : List Event}
    {run : Completion}
    (hRun : Run replay events after)
    (hOrderly : replay.Orderly)
    (hCoherent : Coherent run replay) :
    Coherent run after := by
  induction hRun with
  | nil => exact hCoherent
  | cons hStep _ ih =>
      exact ih (hStep.orderly hOrderly)
        (hStep.coherent hOrderly hCoherent)

theorem Run.base_le
    {replay after : Replay}
    {events : List Event}
    (hRun : Run replay events after)
    (hOrderly : replay.Orderly) :
    replay.base ≤ after.base := by
  induction hRun with
  | nil => exact Nat.le_refl _
  | cons hStep _ ih =>
      exact Nat.le_trans (hStep.change hOrderly).base_le
        (ih (hStep.orderly hOrderly))

/- An outcome lasts for as long as it is on record. -/
theorem Run.outcome?_of_settled
    {replay after : Replay}
    {events : List Event}
    (hRun : Run replay events after)
    (hOrderly : replay.Orderly)
    {id : Nat}
    {outcome : Outcome}
    (hOutcome : replay.outcome? id = some outcome)
    (hSettled : outcome ≠ .pending)
    (hKept : after.base ≤ id) :
    after.outcome? id = some outcome := by
  induction hRun with
  | nil => exact hOutcome
  | @cons start middle stop event events hStep hRun ih =>
      have hMiddle := hStep.orderly hOrderly
      have hNext := hStep.nextId hOrderly
      have hBounds := bounds_of_outcome? hOutcome
      rcases (hStep.change hOrderly).outcome?_of_settled
          hOrderly hOutcome hSettled with hHere | hGone
      · exact ih hMiddle hHere hKept
      · rw [outcome?_eq_none_iff] at hGone
        have hBase := hRun.base_le hMiddle
        omega

end Replay

end Gantry

------------------------------------------------------------
-- Outcomes Of A Run
------------------------------------------------------------

namespace Gantry

namespace Replay

/-
  A run is on record from the moment it is numbered until its
  first command is forgotten.
-/
theorem recorded?_eq
    {replay : Replay}
    {run : Completion}
    (hRun : run.first + run.count ≤ replay.nextId) :
    replay.recorded? run =
      if run.count = 0 ∨ replay.base ≤ run.first then
        some (run.ids.filterMap replay.outcome?)
      else
        none := by
  by_cases hKept :
      run.count = 0 ∨ replay.base ≤ run.first
  · rw [if_pos hKept]
    have hSome :
        ∀ id, run.first ≤ id →
          id < run.first + run.count →
            replay.outcome? id =
              some ((replay.outcome? id).getD .pending) := by
      intro id hFirst hLast
      cases hOutcome : replay.outcome? id with
      | some outcome => rfl
      | none =>
          rw [outcome?_eq_none_iff] at hOutcome
          omega
    have hAll :
        run.ids.filterMap replay.outcome? =
          run.ids.map fun id =>
            (replay.outcome? id).getD .pending := by
      rw [List.filterMap_eq_map_iff_forall_eq_some]
      intro id hId
      rw [Completion.ids, List.mem_range'_1] at hId
      exact hSome id hId.1 hId.2
    rw [hAll]
    apply recorded?_eq_some
    · simp [Completion.ids]
    · intro i hI
      rw [hSome (run.first + i) (by omega) (by omega)]
      simp [Completion.ids, hI]
  · rw [if_neg hKept, recorded?, if_neg (by omega),
      if_neg (by omega)]

theorem length_of_recorded?
    {replay : Replay}
    {run : Completion}
    {outcomes : List Outcome}
    (hOutcomes : replay.recorded? run = some outcomes) :
    outcomes.length = run.count := by
  unfold recorded? at hOutcomes
  split at hOutcomes
  · rename_i hEmpty
    cases hOutcomes
    exact hEmpty.symm
  · split at hOutcomes
    · rename_i hBounds
      unfold nextId at hBounds
      cases hOutcomes
      rw [Array.length_toList, Array.size_extract]
      omega
    · cases hOutcomes

/-
  Outcomes of which each either says that a command resolved
  or is shared by all behind it.
-/
theorem shape_of_shared
    (outcomes : List Outcome)
    (hShared :
      outcomes.Pairwise fun outcome later =>
        outcome ≠ .resolved → later = outcome) :
    ∃ done left rest,
      rest ≠ Outcome.resolved ∧
        outcomes =
          List.replicate done .resolved ++
            List.replicate left rest := by
  induction outcomes with
  | nil => exact ⟨0, 0, .pending, by simp, rfl⟩
  | cons outcome outcomes ih =>
      rw [List.pairwise_cons] at hShared
      by_cases hResolved : outcome = .resolved
      · rcases ih hShared.2 with
          ⟨done, left, rest, hRest, rfl⟩
        refine ⟨done + 1, left, rest, hRest, ?_⟩
        rw [hResolved, List.replicate_succ, List.cons_append]
      · refine ⟨0, outcomes.length + 1, outcome, hResolved,
          ?_⟩
        rw [List.replicate_succ, List.replicate_zero,
          List.nil_append, List.cons.injEq]
        refine ⟨rfl, ?_⟩
        rw [List.eq_replicate_iff]
        exact ⟨rfl, fun later hLater =>
          hShared.1 later hLater hResolved⟩

/- What is on record of a run has this shape. -/
theorem Coherent.exists_shape
    {run : Completion}
    {replay : Replay}
    (hRun : Coherent run replay) :
    ∃ done left rest,
      rest ≠ Outcome.resolved ∧
        run.ids.filterMap replay.outcome? =
          List.replicate done .resolved ++
            List.replicate left rest := by
  have hOrder : run.ids.Pairwise (· < ·) :=
    List.pairwise_lt_range'
  apply shape_of_shared
  rw [List.pairwise_filterMap]
  apply hOrder.imp_of_mem
  intro id later hId hLater hLt outcome hOutcome other hOther
    hFailed
  rw [Completion.ids, List.mem_range'_1] at hId hLater
  have hShared :=
    hRun.shared id later outcome hId.1
      (Nat.le_of_lt hLt) hLater.2 hOutcome hFailed
  rw [hOther, Option.some.injEq] at hShared
  exact hShared

/- A run of this shape has the outcome that its end has. -/
theorem summary_shape
    (done left : Nat)
    {rest : Outcome}
    (hRest : rest ≠ .resolved) :
    Outcome.summary
        (List.replicate done .resolved ++
          List.replicate left rest) =
      if left = 0 then .resolved else rest := by
  cases left with
  | zero => simpa using summary_resolved done
  | succ left =>
      cases rest with
      | resolved => contradiction
      | rejected failure =>
          rw [summary_resolved_append done _ rfl
            (fun other hOther =>
              List.eq_of_mem_replicate hOther) (by simp)]
          rfl
      | _ =>
          simp [Outcome.summary, Outcome.isRejected,
            List.mem_replicate]

end Replay

end Gantry

------------------------------------------------------------
-- Runs Handed Out
------------------------------------------------------------

namespace Gantry

namespace Replay

/- The run that an operation hands out. -/
def handle?
    (replay : Replay) :
    Operation → Option Completion
| .enqueue command => some (replay.enqueue command).1
| .enqueueAll commands =>
    some (replay.enqueueAll commands).1
| _ => none

/- The runs that several operations hand out. -/
def handles
    (replay : Replay) :
    List Operation → List Completion
| [] => []
| operation :: operations =>
    (replay.handle? operation).toList ++
      handles (replay.act operation) operations

/- A run of commands that are all queued is coherent. -/
theorem coherent_enqueueAll
    {replay : Replay}
    (hOrderly : replay.Orderly)
    (commands : List Command) :
    Coherent (replay.enqueueAll commands).1
      (replay.enqueueAll commands).2 := by
  cases commands with
  | nil =>
      refine (run_startIfIdle replay).coherent hOrderly ?_
      constructor
      · exact Nat.le_refl replay.nextId
      · intro id later outcome hFirst hLater hLast
        have hNone : later < replay.nextId := hLast
        have hSome : replay.nextId ≤ id := hFirst
        omega
  | cons command rest =>
      rw [enqueueAll_eq replay (by simp)]
      have hPushed :=
        hOrderly.forget.push (command :: rest)
      refine (run_startIfIdle _).coherent hPushed ?_
      constructor
      · rw [nextId_push]
      · intro id later outcome hFirst hLater hLast hOutcome _
        dsimp only at hFirst hLast
        rw [outcome?_push, if_pos (by omega)] at hOutcome ⊢
        exact hOutcome

theorem coherent_of_handle?
    {replay : Replay}
    (hOrderly : replay.Orderly)
    {operation : Operation}
    {run : Completion}
    (hRun : replay.handle? operation = some run) :
    Coherent run (replay.act operation) := by
  cases operation with
  | enqueue command =>
      rw [handle?, Option.some.injEq] at hRun
      rw [← hRun]
      exact coherent_enqueueAll hOrderly [command]
  | enqueueAll commands =>
      rw [handle?, Option.some.injEq] at hRun
      rw [← hRun]
      exact coherent_enqueueAll hOrderly commands
  | _ => cases hRun

/- Every run that was handed out stays coherent. -/
theorem coherent_of_mem_handles
    {replay : Replay}
    (hOrderly : replay.Orderly)
    {operations : List Operation}
    {run : Completion}
    (hRun : run ∈ replay.handles operations) :
    Coherent run (replay.actAll operations) := by
  induction operations generalizing replay with
  | nil => cases hRun
  | cons operation operations ih =>
      have hAfter :=
        (run_events replay operation).orderly hOrderly
      rcases List.mem_append.mp hRun with hHere | hLater
      · rw [Option.mem_toList] at hHere
        exact
          (run_history (replay.act operation)
            operations).coherent hAfter
            (coherent_of_handle? hOrderly hHere)
      · exact ih hAfter hLater

end Replay

end Gantry

------------------------------------------------------------
-- The Life Of A Run
------------------------------------------------------------

namespace Gantry

namespace Replay

/- A run is forgotten with its first command. -/
theorem Coherent.poll_eq_none_iff
    {run : Completion}
    {replay : Replay}
    (hRun : Coherent run replay) :
    replay.poll run = none ↔
      run.count ≠ 0 ∧ run.first < replay.base := by
  rw [poll, Option.map_eq_none_iff,
    recorded?_eq hRun.numbered]
  split
  · simp only [reduceCtorEq, false_iff]
    omega
  · simp only [true_iff]
    omega

/- The outcome of a run is the one that its end has. -/
theorem Coherent.settled_of_poll
    {run : Completion}
    {replay : Replay}
    (hRun : Coherent run replay)
    {outcome : Outcome}
    (hPoll : replay.poll run = some outcome)
    (hFinal : outcome ≠ .pending)
    {id : Nat}
    (hId : id ∈ run.ids) :
    replay.outcome? id ≠ some .pending := by
  intro hPending
  rcases hRun.exists_shape with
    ⟨done, left, rest, hRest, hShape⟩
  have hMember :
      Outcome.pending ∈
        run.ids.filterMap replay.outcome? :=
    List.mem_filterMap.mpr ⟨id, hId, hPending⟩
  rw [poll, recorded?_eq hRun.numbered] at hPoll
  split at hPoll
  · rw [Option.map_some, Option.some.injEq, hShape,
      summary_shape done left hRest] at hPoll
    rw [hShape, List.mem_append, List.mem_replicate,
      List.mem_replicate] at hMember
    rcases hMember with ⟨_, hEq⟩ | ⟨hLeft, hEq⟩
    · cases hEq
    · rw [if_neg hLeft, ← hEq] at hPoll
      exact hFinal hPoll.symm
  · cases hPoll

/- Once a run has an outcome, it keeps it or is forgotten. -/
theorem Run.poll_of_settled
    {replay after : Replay}
    {events : List Event}
    {run : Completion}
    (hRun : Run replay events after)
    (hOrderly : replay.Orderly)
    (hCoherent : Coherent run replay)
    {outcome : Outcome}
    (hPoll : replay.poll run = some outcome)
    (hFinal : outcome ≠ .pending) :
    after.poll run = some outcome ∨
      after.poll run = none := by
  have hLater := hRun.coherent hOrderly hCoherent
  have hBase := hRun.base_le hOrderly
  by_cases hGone : after.poll run = none
  · exact Or.inr hGone
  · left
    rw [hLater.poll_eq_none_iff] at hGone
    rw [← hPoll, poll, poll, recorded?_eq hLater.numbered,
      recorded?_eq hCoherent.numbered, if_pos (by omega),
      if_pos (by omega)]
    have hSame :
        run.ids.filterMap after.outcome? =
          run.ids.filterMap replay.outcome? := by
      apply List.filterMap_congr
      intro id hId
      have hSettled :=
        hCoherent.settled_of_poll hPoll hFinal hId
      have hNumbered := hCoherent.numbered
      rw [Completion.ids, List.mem_range'_1] at hId
      cases hOutcome : replay.outcome? id with
      | none =>
          rw [outcome?_eq_none_iff] at hOutcome
          omega
      | some other =>
          apply hRun.outcome?_of_settled hOrderly hOutcome
          · rintro rfl
            exact hSettled hOutcome
          · omega
    rw [hSame]

/- What is forgotten stays so. -/
theorem Run.poll_of_forgotten
    {replay after : Replay}
    {events : List Event}
    {run : Completion}
    (hRun : Run replay events after)
    (hOrderly : replay.Orderly)
    (hCoherent : Coherent run replay)
    (hPoll : replay.poll run = none) :
    after.poll run = none := by
  have hBase := hRun.base_le hOrderly
  rw [hCoherent.poll_eq_none_iff] at hPoll
  rw [(hRun.coherent hOrderly hCoherent).poll_eq_none_iff]
  omega

/-
  A run that was handed out, at any later time. Of what is
  on record of it, some commands at its start have resolved,
  and all others are pending, were rejected for one and the
  same failure, or were cancelled; while all of it is on
  record, this is what is recorded. When the run as a whole
  has an outcome other than pending, it has that outcome for
  ever after, or it has been forgotten; and once it has been
  forgotten, it stays so.
-/
theorem handle_keeps_its_outcome
    (world : World)
    (operations later : List Operation)
    (run : Completion)
    (hRun : run ∈ (ofWorld world).handles operations) :
    let now := (ofWorld world).actAll operations
    let after := now.actAll later
    (∃ done left rest,
      rest ≠ Outcome.resolved ∧
        run.ids.filterMap now.outcome? =
          List.replicate done .resolved ++
            List.replicate left rest) ∧
    (∀ outcomes, now.recorded? run = some outcomes →
      outcomes = run.ids.filterMap now.outcome? ∧
        outcomes.length = run.count) ∧
    (∀ outcome, now.poll run = some outcome →
      outcome ≠ .pending →
        after.poll run = some outcome ∨
          after.poll run = none) ∧
    (now.poll run = none → after.poll run = none) := by
  intro now after
  have hOrderly : now.Orderly :=
    orderly_actAll world operations
  have hCoherent : Coherent run now :=
    coherent_of_mem_handles (orderly_ofWorld world) hRun
  have hLater := run_history now later
  refine ⟨hCoherent.exists_shape, ?_, ?_, ?_⟩
  · intro outcomes hOutcomes
    refine ⟨?_, length_of_recorded? hOutcomes⟩
    rw [recorded?_eq hCoherent.numbered] at hOutcomes
    split at hOutcomes
    · exact (Option.some.inj hOutcomes).symm
    · cases hOutcomes
  · intro outcome hPoll hFinal
    exact hLater.poll_of_settled hOrderly hCoherent hPoll
      hFinal
  · exact hLater.poll_of_forgotten hOrderly hCoherent

/-
  A field of two by two cells, a crane turned to the east:
  the first move resolves, the second runs into the wall and
  takes the turn with it. Nothing that follows can make the
  run anything but rejected or forgotten.
-/
theorem handle_keeps_its_outcome_wall :
    let operations : List Operation :=
      [.setStep 1, .enqueue ⟨.turnLeft, none⟩, .wait,
        .enqueueAll
          [⟨.move, none⟩, ⟨.move, none⟩, ⟨.turnLeft, none⟩],
        .tick 1]
    let run : Completion := ⟨1, 3⟩
    let now := (ofWorld (World.empty 2 2)).actAll operations
    let wall := Outcome.rejected (.outOfBounds .move 2 0)
    run ∈ (ofWorld (World.empty 2 2)).handles operations ∧
      now.recorded? run = some [.resolved, wall, wall] ∧
      ∀ later,
        (now.actAll later).poll run = some wall ∨
          (now.actAll later).poll run = none := by
  intro operations run now wall
  have hRun :
      run ∈ (ofWorld (World.empty 2 2)).handles
        operations := by
    decide +kernel
  have hPoll : now.poll run = some wall := by
    decide +kernel
  refine ⟨hRun, by decide +kernel, fun later => ?_⟩
  exact (handle_keeps_its_outcome (World.empty 2 2)
    operations later run hRun).2.2.1 wall hPoll (by simp [wall])

end Replay

end Gantry
