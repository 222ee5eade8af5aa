import Gantry.Proofs.Replay.Expiry

/-
  This file collects what always holds of the books that a
  replay keeps: of its queue, of the command it shows, and
  of the record of outcomes with its base. Numbers are given
  out once and in order, the open commands have the last of
  them, and of those that have settled the latest can still
  be asked for.

  Commands of one run are queued one at a time, and before
  each of them the record drops what is too old. What it is
  asked to drop is always there.

  Key definitions include:
    * `Gantry.Replay.queueEach`

  Main statements:
    * `Gantry.Replay.Orderly.queueEach_eq`
    * `Gantry.Replay.Orderly.ids_handles`
    * `Gantry.Replay.poll_single`
    * `Gantry.Replay.books_are_kept`
-/

------------------------------------------------------------
-- One Command At A Time
------------------------------------------------------------

namespace Gantry

namespace Replay

theorem numberedFrom_append
    (first : Nat)
    (commands more : List Command) :
    numberedFrom first (commands ++ more) =
      numberedFrom first commands ++
        numberedFrom (first + commands.length) more := by
  induction commands generalizing first with
  | nil => rfl
  | cons command commands ih =>
      rw [List.cons_append, numberedFrom_cons,
        numberedFrom_cons, ih, List.length_cons,
        List.cons_append, Nat.add_right_comm,
        Nat.add_assoc]

/- Commands may be put into the queue in two parts. -/
theorem push_push
    (replay : Replay)
    (commands more : List Command) :
    (replay.push commands).push more =
      replay.push (commands ++ more) := by
  have hNext := nextId_push replay commands
  unfold push at *
  rw [hNext, numberedFrom_append, List.length_append,
    ← Array.replicate_append_replicate]
  simp only [List.append_assoc, Array.append_assoc]

theorem Orderly.firstPending_push
    {replay : Replay}
    (hOrderly : replay.Orderly)
    (commands : List Command) :
    (replay.push commands).firstPending =
      replay.firstPending := by
  have hComplete := hOrderly.complete
  have hPushed := (hOrderly.push commands).complete
  rw [nextId_push, ← length_openIds, openIds_push,
    List.length_append, length_openIds,
    List.length_range'] at hPushed
  omega

theorem Orderly.firstPending_forget
    {replay : Replay}
    (hOrderly : replay.Orderly) :
    replay.forget.firstPending = replay.firstPending := by
  rw [firstPending_eq, firstPending_eq, openIds_forget,
    hOrderly.nextId_forget]

/- A record with nothing too old stays as it is. -/
theorem forget_of_surplus
    {replay : Replay}
    (hSurplus : replay.surplus = 0) :
    replay.forget = replay := by
  rw [forget_eq, hSurplus, Array.extract_size]
  rfl

/- What is too old is dropped at once. -/
theorem Orderly.forget_push
    {replay : Replay}
    (hOrderly : replay.Orderly)
    (commands : List Command) :
    (replay.forget.push commands).forget =
      replay.forget.push commands := by
  apply forget_of_surplus
  have hBase :
      (replay.forget.push commands).base =
        replay.base + replay.surplus :=
    base_forget replay
  rw [surplus, hOrderly.forget.firstPending_push,
    hOrderly.firstPending_forget, hBase, surplus]
  omega

/-
  Queue commands one at a time. Before each of them the
  record drops what is too old.
-/
def queueEach
    (replay : Replay)
    (commands : List Command) : Replay :=
  commands.foldl
    (fun replay command => replay.forget.push [command])
    replay

theorem queueEach_nil
    (replay : Replay) :
    replay.queueEach [] = replay := by
  rw [queueEach, List.foldl_nil]

theorem queueEach_cons
    (replay : Replay)
    (command : Command)
    (commands : List Command) :
    replay.queueEach (command :: commands) =
      (replay.forget.push [command]).queueEach
        commands := by
  rw [queueEach, List.foldl_cons, ← queueEach]

theorem Orderly.queueEach
    {replay : Replay}
    (hOrderly : replay.Orderly)
    (commands : List Command) :
    (replay.queueEach commands).Orderly := by
  unfold Replay.queueEach
  refine List.foldlRecOn commands _ hOrderly ?_
  intro replay hOrderly command _
  exact hOrderly.forget.push [command]

/- Queuing one at a time is queuing all of them at once. -/
theorem Orderly.queueEach_eq
    {replay : Replay}
    (hOrderly : replay.Orderly)
    {commands : List Command}
    (hCommands : commands ≠ []) :
    replay.queueEach commands =
      replay.forget.push commands := by
  have hRest :
      ∀ queued more : List Command,
        (replay.forget.push queued).queueEach more =
          replay.forget.push (queued ++ more) := by
    intro queued more
    induction more generalizing queued with
    | nil => rw [List.append_nil, queueEach_nil]
    | cons command more ih =>
        rw [queueEach_cons, hOrderly.forget_push,
          push_push, ih, List.append_assoc,
          List.singleton_append]
  cases commands with
  | nil => contradiction
  | cons command commands =>
      rw [queueEach_cons, hRest, List.singleton_append]

end Replay

end Gantry

------------------------------------------------------------
-- Numbers Given Out
------------------------------------------------------------

namespace Gantry

namespace Replay

/- Every command queued along a run takes one number. -/
theorem Run.nextId
    {replay after : Replay}
    {events : List Event}
    (hRun : Run replay events after)
    (hOrderly : replay.Orderly) :
    after.nextId =
      replay.nextId + (issued events).length := by
  induction hRun with
  | nil => rfl
  | @cons start middle stop event events hStep hRun ih =>
      rw [ih (hStep.orderly hOrderly), hStep.nextId hOrderly,
        Nat.add_assoc, ← List.length_append]
      rfl

theorem Orderly.nextId_act
    {replay : Replay}
    (hOrderly : replay.Orderly)
    (operation : Operation) :
    (replay.act operation).nextId =
      replay.nextId + operation.commands.length := by
  rw [(run_events replay operation).nextId hOrderly,
    issued_events]

/- A run of commands takes the numbers that come next. -/
theorem Orderly.ids_enqueueAll
    {replay : Replay}
    (hOrderly : replay.Orderly)
    (commands : List Command) :
    (replay.enqueueAll commands).1.ids =
      List.range' replay.nextId commands.length := by
  rw [Completion.ids, first_enqueueAll hOrderly,
    count_enqueueAll]

theorem Orderly.ids_handle?
    {replay : Replay}
    (hOrderly : replay.Orderly)
    (operation : Operation) :
    (replay.handle? operation).toList.flatMap
        Completion.ids =
      List.range' replay.nextId
        operation.commands.length := by
  cases operation with
  | enqueue command =>
      rw [handle?, Option.toList_some, List.flatMap_singleton]
      exact hOrderly.ids_enqueueAll [command]
  | enqueueAll commands =>
      rw [handle?, Option.toList_some, List.flatMap_singleton]
      exact hOrderly.ids_enqueueAll commands
  | _ => rfl

/- All numbers are given out once, and in order. -/
theorem Orderly.ids_handles
    {replay : Replay}
    (hOrderly : replay.Orderly)
    (operations : List Operation) :
    List.range' 0 replay.nextId ++
        (replay.handles operations).flatMap
          Completion.ids =
      List.range' 0 (replay.actAll operations).nextId := by
  induction operations generalizing replay with
  | nil =>
      rw [handles, List.flatMap_nil, List.append_nil]
      rfl
  | cons operation operations ih =>
      have hAfter :=
        (run_events replay operation).orderly hOrderly
      have hFirst :
          List.range' 0 replay.nextId ++
              List.range' replay.nextId
                operation.commands.length =
            List.range' 0
              (replay.act operation).nextId := by
        rw [hOrderly.nextId_act operation,
          ← List.range'_append_1, Nat.zero_add]
      rw [handles, List.flatMap_append,
        hOrderly.ids_handle?, ← List.append_assoc, hFirst,
        ih hAfter]
      rfl

end Replay

end Gantry

------------------------------------------------------------
-- The Books
------------------------------------------------------------

namespace Gantry

namespace Replay

/- One command that is on record can be asked for. -/
theorem poll_single
    {replay : Replay}
    {id : Nat}
    {outcome : Outcome}
    (hOutcome : replay.outcome? id = some outcome) :
    replay.poll ⟨id, 1⟩ = some outcome := by
  have hBounds := bounds_of_outcome? hOutcome
  have hRecorded :
      replay.recorded? ⟨id, 1⟩ = some [outcome] := by
    rw [recorded?_eq (by exact hBounds.2),
      if_pos (Or.inr hBounds.1)]
    simp [Completion.ids, hOutcome]
  rw [poll, hRecorded]
  cases outcome with
  | _ => rfl

/- What is on record before the open commands is final. -/
theorem Orderly.exists_final
    {replay : Replay}
    (hOrderly : replay.Orderly)
    {id : Nat}
    (hBase : replay.base ≤ id)
    (hFirst : id < replay.firstPending) :
    ∃ outcome,
      replay.outcome? id = some outcome ∧
        outcome ≠ .pending := by
  have hComplete := hOrderly.complete
  cases hOutcome : replay.outcome? id with
  | none =>
      rw [outcome?_eq_none_iff] at hOutcome
      omega
  | some outcome =>
      refine ⟨outcome, rfl, ?_⟩
      rintro rfl
      exact hOrderly.settled id hFirst hOutcome

theorem Prompt.idle_iff_isSettled
    {replay : Replay}
    (hPrompt : replay.Prompt) :
    replay.active? = none ↔ replay.isSettled = true := by
  constructor
  · intro hIdle
    simp [isSettled, hIdle, hPrompt hIdle]
  · intro hSettled
    simp only [isSettled, Bool.and_eq_true,
      Option.isNone_iff_eq_none] at hSettled
    exact hSettled.1

/-
  The books of a replay after any operations.

  A replay that shows nothing has nothing to do. The command
  shown and those that wait have the numbers from the first
  open one up to the next one, in order; what is on record
  before them is final, and they are on record as pending.

  The record starts no later than with the first open
  command, and it ends no earlier: so, when further commands
  are queued one by one, no more is ever dropped from it
  than it holds. It starts before all of the latest
  `historyLength` commands that have settled, and each of
  them can be asked for.

  The runs that were handed out have all numbers before the
  next one, each of them once.
-/
theorem books_are_kept
    (world : World)
    (operations : List Operation) :
    let now := (ofWorld world).actAll operations
    (now.active? = none ↔ now.isSettled = true) ∧
    now.openIds =
      List.range' now.firstPending
        (now.nextId - now.firstPending) ∧
    (∀ id, now.base ≤ id → id < now.firstPending →
      ∃ outcome,
        now.outcome? id = some outcome ∧
          outcome ≠ .pending) ∧
    (∀ id, now.firstPending ≤ id → id < now.nextId →
      now.outcome? id = some .pending) ∧
    (∀ commands,
      let queued := now.queueEach commands
      queued.base ≤ queued.firstPending ∧
        queued.firstPending ≤ queued.nextId ∧
        queued.surplus ≤ queued.outcomes.size ∧
        (commands ≠ [] →
          (now.enqueueAll commands).2 =
            queued.startIfIdle)) ∧
    now.base ≤ now.firstPending - historyLength ∧
    (∀ id, now.firstPending ≤ id + historyLength →
      id < now.firstPending →
        ∃ outcome,
          now.poll ⟨id, 1⟩ = some outcome ∧
            outcome ≠ .pending) ∧
    ((ofWorld world).handles operations).flatMap
        Completion.ids =
      List.range' 0 now.nextId := by
  intro now
  have hOrderly : now.Orderly :=
    orderly_actAll world operations
  have hPrompt : now.Prompt := prompt_actAll world operations
  have hWindowed : now.Windowed :=
    windowed_actAll world operations
  have hComplete := hOrderly.complete
  refine ⟨hPrompt.idle_iff_isSettled, ?_, ?_,
    hOrderly.waiting, ?_, hWindowed, ?_, ?_⟩
  · rw [← hComplete, Nat.add_sub_cancel_left]
    exact hOrderly.numbered
  · exact fun id => hOrderly.exists_final
  · intro commands queued
    have hQueued : queued.Orderly :=
      hOrderly.queueEach commands
    refine ⟨hQueued.onRecord, ?_, hQueued.surplus_le, ?_⟩
    · rw [← hQueued.complete]
      exact Nat.le_add_right _ _
    · intro hCommands
      rw [enqueueAll_eq now hCommands,
        ← hOrderly.queueEach_eq hCommands]
  · intro id hLate hSettled
    have hBase : now.base ≤ id := by
      unfold Windowed at hWindowed
      omega
    rcases hOrderly.exists_final hBase hSettled with
      ⟨outcome, hOutcome, hFinal⟩
    exact ⟨outcome, poll_single hOutcome, hFinal⟩
  · exact (orderly_ofWorld world).ids_handles operations

end Replay

end Gantry
