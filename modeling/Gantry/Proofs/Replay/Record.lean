import Gantry.Replay

/-
  This file looks at the record of a replay one command at a
  time. The commands that have not settled are numbered
  without a gap up to the next number, exactly they are on
  record as pending, and no operation on the record touches
  anything else.

  Key definitions include:
    * `Gantry.Replay.outcome?`
    * `Gantry.Replay.openIds`
    * `Gantry.Replay.Orderly`

  Main statements:
    * `Gantry.Replay.outcome?_settleAll`
    * `Gantry.Replay.outcome?_forget`
    * `Gantry.Replay.Orderly.settleFirst`
    * `Gantry.Replay.Orderly.settleOpen`
    * `Gantry.Replay.Orderly.push`
-/

------------------------------------------------------------
-- Single Outcomes
------------------------------------------------------------

namespace Gantry

namespace Replay

/- The outcome of one command, while it is on record. -/
def outcome?
    (replay : Replay)
    (id : Nat) : Option Outcome :=
  if replay.base ≤ id then
    replay.outcomes[id - replay.base]?
  else
    none

/- The record reaches from its base to the next number. -/
theorem outcome?_eq_none_iff
    (replay : Replay)
    (id : Nat) :
    replay.outcome? id = none ↔
      id < replay.base ∨ replay.nextId ≤ id := by
  unfold outcome? nextId
  split
  · rw [Array.getElem?_eq_none_iff]
    omega
  · simp only [true_iff]
    omega

/- What is on record lies before the next number. -/
theorem bounds_of_outcome?
    {replay : Replay}
    {id : Nat}
    {outcome : Outcome}
    (hOutcome : replay.outcome? id = some outcome) :
    replay.base ≤ id ∧ id < replay.nextId := by
  have hSome : replay.outcome? id ≠ none := by
    simp [hOutcome]
  rw [Ne, outcome?_eq_none_iff] at hSome
  omega

end Replay

end Gantry

------------------------------------------------------------
-- Entering Outcomes
------------------------------------------------------------

namespace Gantry

namespace Replay

variable
    (replay : Replay)
    (ids : List Nat)
    (id : Nat)
    (outcome : Outcome)

/- Entering an outcome keeps all but the outcomes. -/
theorem settle_eq :
    ∃ outcomes,
      outcomes.size = replay.outcomes.size ∧
        replay.settle id outcome =
          { replay with outcomes := outcomes } := by
  unfold settle
  split
  · exact ⟨_, Array.size_setIfInBounds, rfl⟩
  · exact ⟨replay.outcomes, rfl, rfl⟩

theorem settleAll_eq :
    ∃ outcomes,
      outcomes.size = replay.outcomes.size ∧
        replay.settleAll ids outcome =
          { replay with outcomes := outcomes } := by
  unfold settleAll
  induction ids generalizing replay with
  | nil => exact ⟨replay.outcomes, rfl, rfl⟩
  | cons id ids ih =>
      rcases settle_eq replay id outcome with
        ⟨first, hFirst, hSettle⟩
      rcases ih (replay.settle id outcome) with
        ⟨last, hLast, hSettleAll⟩
      refine ⟨last, ?_, ?_⟩
      · rw [hLast, hSettle, hFirst]
      · rw [List.foldl_cons, hSettleAll, hSettle]

@[simp] theorem yard_settle :
    (replay.settle id outcome).yard = replay.yard := by
  rcases settle_eq replay id outcome with ⟨_, _, hEq⟩
  rw [hEq]

@[simp] theorem base_settle :
    (replay.settle id outcome).base = replay.base := by
  rcases settle_eq replay id outcome with ⟨_, _, hEq⟩
  rw [hEq]

@[simp] theorem step_settle :
    (replay.settle id outcome).step = replay.step := by
  rcases settle_eq replay id outcome with ⟨_, _, hEq⟩
  rw [hEq]

@[simp] theorem nextId_settle :
    (replay.settle id outcome).nextId = replay.nextId := by
  rcases settle_eq replay id outcome with ⟨_, hSize, hEq⟩
  rw [hEq]
  simp only [nextId, hSize]

@[simp] theorem yard_settleAll :
    (replay.settleAll ids outcome).yard = replay.yard := by
  rcases settleAll_eq replay ids outcome with ⟨_, _, hEq⟩
  rw [hEq]

@[simp] theorem base_settleAll :
    (replay.settleAll ids outcome).base = replay.base := by
  rcases settleAll_eq replay ids outcome with ⟨_, _, hEq⟩
  rw [hEq]

@[simp] theorem step_settleAll :
    (replay.settleAll ids outcome).step = replay.step := by
  rcases settleAll_eq replay ids outcome with ⟨_, _, hEq⟩
  rw [hEq]

@[simp] theorem nextId_settleAll :
    (replay.settleAll ids outcome).nextId =
      replay.nextId := by
  rcases settleAll_eq replay ids outcome with
    ⟨_, hSize, hEq⟩
  rw [hEq]
  simp only [nextId, hSize]

/- An outcome is entered for one command only. -/
theorem outcome?_settle
    (other : Nat) :
    (replay.settle id outcome).outcome? other =
      if other = id ∧ replay.outcome? other ≠ none then
        some outcome
      else
        replay.outcome? other := by
  unfold settle
  by_cases hBase : replay.base ≤ id
  · rw [if_pos hBase]
    unfold outcome?
    by_cases hOther : replay.base ≤ other
    · simp only [hOther, if_true,
        Array.getElem?_setIfInBounds]
      by_cases hEq : other = id
      · subst hEq
        by_cases hSize :
            other - replay.base < replay.outcomes.size
        · simp [hSize]
        · simp [hSize]
      · have hApart :
            id - replay.base ≠ other - replay.base := by
          omega
        simp [hApart, hEq]
    · simp [hOther]
  · rw [if_neg hBase]
    have hNone : replay.outcome? id = none :=
      (outcome?_eq_none_iff replay id).mpr
        (Or.inl (by omega))
    rw [if_neg]
    rintro ⟨rfl, hSome⟩
    exact hSome hNone

/- An outcome is entered for the listed commands only. -/
theorem outcome?_settleAll
    (other : Nat) :
    (replay.settleAll ids outcome).outcome? other =
      if other ∈ ids ∧ replay.outcome? other ≠ none then
        some outcome
      else
        replay.outcome? other := by
  unfold settleAll
  induction ids generalizing replay with
  | nil => simp
  | cons id ids ih =>
      rw [List.foldl_cons, ih, outcome?_settle]
      by_cases hNone : replay.outcome? other = none
      · simp [hNone]
      · by_cases hEq : other = id
        · subst hEq
          simp [hNone]
        · simp [hEq]

end Replay

end Gantry

------------------------------------------------------------
-- Commands That Have Not Settled
------------------------------------------------------------

namespace Gantry

namespace Replay

/- The numbers of the commands shown or waiting. -/
def openIds
    (replay : Replay) : List Nat :=
  (replay.active?.map (·.id)).toList ++
    replay.queue.map (·.1)

theorem length_openIds
    (replay : Replay) :
    replay.openIds.length = replay.pending := by
  unfold openIds pending
  cases replay.active? with
  | none => simp
  | some animation => simp

/- The first of them, or else the next number. -/
theorem firstPending_eq
    (replay : Replay) :
    replay.firstPending =
      replay.openIds.head?.getD replay.nextId := by
  unfold firstPending openIds
  cases replay.active? with
  | some animation => simp
  | none =>
      cases replay.queue with
      | nil => simp
      | cons head rest => simp

/-
  The commands that have not settled are numbered in order
  up to the next number, and exactly they are on record as
  pending.
-/
structure Orderly
    (replay : Replay) : Prop where
  numbered :
    replay.openIds =
      List.range' replay.firstPending replay.pending
  complete :
    replay.firstPending + replay.pending = replay.nextId
  onRecord : replay.base ≤ replay.firstPending
  waiting :
    ∀ id, replay.firstPending ≤ id →
      id < replay.nextId →
        replay.outcome? id = some .pending
  settled :
    ∀ id, id < replay.firstPending →
      replay.outcome? id ≠ some .pending

/- A command that has not settled has one of the numbers. -/
theorem Orderly.mem_openIds_iff
    {replay : Replay}
    (hOrderly : replay.Orderly)
    (id : Nat) :
    id ∈ replay.openIds ↔
      replay.firstPending ≤ id ∧ id < replay.nextId := by
  rw [hOrderly.numbered, List.mem_range'_1,
    hOrderly.complete]

/- Where a command on record has not settled, it is open. -/
theorem Orderly.outcome?_eq_pending_iff
    {replay : Replay}
    (hOrderly : replay.Orderly)
    (id : Nat) :
    replay.outcome? id = some .pending ↔
      id ∈ replay.openIds := by
  rw [hOrderly.mem_openIds_iff]
  constructor
  · intro hPending
    refine ⟨?_, (bounds_of_outcome? hPending).2⟩
    apply Nat.le_of_not_lt
    intro hBefore
    exact hOrderly.settled id hBefore hPending
  · rintro ⟨hFirst, hNext⟩
    exact hOrderly.waiting id hFirst hNext

/- An idle replay of a world has nothing on record. -/
theorem orderly_ofWorld
    (world : World) :
    (ofWorld world).Orderly where
  numbered := rfl
  complete := rfl
  onRecord := Nat.le_refl 0
  waiting := by
    intro id _ hNext
    exact absurd hNext (Nat.not_lt_zero id)
  settled := by
    intro id hFirst
    exact absurd hFirst (Nat.not_lt_zero id)

/- Order is a matter of the record and the open numbers. -/
theorem Orderly.congr
    {replay after : Replay}
    (hOrderly : replay.Orderly)
    (hOpen : after.openIds = replay.openIds)
    (hOutcomes : after.outcomes = replay.outcomes)
    (hBase : after.base = replay.base) :
    after.Orderly := by
  have hNext : after.nextId = replay.nextId := by
    simp only [nextId, hOutcomes, hBase]
  have hFirst :
      after.firstPending = replay.firstPending := by
    rw [firstPending_eq, firstPending_eq, hOpen, hNext]
  have hPending : after.pending = replay.pending := by
    rw [← length_openIds, ← length_openIds, hOpen]
  have hOutcome : after.outcome? = replay.outcome? := by
    funext id
    simp only [outcome?, hOutcomes, hBase]
  constructor
  · rw [hOpen, hFirst, hPending, hOrderly.numbered]
  · rw [hFirst, hPending, hNext, hOrderly.complete]
  · rw [hBase, hFirst]
    exact hOrderly.onRecord
  · rw [hFirst, hNext, hOutcome]
    exact hOrderly.waiting
  · rw [hFirst, hOutcome]
    exact hOrderly.settled

end Replay

end Gantry

------------------------------------------------------------
-- Order Is Kept
------------------------------------------------------------

namespace Gantry

namespace Replay

/-
  Settling the first command that has not settled leaves the
  others as they were. `after` is the replay from which that
  command has been taken.
-/
theorem Orderly.settleFirst
    {replay after : Replay}
    (hOrderly : replay.Orderly)
    {id : Nat}
    {outcome : Outcome}
    (hFinal : outcome ≠ .pending)
    (hOpen : replay.openIds = id :: after.openIds)
    (hOutcomes : after.outcomes = replay.outcomes)
    (hBase : after.base = replay.base) :
    (after.settle id outcome).Orderly := by
  have hNext : after.nextId = replay.nextId := by
    simp only [nextId, hOutcomes, hBase]
  have hLookup : after.outcome? = replay.outcome? := by
    funext other
    simp only [outcome?, hOutcomes, hBase]
  have hPending : replay.pending = after.pending + 1 := by
    rw [← length_openIds, hOpen, ← length_openIds]
    simp
  have hId : replay.firstPending = id := by
    rw [firstPending_eq, hOpen]
    simp
  have hComplete := hOrderly.complete
  have hRange := hOrderly.numbered
  rw [hOpen, hPending, List.range'_succ] at hRange
  have hRest :
      after.openIds =
        List.range' (id + 1) after.pending := by
    rw [← hId]
    exact (List.cons.inj hRange).2
  have hOpenAfter :
      (after.settle id outcome).openIds =
        after.openIds := by
    simp [openIds]
  have hPendingAfter :
      (after.settle id outcome).pending =
        after.pending := by
    rw [← length_openIds, hOpenAfter, length_openIds]
  have hFirst :
      (after.settle id outcome).firstPending = id + 1 := by
    rw [firstPending_eq, hOpenAfter, hRest,
      nextId_settle, hNext]
    cases hCount : after.pending with
    | zero =>
        simp only [List.range'_zero, List.head?_nil,
          Option.getD_none]
        omega
    | succ count => simp [List.range'_succ]
  constructor
  · rw [hOpenAfter, hFirst, hPendingAfter, hRest]
  · rw [hFirst, hPendingAfter, nextId_settle, hNext]
    omega
  · rw [hFirst, base_settle, hBase]
    have hOnRecord := hOrderly.onRecord
    omega
  · intro other hOther hBound
    rw [hFirst] at hOther
    rw [nextId_settle, hNext] at hBound
    rw [outcome?_settle, if_neg (by omega), hLookup]
    exact hOrderly.waiting other (by omega) hBound
  · intro other hOther
    rw [hFirst] at hOther
    rw [outcome?_settle, hLookup]
    split
    · simpa using hFinal
    · rename_i hOutside
      by_cases hEq : other = id
      · simp only [hEq, true_and, ne_eq,
          Decidable.not_not] at hOutside
        simp [hEq, hOutside]
      · exact hOrderly.settled other (by omega)

/-
  Settling all that has not settled leaves a replay with
  nothing to do.
-/
theorem Orderly.settleOpen
    {replay : Replay}
    (hOrderly : replay.Orderly)
    {outcome : Outcome}
    (hFinal : outcome ≠ .pending) :
    (settleAll
      { replay with queue := [], active? := none }
      replay.openIds outcome).Orderly := by
  have hOpen :
      (settleAll
        { replay with queue := [], active? := none }
        replay.openIds outcome).openIds = [] := by
    simp [openIds]
  have hPending :
      (settleAll
        { replay with queue := [], active? := none }
        replay.openIds outcome).pending = 0 := by
    rw [← length_openIds, hOpen]
    rfl
  have hFirst :
      (settleAll
        { replay with queue := [], active? := none }
        replay.openIds outcome).firstPending =
          replay.nextId := by
    rw [firstPending_eq, hOpen, nextId_settleAll]
    rfl
  have hComplete := hOrderly.complete
  have hOnRecord := hOrderly.onRecord
  constructor
  · rw [hOpen, hPending]
    rfl
  · rw [hFirst, hPending, nextId_settleAll]
    rfl
  · rw [hFirst, base_settleAll]
    dsimp only
    omega
  · intro id hId hBound
    rw [hFirst] at hId
    rw [nextId_settleAll] at hBound
    exact absurd hBound (Nat.not_lt.mpr hId)
  · intro id hId
    rw [outcome?_settleAll]
    split
    · simpa using hFinal
    · rename_i hOutside
      intro hPendingId
      have hPendingId :
          replay.outcome? id = some .pending := hPendingId
      apply hOutside
      refine ⟨?_, ?_⟩
      · exact
          (hOrderly.outcome?_eq_pending_iff id).mp
            hPendingId
      · change replay.outcome? id ≠ none
        simp [hPendingId]

end Replay

end Gantry

------------------------------------------------------------
-- The Window
------------------------------------------------------------

namespace Gantry

namespace Replay

/- How many outcomes at the start of the record are dropped. -/
def surplus
    (replay : Replay) : Nat :=
  replay.firstPending - replay.base - historyLength

theorem Orderly.surplus_le
    {replay : Replay}
    (hOrderly : replay.Orderly) :
    replay.surplus ≤ replay.outcomes.size := by
  have hComplete := hOrderly.complete
  unfold nextId at hComplete
  unfold surplus
  omega

theorem forget_eq
    (replay : Replay) :
    replay.forget =
      { replay with
        outcomes :=
          replay.outcomes.extract replay.surplus
            replay.outcomes.size
        base := replay.base + replay.surplus } := by
  simp only [forget, surplus]

@[simp] theorem base_forget
    (replay : Replay) :
    replay.forget.base =
      replay.base + replay.surplus := by
  rw [forget_eq]

@[simp] theorem openIds_forget
    (replay : Replay) :
    replay.forget.openIds = replay.openIds := by
  rw [forget_eq]
  simp only [openIds]

@[simp] theorem queue_forget
    (replay : Replay) :
    replay.forget.queue = replay.queue := by
  rw [forget_eq]

@[simp] theorem active?_forget
    (replay : Replay) :
    replay.forget.active? = replay.active? := by
  rw [forget_eq]

@[simp] theorem yard_forget
    (replay : Replay) :
    replay.forget.yard = replay.yard := by
  rw [forget_eq]

/- Numbers are not given out again. -/
theorem Orderly.nextId_forget
    {replay : Replay}
    (hOrderly : replay.Orderly) :
    replay.forget.nextId = replay.nextId := by
  have hSurplus := hOrderly.surplus_le
  rw [forget_eq]
  simp only [nextId, Array.size_extract]
  omega

/- The later part of the record is kept as it is. -/
theorem outcome?_forget
    (replay : Replay)
    (id : Nat) :
    replay.forget.outcome? id =
      if replay.base + replay.surplus ≤ id then
        replay.outcome? id
      else
        none := by
  rw [outcome?, forget_eq]
  dsimp only
  split
  · rename_i hKept
    rw [outcome?, if_pos (by omega),
      Array.getElem?_extract]
    have hIndex :
        replay.surplus +
            (id - (replay.base + replay.surplus)) =
          id - replay.base := by
      omega
    rw [hIndex]
    split
    · rfl
    · rename_i hOutside
      symm
      rw [Array.getElem?_eq_none_iff]
      omega
  · rfl

/- Only settled outcomes are dropped. -/
theorem Orderly.forget
    {replay : Replay}
    (hOrderly : replay.Orderly) :
    replay.forget.Orderly := by
  have hNext := hOrderly.nextId_forget
  have hFirst :
      replay.forget.firstPending =
        replay.firstPending := by
    rw [firstPending_eq, firstPending_eq, hNext,
      openIds_forget]
  have hPending :
      replay.forget.pending = replay.pending := by
    rw [← length_openIds, openIds_forget, length_openIds]
  have hOnRecord := hOrderly.onRecord
  have hBase :
      replay.base + replay.surplus ≤
        replay.firstPending := by
    unfold surplus
    omega
  constructor
  · rw [openIds_forget, hFirst, hPending,
      hOrderly.numbered]
  · rw [hFirst, hPending, hNext, hOrderly.complete]
  · rw [hFirst, base_forget]
    exact hBase
  · intro id hId hBound
    rw [hFirst] at hId
    rw [hNext] at hBound
    rw [outcome?_forget, if_pos (by omega)]
    exact hOrderly.waiting id hId hBound
  · intro id hId
    rw [hFirst] at hId
    rw [outcome?_forget]
    split
    · exact hOrderly.settled id hId
    · simp

end Replay

end Gantry

------------------------------------------------------------
-- New Commands
------------------------------------------------------------

namespace Gantry

namespace Replay

/- Commands with consecutive numbers. -/
def numberedFrom
    (first : Nat)
    (commands : List Command) : List (Nat × Command) :=
  commands.zipIdx.map fun (command, i) =>
    (first + i, command)

theorem ids_numberedFrom
    (first : Nat)
    (commands : List Command) :
    (numberedFrom first commands).map (·.1) =
      List.range' first commands.length := by
  unfold numberedFrom
  rw [List.map_map, List.range'_eq_map_range,
    List.range_eq_range',
    ← List.zipIdx_map_snd 0 commands, List.map_map]
  rfl

theorem getElem?_numberedFrom
    (first : Nat)
    (commands : List Command)
    (i : Nat) :
    (numberedFrom first commands)[i]? =
      commands[i]?.map fun command =>
        (first + i, command) := by
  unfold numberedFrom
  rw [List.getElem?_map, List.getElem?_zipIdx]
  cases commands[i]? with
  | none => rfl
  | some command => simp

/- Put commands at the end of the queue. -/
def push
    (replay : Replay)
    (commands : List Command) : Replay :=
  { replay with
    queue :=
      replay.queue ++ numberedFrom replay.nextId commands
    outcomes :=
      replay.outcomes ++
        Array.replicate commands.length Outcome.pending }

/- A run of commands is queued, then the first may start. -/
theorem enqueueAll_eq
    (replay : Replay)
    {commands : List Command}
    (hCommands : commands ≠ []) :
    replay.enqueueAll commands =
      (⟨replay.forget.nextId, commands.length⟩,
        (replay.forget.push commands).startIfIdle) := by
  cases commands with
  | nil => exact absurd rfl hCommands
  | cons command commands => rfl

theorem openIds_push
    (replay : Replay)
    (commands : List Command) :
    (replay.push commands).openIds =
      replay.openIds ++
        List.range' replay.nextId commands.length := by
  simp [openIds, push, ids_numberedFrom]

theorem nextId_push
    (replay : Replay)
    (commands : List Command) :
    (replay.push commands).nextId =
      replay.nextId + commands.length := by
  simp [nextId, push, Nat.add_assoc]

/- What was on record stays so, and new commands wait. -/
theorem outcome?_push
    (replay : Replay)
    (commands : List Command)
    (id : Nat) :
    (replay.push commands).outcome? id =
      if replay.nextId ≤ id ∧
          id < replay.nextId + commands.length then
        some .pending
      else
        replay.outcome? id := by
  unfold outcome? nextId push
  by_cases hBase : replay.base ≤ id
  · simp only [hBase, if_true, Array.getElem?_append,
      Array.getElem?_replicate]
    split
    · rw [if_neg (by omega)]
    · rename_i hOld
      split
      · rw [if_pos (by omega)]
      · rw [if_neg (by omega)]
        symm
        rw [Array.getElem?_eq_none_iff]
        omega
  · rw [if_neg hBase, if_neg hBase, if_neg (by omega)]

/- New commands come behind all others. -/
theorem Orderly.push
    {replay : Replay}
    (hOrderly : replay.Orderly)
    (commands : List Command) :
    (replay.push commands).Orderly := by
  have hComplete := hOrderly.complete
  have hPending :
      (replay.push commands).pending =
        replay.pending + commands.length := by
    rw [← length_openIds, openIds_push,
      List.length_append, length_openIds,
      List.length_range']
  have hNumbered :
      (replay.push commands).openIds =
        List.range' replay.firstPending
          (replay.pending + commands.length) := by
    rw [openIds_push, hOrderly.numbered, ← hComplete,
      List.range'_append_1]
  have hFirst :
      (replay.push commands).firstPending =
        replay.firstPending := by
    rw [firstPending_eq, hNumbered, nextId_push]
    cases hCount : replay.pending + commands.length with
    | zero =>
        simp only [List.range'_zero, List.head?_nil,
          Option.getD_none]
        omega
    | succ count => simp [List.range'_succ]
  constructor
  · rw [hNumbered, hFirst, hPending]
  · rw [hFirst, hPending, nextId_push]
    omega
  · rw [hFirst]
    exact hOrderly.onRecord
  · intro id hId hBound
    rw [hFirst] at hId
    rw [nextId_push] at hBound
    rw [outcome?_push]
    split
    · rfl
    · exact hOrderly.waiting id hId (by omega)
  · intro id hId
    rw [hFirst] at hId
    rw [outcome?_push, if_neg (by omega)]
    exact hOrderly.settled id hId

end Replay

end Gantry
