import Gantry.Proofs.Replay.History

/-
  This file shows that waiting settles a replay. Between
  operations a replay that shows nothing has nothing to do,
  and every stride of the clock settles a command.

  Key definitions include:
    * `Gantry.Replay.Prompt`

  Main statements:
    * `Gantry.Replay.prompt_actAll`
    * `Gantry.Replay.pending_tick_lt`
    * `Gantry.Replay.isSettled_wait`
    * `Gantry.Replay.wait_eq_ticks`
-/

------------------------------------------------------------
-- No Idling
------------------------------------------------------------

namespace Gantry

namespace Replay

/- When nothing is shown, nothing waits. -/
def Prompt
    (replay : Replay) : Prop :=
  replay.active? = none → replay.queue = []

theorem prompt_startNext
    {replay : Replay}
    (hIdle : replay.active? = none) :
    replay.startNext.Prompt := by
  cases hQueue : replay.queue with
  | nil =>
      intro _
      simp only [startNext, hQueue]
  | cons head rest =>
      rcases head with ⟨id, command⟩
      cases hPerform : replay.yard.perform command with
      | ok yard =>
          rw [startNext_of_ok hQueue hPerform]
          intro hNone
          cases hNone
      | error failure =>
          rw [startNext_of_error hIdle hQueue hPerform]
          intro _
          simp

theorem prompt_startIfIdle
    (replay : Replay) :
    replay.startIfIdle.Prompt := by
  unfold startIfIdle
  cases hActive : replay.active? with
  | some animation =>
      intro hNone
      rw [hActive] at hNone
      cases hNone
  | none => exact prompt_startNext hActive

theorem prompt_enqueueAll
    (replay : Replay)
    (commands : List Command) :
    (replay.enqueueAll commands).2.Prompt := by
  cases commands with
  | nil => exact prompt_startIfIdle replay
  | cons command rest =>
      rw [enqueueAll_eq replay (by simp)]
      exact prompt_startIfIdle _

theorem Prompt.tick
    {replay : Replay}
    (hPrompt : replay.Prompt)
    (elapsed : Nat) :
    (replay.tick elapsed).Prompt := by
  fun_induction Replay.tick replay elapsed with
  | case1 replay elapsed hIdle => exact hPrompt
  | case2 replay elapsed animation hActive needed hShort =>
      intro hNone
      cases hNone
  | case3 replay elapsed animation hActive needed hLong
      ih =>
      apply ih
      rw [finish_eq]
      exact
        prompt_startNext
          (active?_resolveShown replay animation)

theorem Prompt.waitFrom
    {replay : Replay}
    (hPrompt : replay.Prompt)
    (stride rounds waited : Nat) :
    (waitFrom stride rounds waited replay).2.Prompt := by
  induction rounds generalizing waited replay with
  | zero => exact hPrompt
  | succ rounds ih =>
      unfold Replay.waitFrom
      split
      · exact hPrompt
      · exact ih (hPrompt.tick stride) _

theorem prompt_cancelPending
    (replay : Replay) :
    replay.cancelPending.Prompt := by
  intro _
  simp [cancelPending_eq]

theorem Prompt.act
    {replay : Replay}
    (hPrompt : replay.Prompt)
    (operation : Operation) :
    (replay.act operation).Prompt := by
  cases operation with
  | enqueue command =>
      exact prompt_enqueueAll replay [command]
  | enqueueAll commands =>
      exact prompt_enqueueAll replay commands
  | tick elapsed => exact hPrompt.tick elapsed
  | wait => exact hPrompt.waitFrom _ _ _
  | reset => exact prompt_cancelPending replay
  | station pose supply => exact prompt_cancelPending replay
  | loadWorld world => exact prompt_cancelPending replay
  | setCarried kind? => exact hPrompt
  | setStep step => exact hPrompt

theorem prompt_actAll
    (world : World)
    (operations : List Operation) :
    ((ofWorld world).actAll operations).Prompt := by
  unfold actAll
  refine List.foldlRecOn operations act ?_ ?_
  · intro _
    rfl
  · intro replay hPrompt operation _
    exact hPrompt.act operation

end Replay

end Gantry

------------------------------------------------------------
-- Progress
------------------------------------------------------------

namespace Gantry

namespace Replay

@[simp] theorem step_startNext
    (replay : Replay) :
    replay.startNext.step = replay.step := by
  unfold startNext
  split
  · rfl
  · split
    · rfl
    · simp

@[simp] theorem step_tick
    (replay : Replay)
    (elapsed : Nat) :
    (replay.tick elapsed).step = replay.step := by
  fun_induction tick replay elapsed with
  | case1 => rfl
  | case2 => rfl
  | case3 replay elapsed animation hActive needed hLong
      ih =>
      rw [ih, finish_eq, step_startNext]
      simp [resolveShown]

theorem pending_tick_le
    (replay : Replay)
    (elapsed : Nat) :
    (replay.tick elapsed).pending ≤ replay.pending := by
  fun_induction tick replay elapsed with
  | case1 => exact Nat.le_refl _
  | case2 replay elapsed animation hActive needed hShort =>
      simp [pending, hActive]
  | case3 replay elapsed animation hActive needed hLong
      ih =>
      exact Nat.le_trans ih
        (Nat.le_of_lt
          (pending_finish_lt replay animation hActive))

/- A stride that is long enough settles a command. -/
theorem pending_tick_lt
    {replay : Replay}
    {stride : Nat}
    (hActive : replay.active?.isSome)
    (hStride : replay.step ≤ stride) :
    (replay.tick stride).pending < replay.pending := by
  rcases Option.isSome_iff_exists.mp hActive with
    ⟨animation, hAnimation⟩
  rw [tick_of_long hAnimation (by omega)]
  exact Nat.lt_of_le_of_lt (pending_tick_le _ _)
    (pending_finish_lt replay animation hAnimation)

theorem Prompt.active?_isSome
    {replay : Replay}
    (hPrompt : replay.Prompt)
    (hBusy : replay.isSettled = false) :
    replay.active?.isSome := by
  cases hActive : replay.active? with
  | some animation => rfl
  | none =>
      simp [isSettled, hActive, hPrompt hActive] at hBusy

theorem Prompt.isSettled_waitFrom
    {replay : Replay}
    (hPrompt : replay.Prompt)
    {stride rounds : Nat}
    (hStride : replay.step ≤ stride)
    (hRounds : replay.pending ≤ rounds)
    (waited : Nat) :
    (Replay.waitFrom stride rounds waited
      replay).2.isSettled := by
  induction rounds generalizing waited replay with
  | zero =>
      have hOpen : replay.openIds = [] := by
        apply List.length_eq_zero_iff.mp
        rw [length_openIds]
        omega
      unfold openIds at hOpen
      simp only [List.append_eq_nil_iff,
        Option.toList_eq_nil_iff, Option.map_eq_none_iff,
        List.map_eq_nil_iff] at hOpen
      simp [Replay.waitFrom, isSettled, hOpen]
  | succ rounds ih =>
      unfold Replay.waitFrom
      split
      · rename_i hSettled
        exact hSettled
      · rename_i hBusy
        have hActive :=
          hPrompt.active?_isSome (by simpa using hBusy)
        have hLess := pending_tick_lt hActive hStride
        refine ih (hPrompt.tick stride) ?_ (by omega) _
        rw [step_tick]
        exact hStride

/- Waiting settles everything. -/
theorem Prompt.isSettled_wait
    {replay : Replay}
    (hPrompt : replay.Prompt) :
    replay.wait.2.isSettled :=
  hPrompt.isSettled_waitFrom (Nat.le_max_left _ _)
    (Nat.le_refl _) 0

/- Waiting is letting time pass. -/
theorem waitFrom_eq_ticks
    (stride rounds waited : Nat)
    (replay : Replay) :
    ∃ ticks : List Nat,
      (waitFrom stride rounds waited replay).2 =
        ticks.foldl tick replay := by
  induction rounds generalizing waited replay with
  | zero => exact ⟨[], rfl⟩
  | succ rounds ih =>
      unfold waitFrom
      split
      · exact ⟨[], rfl⟩
      · rcases ih (waited + stride) (replay.tick stride) with
          ⟨ticks, hTicks⟩
        exact ⟨stride :: ticks, hTicks⟩

theorem wait_eq_ticks
    (replay : Replay) :
    ∃ ticks : List Nat,
      replay.wait.2 = ticks.foldl tick replay :=
  waitFrom_eq_ticks _ _ _ replay

end Replay

end Gantry
