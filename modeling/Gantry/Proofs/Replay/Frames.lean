import Mathlib
import Gantry.Proofs.Replay.Settling

/-
  This file shows that a replay does not depend on how often
  its clock is looked at. Time that passes in several frames
  does just what it does when it passes in one, wherever a
  frame ends: in the middle of a step, exactly with one, in
  the midst of commands of no length, or after a failure has
  emptied the queue.

  Main statements:
    * `Gantry.Replay.finish_shown`
    * `Gantry.Replay.tick_add`
    * `Gantry.Replay.frames_add_up`
-/

------------------------------------------------------------
-- Frames Of Time
------------------------------------------------------------

namespace Gantry

namespace Replay

/- What follows a command does not ask how long it was shown. -/
theorem finish_shown
    (replay : Replay)
    (animation : Animation)
    (elapsed : Nat) :
    let later := { animation with elapsed := elapsed }
    { replay with active? := some later }.finish later =
      replay.finish animation := rfl

/-
  A first frame that ends in the middle of a step leaves the
  step that much shorter for what follows.
-/
theorem tick_shown
    {replay : Replay}
    {animation : Animation}
    {elapsed : Nat}
    (hActive : replay.active? = some animation)
    (hShort : elapsed < replay.step - animation.elapsed)
    (more : Nat) :
    { replay with
      active? := some
        { animation with
          elapsed := animation.elapsed + elapsed } }.tick
        more =
      replay.tick (elapsed + more) := by
  by_cases hMore :
      elapsed + more < replay.step - animation.elapsed
  · rw [tick_of_short hActive hMore,
      tick_of_short rfl (by dsimp only; omega)]
    simp only [Nat.add_assoc]
  · rw [tick_of_long hActive hMore,
      tick_of_long rfl (by dsimp only; omega),
      finish_shown]
    congr 1
    dsimp only
    omega

/- Time may pass in two frames. -/
theorem tick_add
    (replay : Replay)
    (elapsed more : Nat) :
    replay.tick (elapsed + more) =
      (replay.tick elapsed).tick more := by
  fun_induction tick replay elapsed with
  | case1 replay elapsed hIdle =>
      rw [tick_of_idle _ hIdle, tick_of_idle _ hIdle]
  | case2 replay elapsed animation hActive needed hShort =>
      exact (tick_shown hActive hShort more).symm
  | case3 replay elapsed animation hActive needed hLong
      ih =>
      have hLonger :
          ¬ elapsed + more <
            replay.step - animation.elapsed := by
        omega
      rw [tick_of_long hActive hLonger, ← ih]
      congr 1
      omega

/-
  Two frames do what one of their length does, and so do any
  number of frames, for a replay in any state: only the time
  that has passed counts.
-/
theorem frames_add_up
    (replay : Replay)
    (frame next : Nat)
    (frames : List Nat) :
    (replay.tick frame).tick next =
        replay.tick (frame + next) ∧
      frames.foldl tick (replay.tick frame) =
        replay.tick (frame + frames.sum) := by
  refine ⟨(tick_add replay frame next).symm, ?_⟩
  induction frames generalizing frame with
  | nil => rfl
  | cons first frames ih =>
      rw [List.foldl_cons, ← tick_add, ih, List.sum_cons,
        Nat.add_assoc]

end Replay

end Gantry
