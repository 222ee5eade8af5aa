import Mathlib.Algebra.Order.Ring.Int
import Mathlib.Data.Nat.Cast.Order.Ring
import Mathlib.Data.Prod.Lex
import Mathlib.Order.Compare
import Gantry.Value.Equality

/-
  This file ranks the numbers. Everything but NaN has a
  rank, and one number is less than another, or equal to it,
  just when their ranks are. Negative numbers have the ranks
  of their opposites, the other way round; the two zeros
  share a rank, and the infinities have the outermost ones.

  Key definitions include:
    * `Gantry.Number.Rank`
    * `Gantry.Number.rank?`

  Main statements:
    * `Gantry.Number.lt_iff_rank`
    * `Gantry.Number.beq_iff_rank`
    * `Gantry.Value.numberOrder_of_rank`
-/

------------------------------------------------------------
-- Ranks
------------------------------------------------------------

namespace Gantry

namespace Number

open Float.Model

/-
  The side on which a number is, and then first its exponent
  and after that its significand.
-/
abbrev Rank := ℤ ×ₗ ℤ ×ₗ ℤ

/- The rank of a number that is given by its parts. -/
def partsRank? :
    UnpackedFloat → Option Rank
| .notANumber => none
| .infinity .negative => some (toLex (-2, toLex (0, 0)))
| .finite .negative significand exponent _ =>
    some (toLex (-1, toLex (-exponent, -significand)))
| .zero _ => some (toLex (0, toLex (0, 0)))
| .finite .positive significand exponent _ =>
    some (toLex (1, toLex (exponent, significand)))
| .infinity .positive => some (toLex (2, toLex (0, 0)))

/- The rank of a number, unless it is NaN. -/
def rank?
    (x : Float) : Option Rank :=
  partsRank? x.toModel.unpack

/- Ranks are compared by one number after the other. -/
theorem compare_toLex
    (a b e f m n : ℤ) :
    compare (toLex (a, toLex (e, m)))
        (toLex (b, toLex (f, n))) =
      (compare a b).then
        ((compare e f).then (compare m n)) :=
  rfl

end Number

end Gantry

------------------------------------------------------------
-- Comparing By Ranks
------------------------------------------------------------

namespace Gantry

namespace Number

open Float.Model

/-
  Numbers are compared as their ranks are. Only between two
  finite numbers of one sign do exponents and significands
  count.
-/
theorem compare_parts
    (x y : UnpackedFloat) :
    x.compare y =
      (partsRank? x).bind fun p =>
        (partsRank? y).map (compare p) := by
  have hCast :
      ∀ m n : ℕ,
        compare (m : ℤ) (n : ℤ) = compare m n := by
    intro m n
    rw [← cmp_eq_compare, ← cmp_eq_compare]
    exact Nat.strictMono_cast.cmp_map_eq m n
  have hNeg :
      ∀ m n : ℤ, compare (-m) (-n) = compare n m := by
    intro m n
    rw [← cmp_eq_compare, ← cmp_eq_compare]
    exact StrictAnti.cmp_map_eq
      (fun _ _ hLess => neg_lt_neg hLess) m n
  rcases x with (_ | _) | _ | _ | ⟨_ | _, m, e, hm⟩ <;>
    rcases y with (_ | _) | _ | _ | ⟨_ | _, n, f, hn⟩
  case finite.negative.finite.negative =>
    dsimp only [UnpackedFloat.compare, partsRank?,
      Option.bind_some, Option.map_some]
    simp only [compare_toLex, Ordering.swap_then,
      Int.compare_swap, Nat.compare_swap, hNeg, hCast]
    rfl
  case finite.positive.finite.positive =>
    dsimp only [UnpackedFloat.compare, partsRank?,
      Option.bind_some, Option.map_some]
    simp only [compare_toLex, hCast]
    rfl
  all_goals rfl

theorem isNaN_iff_rank
    (x : Float) :
    x.isNaN = true ↔ rank? x = none := by
  change
    x.toModel.unpack.isNaN = true ↔
      partsRank? x.toModel.unpack = none
  cases x.toModel.unpack with
  | notANumber =>
    exact ⟨fun _ => rfl, fun _ => rfl⟩
  | infinity sign =>
    cases sign <;> exact ⟨nofun, nofun⟩
  | zero sign =>
    exact ⟨nofun, nofun⟩
  | finite sign m e hm =>
    cases sign <;> exact ⟨nofun, nofun⟩

theorem lt_iff_rank
    (x y : Float) :
    x < y ↔
      ∃ p q, rank? x = some p ∧ rank? y = some q ∧
        p < q := by
  have hModel :
      x < y ↔
        (x.toModel.unpack.compare y.toModel.unpack ==
          some .lt) = true := by
    change decide (Float.Model.lt _ _ = true) = true ↔ _
    rw [decide_eq_true_iff]
    rfl
  rw [hModel, beq_iff_eq, compare_parts]
  simp [rank?, Option.bind_eq_some_iff, Option.map_eq_some_iff,
    compare_lt_iff_lt]

theorem beq_iff_rank
    (x y : Float) :
    (x == y) = true ↔
      ∃ p, rank? x = some p ∧ rank? y = some p := by
  have hModel :
      (x == y) =
        (x.toModel.unpack.compare y.toModel.unpack ==
          some .eq) := rfl
  rw [hModel, beq_iff_eq, compare_parts]
  simp [rank?, Option.bind_eq_some_iff, Option.map_eq_some_iff,
    compare_eq_iff_eq]

end Number

end Gantry

------------------------------------------------------------
-- The Order Of Two Numbers
------------------------------------------------------------

namespace Gantry

namespace Value

open Number

/- Two numbers that have ranks are ordered as these are. -/
theorem numberOrder_of_rank
    {x y : Float}
    {p q : Rank}
    (hLeft : rank? x = some p)
    (hRight : rank? y = some q) :
    numberOrder x y = compare p q := by
  have hLess : x < y ↔ p < q := by
    simp [lt_iff_rank, hLeft, hRight]
  have hGreater : y < x ↔ q < p := by
    simp [lt_iff_rank, hLeft, hRight]
  rw [← cmp_eq_compare]
  simp only [numberOrder, cmp, cmpUsing, hLess, hGreater]

/- NaN is neither below nor above anything. -/
theorem numberOrder_of_isNaN
    {x y : Float}
    (hNaN : x.isNaN = true ∨ y.isNaN = true) :
    numberOrder x y = .eq := by
  rw [isNaN_iff_rank, isNaN_iff_rank] at hNaN
  have hLess : ¬x < y := by
    rcases hNaN with hNone | hNone <;>
      simp [lt_iff_rank, hNone]
  have hGreater : ¬y < x := by
    rcases hNaN with hNone | hNone <;>
      simp [lt_iff_rank, hNone]
  rw [numberOrder, if_neg hLess, if_neg hGreater]

end Value

end Gantry
