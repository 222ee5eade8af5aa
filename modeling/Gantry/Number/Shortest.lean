import Gantry.Number.Finite

/-
  This file finds the fewest decimal digits that read back
  as a given number.

  Every number is the rounding of an interval of reals whose
  ends belong to it exactly when the significand is even.
  Decimal grids are tried from coarse to fine; the first one
  with a point in the interval wins, of two points the
  nearer one, and of two equally near the larger.

  Key definitions include:
    * `Gantry.Number.Finite.gridPoint?`
    * `Gantry.Number.Finite.shortest`
    * `Gantry.Number.positional?`
-/

------------------------------------------------------------
-- Decimal Grids
------------------------------------------------------------

namespace Gantry

namespace Number

namespace Finite

/-
  A quarter of the last place of `f` and one step of the
  decimal grid `10 ^ k`, in one common unit.
-/
def commonUnits
    (f : Finite)
    (k : Int) : Nat × Nat :=
  let q := f.exponent - 2
  (Nat.pow 2 q.toNat * Nat.pow 10 (-k).toNat,
    Nat.pow 10 k.toNat * Nat.pow 2 (-q).toNat)

/-
  The point of the grid `10 ^ k`, as a multiple of the step,
  that reads back as the magnitude of `f`.
-/
def gridPoint?
    (f : Finite)
    (k : Int) : Option Nat :=
  let (quarter, step) := f.commonUnits k
  let value := 4 * f.significand * quarter
  let below :=
    if f.significand = fullSignificand ∧
        leastExponent < f.exponent then
      quarter
    else
      2 * quarter
  let low := value - below
  let high := value + 2 * quarter
  let isInside := fun (point : Nat) =>
    if f.significand % 2 = 0 then
      low ≤ point && point ≤ high
    else
      low < point && point < high
  let floor := value / step
  let ceiling := floor + 1
  match
    isInside (floor * step),
    isInside (ceiling * step) with
  | true, true =>
      if ceiling * step - value ≤ value - floor * step then
        some ceiling
      else
        some floor
  | true, false => some floor
  | false, true => some ceiling
  | false, false => none

/- Try grids from `10 ^ k` on, each ten times finer. -/
def searchGrids
    (f : Finite) : Nat → Int → Nat × Int
| 0, k => ((f.gridPoint? k).getD 0, k)
| grids + 1, k =>
    match f.gridPoint? k with
    | some point => (point, k)
    | none => searchGrids f grids (k - 1)

/-
  The fewest digits that read back as the magnitude of `f`,
  with the power of ten of their last place. The first grid
  is coarser than the interval, and seventeen digits always
  suffice.
-/
def shortest
    (f : Finite) : Nat × Int :=
  if f.significand = 0 then
    (0, 0)
  else
    let bits := f.exponent + (Nat.log2 f.significand + 1)
    searchGrids f 24 (bits * 30103 / 100000 + 2)

end Finite

end Number

end Gantry

------------------------------------------------------------
-- Positional Text
------------------------------------------------------------

namespace Gantry

namespace Number

/- The decimal digits of a whole number. -/
def digits
    (n : Nat) : List Char :=
  Nat.toDigits 10 n

/-
  The text of `point * 10 ^ k` without an exponent. A
  fraction ends in its last digit other than zero, and a
  number below one starts with a zero.
-/
def placeValue
    (point : Nat)
    (k : Int) : List Char :=
  if 0 ≤ k then
    digits (point * Nat.pow 10 k.toNat)
  else
    let places := (-k).toNat
    let whole := point / Nat.pow 10 places
    let rest := digits (point % Nat.pow 10 places)
    let padded :=
      List.replicate (places - rest.length) '0' ++ rest
    let fraction :=
      (padded.reverse.dropWhile (· == '0')).reverse
    if fraction.isEmpty then
      digits whole
    else
      digits whole ++ '.' :: fraction

/-
  A finite number with the fewest digits that read back, in
  positional notation. A negative zero keeps its sign.
-/
def positional?
    (x : Float) : Option (List Char) :=
  (Finite.ofFloat? x).map fun f =>
    let (point, k) := f.shortest
    let magnitude := placeValue point k
    if f.negative then '-' :: magnitude else magnitude

end Number

end Gantry
