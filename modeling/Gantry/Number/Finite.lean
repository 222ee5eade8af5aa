/-
  This file takes finite floating-point numbers apart: every
  one is a whole significand times a power of two.

  Key definitions include:
    * `Gantry.Number.Finite`
    * `Gantry.Number.Finite.ofFloat?`
    * `Gantry.Number.integer?`
    * `Gantry.Number.truncate`
-/

------------------------------------------------------------
-- Significand And Exponent
------------------------------------------------------------

namespace Gantry

namespace Number

/- The number `± significand * 2 ^ exponent`. -/
structure Finite where
  negative : Bool
  significand : Nat
  exponent : Int
deriving DecidableEq, Repr

/- The least exponent of a finite number. -/
def leastExponent : Int := -1074

/- The least significand with all of its bits. -/
def fullSignificand : Nat := Nat.pow 2 52

namespace Finite

/-
  Read the sign bit, eleven exponent bits and 52 fraction
  bits. The largest exponent field marks an infinity or a
  value that is not a number; the least one marks a
  significand without its leading bit.
-/
def ofFloat?
    (x : Float) : Option Finite :=
  let bits := x.toBits
  let negative := bits >>> 63 == 1
  let field := ((bits >>> 52) &&& 0x7FF).toNat
  let fraction := (bits &&& 0xFFFFFFFFFFFFF).toNat
  if field = 2047 then
    none
  else if field = 0 then
    some ⟨negative, fraction, leastExponent⟩
  else
    some
      ⟨negative, fraction + fullSignificand,
        leastExponent + (field - 1)⟩

/- Attach the sign to a magnitude. -/
def signed
    (f : Finite)
    (magnitude : Nat) : Int :=
  if f.negative then -(magnitude : Int) else magnitude

/- The number, if it is whole. -/
def integer?
    (f : Finite) : Option Int :=
  if 0 ≤ f.exponent then
    some (f.signed
      (f.significand * Nat.pow 2 f.exponent.toNat))
  else
    let scale := Nat.pow 2 (-f.exponent).toNat
    if f.significand % scale = 0 then
      some (f.signed (f.significand / scale))
    else
      none

end Finite

/- The value of a number that is finite and whole. -/
def integer?
    (x : Float) : Option Int :=
  (Finite.ofFloat? x).bind Finite.integer?

/- Finite and without a fractional part. -/
def isIntegral
    (x : Float) : Bool :=
  (integer? x).isSome

/- Drop the fractional part, toward zero. -/
def truncate
    (x : Float) : Float :=
  if x < 0 then x.ceil else x.floor

end Number

end Gantry
