/-
  This file defines numbers as the text of a script holds
  them.

  Key definitions include:
    * `Gantry.Numeral`
    * `Gantry.Numeral.value`
    * `Gantry.Numeral.ofFloat`
-/

------------------------------------------------------------
-- Numerals
------------------------------------------------------------

namespace Gantry

/-
  The 64 bits of a floating-point number. They say more than
  its value: what is not a number has many forms, and a tree
  keeps the one it was given.
-/
structure Numeral where
  bits : UInt64
deriving DecidableEq, Repr

namespace Numeral

/- The number that the bits stand for. -/
def value
    (numeral : Numeral) : Float :=
  Float.ofBits numeral.bits

/- The bits of a number. -/
def ofFloat
    (x : Float) : Numeral :=
  ⟨x.toBits⟩

end Numeral

end Gantry
