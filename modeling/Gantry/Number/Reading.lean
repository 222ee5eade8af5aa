/-
  This file reads decimal texts as floating-point numbers,
  rounded to the nearest, and as whole numbers.

  Key definitions include:
    * `Gantry.Number.countDigits`
    * `Gantry.Number.ofDecimal`
    * `Gantry.Number.read?`
    * `Gantry.Number.readInteger?`
-/

------------------------------------------------------------
-- Digits And Signs
------------------------------------------------------------

namespace Gantry

namespace Number

/- A decimal digit. -/
def isDigit
    (c : Char) : Bool :=
  '0' ≤ c && c ≤ '9'

/- The number that a digit writes. -/
def digitValue
    (d : Char) : Nat :=
  d.toNat - 48

/- The number that a run of digits writes. -/
def natOfDigits
    (ds : List Char) : Nat :=
  ds.foldl (fun n d => 10 * n + digitValue d) 0

/-
  The number that a run of digits writes, below a bound. Once
  the bound is reached, the digits that follow are left out.
-/
def countDigits
    (bound : Nat)
    (ds : List Char) : Nat :=
  ds.foldl
    (fun n d =>
      if n < bound then 10 * n + digitValue d else n) 0

/- Split off an optional sign; true means a minus. -/
def takeSign :
    List Char → Bool × List Char
| '-' :: rest => (true, rest)
| '+' :: rest => (false, rest)
| rest => (false, rest)

/- The leading digits and what follows them. -/
def takeDigits
    (cs : List Char) : List Char × List Char :=
  (cs.takeWhile isDigit, cs.dropWhile isDigit)

end Number

end Gantry

------------------------------------------------------------
-- Decimal Numbers
------------------------------------------------------------

namespace Gantry

namespace Number

/-
  The number of leading digits that are looked at one by one.
  A point half-way between two neighbouring numbers has fewer
  digits than that.
-/
def leadingDigits : Nat := 800

/-
  The leading digits of a number, and how many places stand
  behind them. One more digit tells whether anything but
  zeros was left out, which is all that rounding asks of it.
-/
def shorten
    (ds : List Char) : List Char × Nat :=
  let kept := ds.take leadingDigits
  let dropped := ds.drop leadingDigits
  if dropped.isEmpty then
    (kept, 0)
  else if dropped.all (· == '0') then
    (kept, dropped.length)
  else
    (kept ++ ['1'], dropped.length - 1)

/- The number nearest to `significand * 10 ^ exponent`. -/
def scale
    (significand : Nat)
    (exponent : Int) : Float :=
  Float.ofScientific significand (decide (exponent < 0))
    exponent.natAbs

/-
  The number nearest to what some digits write, with the
  given power of ten for the last of them. Far beyond the
  range of finite numbers on either side, only the place of
  the first digit counts.
-/
def ofDecimal
    (ds : List Char)
    (exponent : Int) : Float :=
  let significant := ds.dropWhile (· == '0')
  let place := exponent + significant.length
  if significant.isEmpty || place < -400 then
    0
  else if 400 < place then
    1 / 0
  else
    let (kept, behind) := shorten significant
    scale (natOfDigits kept) (exponent + behind)

end Number

end Gantry

------------------------------------------------------------
-- Floating-Point Numbers
------------------------------------------------------------

namespace Gantry

namespace Number

/- How far the digits of an exponent are counted. -/
def exponentBound : Nat := 0x10000

/- An exponent: a letter, an optional sign and digits. -/
def readExponent? :
    List Char → Option Int
| [] => some 0
| c :: rest =>
    if c = 'e' ∨ c = 'E' then
      let (negative, digits) := takeSign rest
      if digits.isEmpty || !digits.all isDigit then
        none
      else
        let n : Int := countDigits exponentBound digits
        some (if negative then -n else n)
    else
      none

/-
  Digits with an optional point among or around them, then
  an optional exponent. At least one digit has to be there.
-/
def readMagnitude?
    (cs : List Char) : Option Float :=
  let (whole, afterWhole) := takeDigits cs
  let (fraction, afterFraction) :=
    match afterWhole with
    | '.' :: rest => takeDigits rest
    | rest => ([], rest)
  let ds := whole ++ fraction
  if ds.isEmpty then
    none
  else
    (readExponent? afterFraction).map fun exponent =>
      ofDecimal ds (exponent - fraction.length)

/- The names of the values that are not finite. -/
def special? :
    List Char → Option Float
| ['i', 'n', 'f'] => some (1 / 0)
| ['i', 'n', 'f', 'i', 'n', 'i', 't', 'y'] => some (1 / 0)
| ['n', 'a', 'n'] => some (0 / 0)
| _ => none

/-
  A name in capital or small letters. No name is longer than
  eight letters.
-/
def readSpecial?
    (cs : List Char) : Option Float :=
  special? ((cs.take 9).map Char.toLower)

/- An optional sign, then a number or a special name. -/
def read?
    (cs : List Char) : Option Float :=
  let (negative, rest) := takeSign cs
  let magnitude :=
    match readSpecial? rest with
    | some x => some x
    | none => readMagnitude? rest
  magnitude.map fun x => if negative then -x else x

end Number

end Gantry

------------------------------------------------------------
-- Whole Numbers
------------------------------------------------------------

namespace Gantry

namespace Number

/- The first number that 64 bits with a sign do not hold. -/
def wordBound : Int := 0x8000000000000000

/- A whole number that fits in 64 bits with its sign. -/
def fitsWord
    (n : Int) : Bool :=
  -wordBound ≤ n && n < wordBound

/-
  An optional sign and digits, within 64 bits. Digits are
  counted only as far as that can hold.
-/
def readInteger?
    (cs : List Char) : Option Int :=
  let (negative, ds) := takeSign cs
  if ds.isEmpty || !ds.all isDigit then
    none
  else
    let n : Int := countDigits (2 * wordBound.toNat) ds
    let value := if negative then -n else n
    if fitsWord value then some value else none

end Number

end Gantry
