import Gantry.Value

/-
  This file compares values. Lists are equal when their items
  are; a pair of lists met again while it is being compared
  counts as equal, so that lists inside themselves can be
  compared.

  Key definitions include:
    * `Gantry.Value.leafEqual`
    * `Gantry.Value.equalWithin`
    * `Gantry.Value.equal`
    * `Gantry.Value.order?`
-/

------------------------------------------------------------
-- Equality
------------------------------------------------------------

namespace Gantry

namespace Value

/-
  Equality of values that are not both lists. Functions are
  equal when they are the same one, and numbers and truth
  values when they are the same number.
-/
def leafEqual :
    Value → Value → Bool
| str a, str b => a == b
| none, none => true
| function a, function b => a.serial == b.serial
| builtin a, builtin b => a == b
| method a _ _, method b _ _ => a == b
| a, b =>
    match a.asNumber?, b.asNumber? with
    | some x, some y => x == y
    | _, _ => false

/- A pair of lists is among others. -/
def isAmong
    (a b : Nat) :
    List (Nat × Nat) → Bool
| [] => false
| (x, y) :: rest =>
    (x == a && y == b) || isAmong a b rest

/-
  Equality of values, given the pairs of lists around them.
  These are all different, so that their number bounds the
  recursion.
-/
def equalWithin
    (heap : Heap) :
    Nat → List (Nat × Nat) → Value → Value → Bool
| 0, _, list _, list _ => true
| room + 1, around, list a, list b =>
    if a == b || isAmong a b around then
      true
    else
      heap.size a == heap.size b &&
        ((heap.items a).zip (heap.items b)).all fun (x, y) =>
          equalWithin heap room ((a, b) :: around) x y
| _, _, a, b => leafEqual a b

/- More room than there are pairs of lists. -/
def comparingRoom
    (heap : Heap) : Nat :=
  (heap.lists.size + 1) * (heap.lists.size + 1)

/- Equality of values. -/
def equal
    (heap : Heap)
    (a b : Value) : Bool :=
  equalWithin heap (comparingRoom heap) [] a b

end Value

end Gantry

------------------------------------------------------------
-- Order
------------------------------------------------------------

namespace Gantry

namespace Value

/-
  The order of two numbers. What is not a number counts as
  equal to everything.
-/
def numberOrder
    (x y : Float) : Ordering :=
  if x < y then
    .lt
  else if y < x then
    .gt
  else
    .eq

/- The order of two texts, by their characters. -/
def textOrder
    (a b : String) : Ordering :=
  if a < b then
    .lt
  else if b < a then
    .gt
  else
    .eq

/- The order of two strings or two numbers. -/
def order? :
    Value → Value → Option Ordering
| str a, str b => some (textOrder a b)
| a, b =>
    match a.asNumber?, b.asNumber? with
    | some x, some y => some (numberOrder x y)
    | _, _ => Option.none

end Value

end Gantry
