import Gantry.Value

/-
  This file writes values as text. A list that is met again
  inside itself is written as `[...]`.

  Key definitions include:
    * `Gantry.Value.numberText`
    * `Gantry.Value.quotedText`
    * `Gantry.Value.write`
    * `Gantry.Value.display`
    * `Gantry.Value.repr`
-/

------------------------------------------------------------
-- Numbers And Strings
------------------------------------------------------------

namespace Gantry

namespace Value

/- Whole numbers below this bound are written as such. -/
def wholeBound : Nat := Nat.pow 10 16

/- The text of a number that is not finite. -/
def specialText
    (x : Float) : String :=
  if x.isNaN then
    "nan"
  else if x < 0 then
    "-inf"
  else
    "inf"

/-
  The text of a number. A whole number of moderate size has
  no sign on its zero; any other has the fewest digits that
  read back, without an exponent.
-/
def numberText
    (x : Float) : String :=
  match Number.integer? x with
  | some n =>
      if n.natAbs < wholeBound then
        toString n
      else
        ((Number.positional? x).map String.ofList).getD
          (specialText x)
  | Option.none =>
      ((Number.positional? x).map String.ofList).getD
        (specialText x)

/- A character between quotes. -/
def escapeChar :
    Char → List Char
| '\'' => ['\\', '\'']
| '\\' => ['\\', '\\']
| '\n' => ['\\', 'n']
| '\t' => ['\\', 't']
| c => [c]

/- A text between quotes. -/
def quotedText
    (text : String) : String :=
  String.ofList
    ('\'' :: text.toList.flatMap escapeChar ++ ['\''])

end Value

end Gantry

------------------------------------------------------------
-- Values
------------------------------------------------------------

namespace Gantry

namespace Value

/- The text of a value that holds no other values. -/
def leafText
    (quoted : Bool) :
    Value → String
| number value => numberText value
| bool true => "True"
| bool false => "False"
| str text => if quoted then quotedText text else text
| list _ => "[...]"
| none => "None"
| function closure => "<function " ++ closure.name ++ ">"
| builtin known =>
    "<built-in function " ++ known.name ++ ">"
| method _ _ known =>
    "<built-in method " ++ known.name ++ ">"

/-
  Write a value. The lists around it are passed along; since
  they are all different, there are never more of them than
  the heap has lists, which bounds the recursion.
-/
def write
    (heap : Heap) :
    Nat → List Nat → Bool → Value → String
| 0, _, quoted, value => leafText quoted value
| room + 1, around, quoted, value =>
    match value with
    | list ref =>
        if ref ∈ around then
          leafText quoted value
        else
          let items :=
            (heap.items ref).toList.map
              (write heap room (ref :: around) true)
          "[" ++ ", ".intercalate items ++ "]"
    | _ => leafText quoted value

/- More room than there are lists to be inside of. -/
def writingRoom
    (heap : Heap) : Nat :=
  heap.lists.size + 1

/- A value as it is printed: a string is its own text. -/
def display
    (heap : Heap)
    (value : Value) : String :=
  write heap (writingRoom heap) [] false value

/- A value as it would be written in a script. -/
def repr
    (heap : Heap)
    (value : Value) : String :=
  write heap (writingRoom heap) [] true value

end Value

end Gantry
