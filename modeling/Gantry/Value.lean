import Gantry.Crane
import Gantry.Number.Shortest
import Gantry.Script

/-
  This file defines the values of a running script and the
  heap of lists that they share.

  Lists are shared: a value holds only the reference of a
  list, and every holder sees every change. Functions and
  methods bound to a receiver are told apart by a serial
  number that is given out when they are made.

  Key definitions include:
    * `Gantry.Builtin`
    * `Gantry.Method`
    * `Gantry.Closure`
    * `Gantry.Value`
    * `Gantry.Items`
    * `Gantry.Heap`
    * `Gantry.Value.isTruthy`
-/

------------------------------------------------------------
-- Built-In Functions And Methods
------------------------------------------------------------

namespace Gantry

/- A function that every script knows. -/
inductive Builtin where
  | print
  | range
  | len
  | int
  | float
  | str
  | abs
  | min
  | max
  | input
  | look
  | crane (verb : Verb)
deriving DecidableEq, Repr

namespace Builtin

/- All built-in functions. -/
def all : List Builtin :=
  [print, range, len, int, float, str, abs, min, max,
   input, look] ++ Verb.all.map crane

/- The name under which scripts know a function. -/
def name :
    Builtin → String
| print => "print"
| range => "range"
| len => "len"
| int => "int"
| float => "float"
| str => "str"
| abs => "abs"
| min => "min"
| max => "max"
| input => "input"
| look => "look"
| crane verb => verb.name

end Builtin

/- A function that belongs to a kind of value. -/
inductive Method where
  | append
  | upper
  | lower
  | strip
deriving DecidableEq, Repr

/- The name of a method. -/
def Method.name :
    Method → String
| .append => "append"
| .upper => "upper"
| .lower => "lower"
| .strip => "strip"

end Gantry

------------------------------------------------------------
-- Values
------------------------------------------------------------

namespace Gantry

/-
  The scopes that a piece of code can see, innermost first,
  each by its number.
-/
abbrev Scopes := List Nat

/- A script's function and the scopes it was defined in. -/
structure Closure where
  serial : Nat
  name : String
  params : List String
  body : Block
  scopes : Scopes
deriving Repr

/- A value of a script. Every number is a `Float`. -/
inductive Value where
  | number (value : Float)
  | bool (value : Bool)
  | str (text : String)
  | list (ref : Nat)
  | none
  | function (closure : Closure)
  | builtin (builtin : Builtin)
  | method (serial : Nat) (receiver : Value)
      (method : Method)
deriving Repr

/-
  The items of a list: written out, or numbers a step apart
  for as long as nothing else is done to them.
-/
inductive Items where
  | listed (values : Array Value)
  | progression (start step : Float) (count : Nat)
deriving Repr

namespace Items

/- The number of items. -/
def size :
    Items → Nat
| listed values => values.size
| progression _ _ count => count

/- One number of a progression. -/
def term
    (start step : Float)
    (place : Nat) : Value :=
  .number (start + step * place.toUInt64.toFloat)

/- One item. -/
def get?
    (place : Nat) :
    Items → Option Value
| listed values => values[place]?
| progression start step count =>
    if place < count then
      some (term start step place)
    else
      none

/- All items. -/
def toArray :
    Items → Array Value
| listed values => values
| progression start step count =>
    Array.ofFn fun (place : Fin count) =>
      term start step place.val

/-
  The items of two lists, one behind the other, in a list
  made for as many as there are.
-/
def join
    (left right : Items) : Items :=
  let room := Array.emptyWithCapacity (left.size + right.size)
  .listed (room ++ left.toArray ++ right.toArray)

end Items

/- The lists of a script, each under its reference. -/
structure Heap where
  lists : Array Items := #[]
deriving Repr

namespace Heap

/- A list. An unknown reference is empty. -/
def list
    (heap : Heap)
    (ref : Nat) : Items :=
  heap.lists.getD ref (.listed #[])

/- The items of a list. -/
def items
    (heap : Heap)
    (ref : Nat) : Array Value :=
  (heap.list ref).toArray

/- The number of items of a list. -/
def size
    (heap : Heap)
    (ref : Nat) : Nat :=
  (heap.list ref).size

/- One item of a list. -/
def item?
    (heap : Heap)
    (ref place : Nat) : Option Value :=
  (heap.list ref).get? place

/- Make a new list. -/
def alloc
    (heap : Heap)
    (items : Items) : Nat × Heap :=
  (heap.lists.size, { lists := heap.lists.push items })

/- Add an item to the end of a list. -/
def append
    (heap : Heap)
    (ref : Nat)
    (item : Value) : Heap :=
  { lists :=
      heap.lists.modify ref fun items =>
        .listed (items.toArray.push item) }

/- Replace one item of a list. -/
def setItem
    (heap : Heap)
    (ref slot : Nat)
    (item : Value) : Heap :=
  { lists :=
      heap.lists.modify ref fun items =>
        .listed (items.toArray.setIfInBounds slot item) }

end Heap

namespace Value

/- The name of a value's type in messages. -/
def typeName :
    Value → String
| number value =>
    if Number.isIntegral value then "int" else "float"
| bool _ => "bool"
| str _ => "str"
| list _ => "list"
| none => "NoneType"
| function _ => "function"
| builtin _ => "builtin_function_or_method"
| method _ _ _ => "builtin_function_or_method"

/- A value as a number. Truth values count as one and zero. -/
def asNumber? :
    Value → Option Float
| number value => some value
| bool value => some (if value then 1 else 0)
| _ => Option.none

/-
  What counts as true: everything but zero, false, nothing,
  and what is empty.
-/
def isTruthy
    (heap : Heap) :
    Value → Bool
| number value => value != 0
| bool value => value
| str text => !text.isEmpty
| list ref => heap.size ref != 0
| none => false
| _ => true

/- The method of a value with the given name. -/
def method? :
    Value → String → Option Method
| list _, "append" => some .append
| str _, "upper" => some .upper
| str _, "lower" => some .lower
| str _, "strip" => some .strip
| _, _ => Option.none

end Value

end Gantry
