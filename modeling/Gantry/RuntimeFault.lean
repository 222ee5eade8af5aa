import Gantry.Script

/-
  This file defines what can go wrong while a script runs.

  Key definitions include:
    * `Gantry.Mismatch`
    * `Gantry.BadArgument`
    * `Gantry.RuntimeFault`
    * `Gantry.RuntimeFault.message`
    * `Gantry.Crash`
-/

------------------------------------------------------------
-- Ceilings
------------------------------------------------------------

namespace Gantry

/- The longest list that a range makes. -/
def maxRangeLength : Nat := 1000000

/- The longest text, in bytes, that repeating makes. -/
def maxRepeatLength : Nat := 10000000

end Gantry

------------------------------------------------------------
-- Mismatches
------------------------------------------------------------

namespace Gantry

/- The plural ending for a number of things. -/
def pluralEnding
    (count : Nat) : String :=
  if count = 1 then "" else "s"

/-
  A value of the wrong type, or the wrong number of values.
  Types are given by their names.
-/
inductive Mismatch where
  | builtinArity (function : String) (expected given : Nat)
  | functionArity (function : String) (params given : Nat)
  | rangeArity (given : Nat)
  | noLength (type : String)
  | expectsNumber (function type : String)
  | notConvertible (function type : String)
  | incomparable (left right : String)
  | unaryMinus (type : String)
  | operands (op : BinaryOp) (left right : String)
  | notInString (type : String)
  | notContainer (type : String)
  | notIterable (type : String)
  | badIndex (type : String)
  | notSubscriptable (type : String)
  | noItemAssignment (type : String)
deriving DecidableEq, Repr

/- A mismatch in words. -/
def Mismatch.message :
    Mismatch → String
| .builtinArity function expected given =>
    s!"{function}() takes {expected} argument" ++
      pluralEnding expected ++ s!" ({given} given)"
| .functionArity function params given =>
    s!"{function}() takes {params} argument" ++
      pluralEnding params ++ s!" but {given} were given"
| .rangeArity given =>
    s!"range() takes 1 to 3 arguments ({given} given)"
| .noLength type => s!"object of type '{type}' has no len()"
| .expectsNumber function type =>
    s!"{function}() expects a number, got '{type}'"
| .notConvertible function type =>
    s!"{function}() argument must be a string or " ++
      s!"a number, not '{type}'"
| .incomparable left right =>
    s!"cannot compare '{left}' with '{right}'"
| .unaryMinus type =>
    s!"bad operand type for unary -: '{type}'"
| .operands op left right =>
    s!"unsupported operand types for {op.text}: " ++
      s!"'{left}' and '{right}'"
| .notInString type =>
    "'in <string>' requires string as left operand, " ++
      s!"not '{type}'"
| .notContainer type =>
    s!"argument of type '{type}' is not iterable"
| .notIterable type => s!"'{type}' object is not iterable"
| .badIndex type =>
    s!"indices must be integers, not '{type}'"
| .notSubscriptable type =>
    s!"'{type}' object is not subscriptable"
| .noItemAssignment type =>
    s!"'{type}' object does not support item assignment"

end Gantry

------------------------------------------------------------
-- Arguments
------------------------------------------------------------

namespace Gantry

/- A value of the right type that cannot be used. -/
inductive BadArgument where
  | zeroStep
  | endlessRange
  | longRange
  | notInteger (literal : String)
  | notFloat (literal : String)
  | noIntegerValue (number : String)
  | emptySequence (function : String)
  | longRepeat
deriving DecidableEq, Repr

/- A bad argument in words. -/
def BadArgument.message :
    BadArgument → String
| .zeroStep => "range() step must not be zero"
| .endlessRange => "range() bounds must be finite"
| .longRange =>
    "range() would produce more than " ++
      s!"{maxRangeLength} elements"
| .notInteger literal =>
    s!"invalid literal for int(): {literal}"
| .notFloat literal =>
    s!"could not convert string to float: {literal}"
| .noIntegerValue number =>
    s!"cannot convert {number} to int"
| .emptySequence function =>
    s!"{function}() arg is an empty sequence"
| .longRepeat =>
    "repeated string would be longer than " ++
      s!"{maxRepeatLength} bytes"

end Gantry

------------------------------------------------------------
-- Faults
------------------------------------------------------------

namespace Gantry

/- The operations that need a divisor. -/
inductive Division where
  | exact
  | floor
  | remainder
deriving DecidableEq, Repr

/- The name of an operation. -/
def Division.text :
    Division → String
| .exact => "division"
| .floor => "integer division"
| .remainder => "modulo"

/- Why a script stops. -/
inductive RuntimeFault where
  | unboundName (name : String)
  | typeMismatch (why : Mismatch)
  | notCallable (type : String)
  | unknownAttribute (type name : String)
  | indexOutOfRange (index : Int) (length : Nat)
  | zeroDivision (operation : Division)
  | invalidArgument (why : BadArgument)
  | recursionLimit (limit : Nat)
deriving DecidableEq, Repr

/- A fault in words. -/
def RuntimeFault.message :
    RuntimeFault → String
| .unboundName name => s!"name '{name}' is not defined"
| .typeMismatch why => "type mismatch: " ++ why.message
| .notCallable type => s!"'{type}' object is not callable"
| .unknownAttribute type name =>
    s!"'{type}' object has no attribute '{name}'"
| .indexOutOfRange index length =>
    s!"index {index} out of range for length {length}"
| .zeroDivision operation => operation.text ++ " by zero"
| .invalidArgument why => "invalid argument: " ++ why.message
| .recursionLimit limit =>
    s!"maximum call depth of {limit} exceeded"

/- A fault and the statement that was running. -/
structure Crash where
  fault : RuntimeFault
  span : Span
deriving DecidableEq, Repr

namespace Crash

/- The line of the statement that was running. -/
def line
    (crash : Crash) : Nat :=
  crash.span.start.line

/- A crash in words. -/
def message
    (crash : Crash) : String :=
  s!"line {crash.line}: " ++ crash.fault.message

end Crash

end Gantry
