import Gantry.Machine.Operator
import Gantry.Text.Blank
import Gantry.Text.Casing

/-
  This file defines what the built-in functions and the
  methods do.

  Key definitions include:
    * `Gantry.Run.range`
    * `Gantry.Run.extremum`
    * `Gantry.Run.callBuiltin`
    * `Gantry.Run.callMethod`
-/

------------------------------------------------------------
-- Arguments
------------------------------------------------------------

namespace Gantry

namespace Run

/- The only argument of a function. -/
def oneArgument
    (function : String)
    (args : List Value) : Run Value :=
  match args with
  | [value] => return value
  | _ => mismatch (.builtinArity function 1 args.length)

/- No argument at all. -/
def noArgument
    (function : String)
    (args : List Value) : Run Unit :=
  match args with
  | [] => return ()
  | _ => mismatch (.builtinArity function 0 args.length)

/- An argument as a number. -/
def numberArgument
    (function : String)
    (value : Value) : Run Float :=
  match value.asNumber? with
  | some x => return x
  | none =>
      mismatch (.expectsNumber function value.typeName)

end Run

end Gantry

------------------------------------------------------------
-- Ranges
------------------------------------------------------------

namespace Gantry

namespace Run

/- A list of numbers up to a bound that it leaves out. -/
def rangeOf
    (start stop step : Float) : Run Value :=
  if step == 0 then
    badArgument .zeroStep
  else
    let count := ((stop - start) / step).ceil
    if !count.isFinite then
      badArgument .endlessRange
    else if maxRangeLength.toFloat < count then
      badArgument .longRange
    else
      let size := ((Number.integer? count).getD 0).toNat
      makeList (.progression start step size)

/- A range from one to three numbers. -/
def range
    (args : List Value) : Run Value := do
  match ← args.mapM (numberArgument "range") with
  | [stop] => rangeOf 0 stop 1
  | [start, stop] => rangeOf start stop 1
  | [start, stop, step] => rangeOf start stop step
  | _ => mismatch (.rangeArity args.length)

end Run

end Gantry

------------------------------------------------------------
-- Conversions
------------------------------------------------------------

namespace Gantry

namespace Run

/- A whole number from a text or a number. -/
def toInteger
    (value : Value) : Run Value := do
  match value with
  | .str text =>
      match
        Number.readInteger? (Text.trimChars text.toList) with
      | some n => return .number (Float.ofInt n)
      | none =>
          badArgument (.notInteger (value.repr (← heap)))
  | _ =>
      match value.asNumber? with
      | some x =>
          if x.isFinite then
            return .number (Number.truncate x)
          else
            badArgument
              (.noIntegerValue (Value.numberText x))
      | none =>
          mismatch (.notConvertible "int" value.typeName)

/- A number from a text or a number. -/
def toFloat
    (value : Value) : Run Value := do
  match value with
  | .str text =>
      match Number.read? (Text.trimChars text.toList) with
      | some x => return .number x
      | none =>
          badArgument (.notFloat (value.repr (← heap)))
  | _ =>
      match value.asNumber? with
      | some x => return .number x
      | none =>
          mismatch (.notConvertible "float" value.typeName)

end Run

end Gantry

------------------------------------------------------------
-- Extremes
------------------------------------------------------------

namespace Gantry

namespace Run

/- The first of the best candidates so far. -/
def bestOf
    (better : Ordering) :
    Value → List Value → Run Value
| best, [] => return best
| best, candidate :: rest => do
    if (← compare candidate best) == better then
      bestOf better candidate rest
    else
      bestOf better best rest

/- The items of a single list, or else the arguments. -/
def candidates
    (heap : Heap)
    (args : List Value) : List Value :=
  match args with
  | [.list ref] => (heap.items ref).toList
  | _ => args

/- The least or the greatest of some candidates. -/
def extremum
    (function : String)
    (better : Ordering)
    (args : List Value) : Run Value := do
  match candidates (← heap) args with
  | [] => badArgument (.emptySequence function)
  | first :: rest => bestOf better first rest

end Run

end Gantry

------------------------------------------------------------
-- Calls
------------------------------------------------------------

namespace Gantry

namespace Run

/- The kind of block that an argument asks for. -/
def blockKind
    (heap : Heap)
    (args : List Value) : String :=
  match args with
  | [] => standardSupply
  | .none :: _ => standardSupply
  | value :: _ => value.display heap

/-
  Call a built-in function. Commands of the crane are only
  recorded, and a script has no input to read.
-/
def callBuiltin
    (stage : Stage)
    (function : Builtin)
    (args : List Value) : Run Value := do
  match function with
  | .print =>
      let heap ← heap
      printLine
        (" ".intercalate (args.map (Value.display heap)))
      return .none
  | .range => range args
  | .len =>
      let value ← oneArgument "len" args
      match length? (← heap) value with
      | some length => return .number length.toFloat
      | none => mismatch (.noLength value.typeName)
  | .int => toInteger (← oneArgument "int" args)
  | .float => toFloat (← oneArgument "float" args)
  | .str =>
      let value ← oneArgument "str" args
      return .str (value.display (← heap))
  | .abs =>
      let value ← oneArgument "abs" args
      return .number (← numberArgument "abs" value).abs
  | .min => extremum "min" .lt args
  | .max => extremum "max" .gt args
  | .input => return .str ""
  | .look =>
      noArgument "look" args
      return .str ((← get).look stage)
  | .crane .placeBlock =>
      record ⟨.placeBlock, some (blockKind (← heap) args)⟩
      return .none
  | .crane verb =>
      record ⟨verb, none⟩
      return .none

/- Call a method of a value. -/
def callMethod
    (method : Method)
    (receiver : Value)
    (args : List Value) : Run Value := do
  match method, receiver with
  | .append, .list ref =>
      let item ← oneArgument "append" args
      modify fun machine =>
        { machine with heap := machine.heap.append ref item }
      return .none
  | .upper, .str text =>
      noArgument "upper" args
      return .str (Text.upper text)
  | .lower, .str text =>
      noArgument "lower" args
      return .str (Text.lower text)
  | .strip, .str text =>
      noArgument "strip" args
      return .str (Text.trim text)
  | _, _ =>
      throw
        (.unknownAttribute receiver.typeName method.name)

end Run

end Gantry
