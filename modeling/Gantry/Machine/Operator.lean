import Gantry.Machine
import Gantry.Number.Reading
import Gantry.Value.Display
import Gantry.Value.Equality

/-
  This file defines what the operators, indexing and
  attributes of the script language do.

  Key definitions include:
    * `Gantry.Run.compare`
    * `Gantry.Run.unary`
    * `Gantry.Run.binary`
    * `Gantry.Run.slot`
    * `Gantry.Run.index`
    * `Gantry.Run.attr`
-/

------------------------------------------------------------
-- Comparison
------------------------------------------------------------

namespace Gantry

namespace Run

/- The order of two values, if they have one. -/
def compare
    (left right : Value) : Run Ordering :=
  match left.order? right with
  | some order => return order
  | none =>
      mismatch
        (.incomparable left.typeName right.typeName)

/- A value is among the items of a list, or in a text. -/
def isIn
    (needle container : Value) : Run Value := do
  let heap ← heap
  match needle, container with
  | _, .list ref =>
      return .bool
        ((heap.items ref).any (Value.equal heap · needle))
  | .str part, .str text =>
      return .bool (text.contains part)
  | _, .str _ => mismatch (.notInString needle.typeName)
  | _, _ => mismatch (.notContainer container.typeName)

end Run

end Gantry

------------------------------------------------------------
-- Arithmetic
------------------------------------------------------------

namespace Gantry

namespace Run

/- Two operands as numbers. -/
def numbers
    (op : BinaryOp)
    (left right : Value) : Run (Float × Float) :=
  match left.asNumber?, right.asNumber? with
  | some x, some y => return (x, y)
  | _, _ =>
      mismatch (.operands op left.typeName right.typeName)

/- The quotient rounded down to a whole number. -/
def floorQuotient
    (x y : Float) : Float :=
  (x / y).floor

/- A divisor other than zero. -/
def divisor
    (operation : Division)
    (y : Float) : Run Float :=
  if y == 0 then
    throw (.zeroDivision operation)
  else
    return y

/-
  A sum. With a string on either side the texts are joined,
  and two lists make a new one.
-/
def add
    (left right : Value) : Run Value := do
  let heap ← heap
  match left, right with
  | .str _, _ =>
      return .str (left.display heap ++ right.display heap)
  | _, .str _ =>
      return .str (left.display heap ++ right.display heap)
  | .list a, .list b =>
      makeList ((heap.list a).join (heap.list b))
  | _, _ =>
      let (x, y) ← numbers .add left right
      return .number (x + y)

/- A number of times: nothing below zero counts. -/
def timesOf
    (x : Float) : Float :=
  if x < 0 || x.isNaN then 0 else Number.truncate x

/- A text several times over. -/
def repeatText
    (text : String)
    (times : Float) : Run Value :=
  let count := timesOf times
  let length := text.utf8ByteSize.toFloat * count
  if !length.isFinite ||
      maxRepeatLength.toFloat < length then
    badArgument .longRepeat
  else if text.isEmpty then
    return .str ""
  else
    let rounds := ((Number.integer? count).getD 0).toNat
    return .str (Nat.repeat (· ++ text) rounds "")

/- A product. A string and a number repeat the string. -/
def mul
    (left right : Value) : Run Value :=
  match left, right with
  | .str text, n =>
      match n.asNumber? with
      | some times => repeatText text times
      | none =>
          mismatch
            (.operands .mul left.typeName right.typeName)
  | n, .str text =>
      match n.asNumber? with
      | some times => repeatText text times
      | none =>
          mismatch
            (.operands .mul left.typeName right.typeName)
  | _, _ => do
      let (x, y) ← numbers .mul left right
      return .number (x * y)

/- An operator with a value in front of it. -/
def unary
    (op : UnaryOp)
    (value : Value) : Run Value := do
  match op with
  | .not => return .bool (!value.isTruthy (← heap))
  | .neg =>
      match value.asNumber? with
      | some x => return .number (-x)
      | none => mismatch (.unaryMinus value.typeName)

/-
  An operator between two values. The two that may leave out
  their right operand are treated where operands are
  evaluated; here they choose one of the values.
-/
def binary
    (op : BinaryOp)
    (left right : Value) : Run Value := do
  match op with
  | .or =>
      return if left.isTruthy (← heap) then left else right
  | .and =>
      return if left.isTruthy (← heap) then right else left
  | .equal => return .bool (left.equal (← heap) right)
  | .notEqual => return .bool (!left.equal (← heap) right)
  | .less => return .bool ((← compare left right) == .lt)
  | .greater => return .bool ((← compare left right) == .gt)
  | .lessEqual =>
      return .bool ((← compare left right) != .gt)
  | .greaterEqual =>
      return .bool ((← compare left right) != .lt)
  | .isIn => isIn left right
  | .add => add left right
  | .mul => mul left right
  | .sub =>
      let (x, y) ← numbers .sub left right
      return .number (x - y)
  | .div =>
      let (x, y) ← numbers .div left right
      return .number (x / (← divisor .exact y))
  | .floorDiv =>
      let (x, y) ← numbers .floorDiv left right
      return .number
        (floorQuotient x (← divisor .floor y))
  | .mod =>
      let (x, y) ← numbers .mod left right
      let d ← divisor .remainder y
      return .number (x - d * floorQuotient x d)

end Run

end Gantry

------------------------------------------------------------
-- Indexing And Attributes
------------------------------------------------------------

namespace Gantry

namespace Run

/- The nearest whole number that fits in 64 bits. -/
def clampWord
    (n : Int) : Int :=
  max (-Number.wordBound) (min n (Number.wordBound - 1))

/- The whole number that a value stands for as an index. -/
def wholeIndex? :
    Value → Option Int
| .number x => (Number.integer? x).map clampWord
| .bool value => some (if value then 1 else 0)
| _ => none

/- A slot of a sequence; negative indices count backwards. -/
def slot
    (key : Value)
    (length : Nat) : Run Nat :=
  match wholeIndex? key with
  | none => mismatch (.badIndex key.typeName)
  | some n =>
      let place := if n < 0 then n + length else n
      if 0 ≤ place ∧ place < length then
        return place.toNat
      else
        throw (.indexOutOfRange n length)

/- An item of a list, or a character of a text. -/
def index
    (object key : Value) : Run Value := do
  match object with
  | .list ref =>
      let place ← slot key ((← heap).size ref)
      return ((← heap).item? ref place).getD .none
  | .str text =>
      let place ← slot key text.length
      return .str ((text.drop place).take 1).copy
  | _ => mismatch (.notSubscriptable object.typeName)

/- Replace an item of a list. -/
def setIndex
    (object key value : Value) : Run Unit := do
  match object with
  | .list ref =>
      let place ← slot key ((← heap).size ref)
      modify fun machine =>
        { machine with
          heap := machine.heap.setItem ref place value }
  | _ => mismatch (.noItemAssignment object.typeName)

/- The number of items or characters, if there are any. -/
def length?
    (heap : Heap) :
    Value → Option Nat
| .list ref => some (heap.size ref)
| .str text => some text.length
| _ => none

/- The names under which a length can be read. -/
def isLengthName
    (name : String) : Bool :=
  name == "len" || name == "length"

/- A length, or a method bound to its receiver. -/
def attr
    (object : Value)
    (name : String) : Run Value := do
  match isLengthName name, length? (← heap) object with
  | true, some length => return .number length.toFloat
  | _, _ =>
      match object.method? name with
      | some method =>
          return .method (← nextSerial) object method
      | none =>
          throw (.unknownAttribute object.typeName name)

end Run

end Gantry
