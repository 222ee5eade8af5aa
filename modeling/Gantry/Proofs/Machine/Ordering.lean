import Mathlib.Data.String.Basic
import Mathlib.Data.Sum.Order
import Gantry.Proofs.Machine.Invariant
import Gantry.Proofs.Number.Order
import Gantry.Proofs.Value.Difference

/-
  This file says how the comparisons of the script language
  go together. Two strings can be compared, and so can two
  numbers or truth values. They are compared by their keys,
  which stand in one line, and so the six comparisons agree.
  NaN has no key: it is not equal to anything, but it counts
  as ordered with every number.

  Key definitions include:
    * `Gantry.Value.Comparable`
    * `Gantry.Value.key`

  Main statements:
    * `Gantry.Value.order?_isSome_iff`
    * `Gantry.Value.order?_eq_compare_key`
    * `Gantry.Value.equal_iff_key`
    * `Gantry.Run.comparisons_agree`
-/

------------------------------------------------------------
-- Values That Can Be Compared
------------------------------------------------------------

namespace Gantry

namespace Value

/- Two strings, or two numbers or truth values. -/
inductive Comparable : Value → Value → Prop where
  | strings (s t : String) :
      Comparable (.str s) (.str t)
  | numbers {a b : Value} {x y : Float}
      (hLeft : a.asNumber? = some x)
      (hRight : b.asNumber? = some y) :
      Comparable a b

/- A value is NaN. -/
def isNaN
    (value : Value) : Bool :=
  value.asNumber?.any Float.isNaN

/- What a value is compared by: its text, or its rank. -/
abbrev Key := String ⊕ₗ Number.Rank

/-
  The key of a value. NaN, and whatever is neither a string
  nor a number, gets one that means nothing.
-/
def key :
    Value → Key
| str text => Sum.inlₗ text
| value =>
    Sum.inrₗ
      ((value.asNumber?.bind Number.rank?).getD 0)

theorem Comparable.symm
    {a b : Value}
    (hComparable : Comparable a b) :
    Comparable b a := by
  cases hComparable with
  | strings s t => exact .strings t s
  | numbers hLeft hRight => exact .numbers hRight hLeft

theorem Comparable.trans
    {a b c : Value}
    (hFirst : Comparable a b)
    (hSecond : Comparable b c) :
    Comparable a c := by
  cases hFirst with
  | strings s t =>
      cases hSecond with
      | strings _ u => exact .strings s u
      | numbers hLeft hRight => cases hLeft
  | numbers hLeft hRight =>
      cases hSecond with
      | strings t u => cases hRight
      | numbers _ hLast => exact .numbers hLeft hLast

end Value

end Gantry

------------------------------------------------------------
-- Order And Equality By Keys
------------------------------------------------------------

namespace Gantry

namespace Value

/- Numbers and truth values are ordered as numbers. -/
theorem order?_of_numbers
    {a b : Value}
    {x y : Float}
    (hLeft : a.asNumber? = some x)
    (hRight : b.asNumber? = some y) :
    a.order? b = some (numberOrder x y) := by
  cases a <;> cases hLeft <;> cases b <;> cases hRight <;>
    rfl

/- Numbers and truth values are equal as numbers. -/
theorem equal_of_numbers
    {a b : Value}
    {x y : Float}
    (hLeft : a.asNumber? = some x)
    (hRight : b.asNumber? = some y)
    (heap : Heap) :
    a.equal heap b = (x == y) := by
  have hLists : ¬∃ m n, a = .list m ∧ b = .list n := by
    rintro ⟨m, n, rfl, rfl⟩
    cases hLeft
  rw [equal, equalWithin_leaf hLists]
  cases a <;> cases hLeft <;> cases b <;> cases hRight <;>
    rfl

/- Just the values that can be compared have an order. -/
theorem order?_isSome_iff
    (a b : Value) :
    (a.order? b).isSome = true ↔ Comparable a b := by
  constructor
  · intro hSome
    unfold order? at hSome
    split at hSome
    · exact .strings _ _
    · split at hSome
      · exact .numbers ‹_› ‹_›
      · contradiction
  · intro hComparable
    cases hComparable with
    | strings s t => rfl
    | numbers hLeft hRight =>
        rw [order?_of_numbers hLeft hRight]
        rfl

/- The key of a number is its rank. -/
theorem key_of_number
    {a : Value}
    {x : Float}
    (hNumber : a.asNumber? = some x)
    (hNaN : a.isNaN = false) :
    ∃ p, Number.rank? x = some p ∧
      a.key = Sum.inrₗ p := by
  have hRank : Number.rank? x ≠ Option.none := by
    rw [ne_eq, ← Number.isNaN_iff_rank, Bool.not_eq_true]
    simpa [isNaN, hNumber] using hNaN
  rcases Option.ne_none_iff_exists'.mp hRank with ⟨p, hp⟩
  refine ⟨p, hp, ?_⟩
  cases a <;> cases hNumber <;> simp [key, asNumber?, hp]

/- Values that can be compared are ordered as their keys. -/
theorem order?_eq_compare_key
    {a b : Value}
    (hComparable : Comparable a b)
    (hLeft : a.isNaN = false)
    (hRight : b.isNaN = false) :
    a.order? b = some (compare a.key b.key) := by
  rw [← cmp_eq_compare]
  cases hComparable with
  | strings s t =>
      change some (textOrder s t) = some _
      simp only [textOrder, key, cmp, cmpUsing,
        Sum.Lex.inl_lt_inl_iff]
  | numbers hx hy =>
      rcases key_of_number hx hLeft with ⟨p, hp, hKey⟩
      rcases key_of_number hy hRight with ⟨q, hq, hOther⟩
      rw [order?_of_numbers hx hy,
        numberOrder_of_rank hp hq, hKey, hOther,
        ← cmp_eq_compare]
      simp only [cmp, cmpUsing, Sum.Lex.inr_lt_inr_iff]

/- Values that can be compared are equal if their keys are. -/
theorem equal_iff_key
    {a b : Value}
    (hComparable : Comparable a b)
    (hLeft : a.isNaN = false)
    (hRight : b.isNaN = false)
    (heap : Heap) :
    a.equal heap b = true ↔ a.key = b.key := by
  cases hComparable with
  | strings s t =>
      rw [equal, equalWithin_leaf (by simp)]
      simp [leafEqual, key]
  | numbers hx hy =>
      rcases key_of_number hx hLeft with ⟨p, hp, hKey⟩
      rcases key_of_number hy hRight with ⟨q, hq, hOther⟩
      rw [equal_of_numbers hx hy, Number.beq_iff_rank, hKey,
        hOther]
      simp [hp, hq, eq_comm]

end Value

end Gantry

------------------------------------------------------------
-- Values That Have An Order
------------------------------------------------------------

namespace Gantry

namespace Value

variable {a b : Value} {order : Ordering}

theorem comparable_of_order
    (hOrder : a.order? b = some order) :
    Comparable a b := by
  rw [← order?_isSome_iff, hOrder]
  rfl

/- NaN counts as ordered with numbers, and is not equal. -/
theorem order_of_isNaN
    (hOrder : a.order? b = some order)
    (hNaN : (a.isNaN || b.isNaN) = true)
    (heap : Heap) :
    order = .eq ∧ a.equal heap b = false := by
  cases comparable_of_order hOrder with
  | strings s t => cases hNaN
  | numbers hx hy =>
      rw [order?_of_numbers hx hy, Option.some.injEq] at hOrder
      simp only [isNaN, hx, hy, Option.any_some,
        Bool.or_eq_true] at hNaN
      refine ⟨hOrder ▸ numberOrder_of_isNaN hNaN, ?_⟩
      rw [equal_of_numbers hx hy, ← Bool.not_eq_true,
        Number.beq_iff_rank]
      rw [Number.isNaN_iff_rank, Number.isNaN_iff_rank]
        at hNaN
      rcases hNaN with hNone | hNone <;> simp [hNone]

/- Values are equal if neither is less, unless one is NaN. -/
theorem equal_of_order
    (hOrder : a.order? b = some order)
    (heap : Heap) :
    a.equal heap b =
      (order == .eq && !(a.isNaN || b.isNaN)) := by
  have hComparable := comparable_of_order hOrder
  by_cases hNaN : (a.isNaN || b.isNaN) = true
  · rw [hNaN, (order_of_isNaN hOrder hNaN heap).2]
    simp
  · rw [Bool.not_eq_true, Bool.or_eq_false_iff] at hNaN
    rw [order?_eq_compare_key hComparable hNaN.1 hNaN.2,
      Option.some.injEq] at hOrder
    rw [hNaN.1, hNaN.2, Bool.eq_iff_iff,
      equal_iff_key hComparable hNaN.1 hNaN.2, ← hOrder]
    simp [compare_eq_iff_eq]

/- The other way round, the order is the opposite one. -/
theorem order?_swap
    (hOrder : a.order? b = some order) :
    b.order? a = some order.swap := by
  have hOther := (comparable_of_order hOrder).symm
  by_cases hNaN : (a.isNaN || b.isNaN) = true
  · rcases Option.isSome_iff_exists.mp
        ((order?_isSome_iff b a).mpr hOther) with
      ⟨found, hFound⟩
    have hSwapped : (b.isNaN || a.isNaN) = true := by
      rwa [Bool.or_comm]
    rw [hFound, (order_of_isNaN hOrder hNaN {}).1,
      (order_of_isNaN hFound hSwapped {}).1]
    rfl
  · rw [Bool.not_eq_true, Bool.or_eq_false_iff] at hNaN
    rw [order?_eq_compare_key hOther.symm hNaN.1 hNaN.2,
      Option.some.injEq] at hOrder
    rw [order?_eq_compare_key hOther hNaN.2 hNaN.1, ← hOrder,
      ← cmp_eq_compare, ← cmp_eq_compare, cmp_swap]

end Value

end Gantry

------------------------------------------------------------
-- The Comparisons Of A Script
------------------------------------------------------------

namespace Gantry

namespace Run

/- An operator between two values yields a truth value. -/
def Answers
    (machine : Machine)
    (op : BinaryOp)
    (left right : Value)
    (answer : Bool) : Prop :=
  on (binary op left right) machine =
    (.ok (.bool answer), machine)

/- Comparing finds the order of two values that have one. -/
theorem compare_of_order
    {a b : Value}
    {order : Ordering}
    (hOrder : a.order? b = some order) :
    compare a b = pure order := by
  rw [compare, hOrder]

/- Comparing others is a mismatch of their types. -/
theorem compare_of_not_comparable
    {a b : Value}
    (hOther : ¬Value.Comparable a b) :
    compare a b =
      mismatch (.incomparable a.typeName b.typeName) := by
  rw [← Value.order?_isSome_iff, Bool.not_eq_true,
    Option.isSome_eq_false_iff, Option.isNone_iff_eq_none]
    at hOther
  rw [compare, hOther]

/- Comparing succeeds just on what can be compared. -/
theorem order_of_compare
    {machine : Machine}
    {a b : Value}
    {order : Ordering}
    (hCompare :
      on (compare a b) machine = (.ok order, machine)) :
    a.order? b = some order := by
  unfold compare at hCompare
  cases hOrder : a.order? b with
  | some found =>
      rw [hOrder] at hCompare
      cases hCompare
      rfl
  | none =>
      rw [hOrder] at hCompare
      cases hCompare

/- The four comparisons that ask for the order alone. -/
theorem answers_of_order
    (machine : Machine)
    {a b : Value}
    {order : Ordering}
    (hOrder : a.order? b = some order) :
    Answers machine .less a b (order == .lt) ∧
      Answers machine .greater a b (order == .gt) ∧
      Answers machine .lessEqual a b (order != .gt) ∧
      Answers machine .greaterEqual a b (order != .lt) := by
  refine ⟨?_, ?_, ?_, ?_⟩ <;>
  · rw [Answers, binary, compare_of_order hOrder]
    rfl

/- The two that ask whether the values are equal. -/
theorem answers_of_equal
    (machine : Machine)
    (a b : Value) :
    Answers machine .equal a b (a.equal machine.heap b) ∧
      Answers machine .notEqual a b
        !a.equal machine.heap b :=
  ⟨rfl, rfl⟩

theorem comparisons_agree
    (machine : Machine)
    {a b : Value}
    {order : Ordering}
    (hCompare :
      on (compare a b) machine = (.ok order, machine)) :
    Value.Comparable a b ∧
      ∃ less equal greater : Bool,
        (Answers machine .less a b less ∧
          Answers machine .greater b a less) ∧
        (Answers machine .greater a b greater ∧
          Answers machine .less b a greater) ∧
        (Answers machine .equal a b equal ∧
          Answers machine .notEqual a b !equal) ∧
        Answers machine .lessEqual a b
          (less || equal || (a.isNaN || b.isNaN)) ∧
        Answers machine .greaterEqual a b
          (greater || equal || (a.isNaN || b.isNaN)) ∧
        [less, equal, greater].count true =
          if a.isNaN || b.isNaN then 0 else 1 := by
  have hOrder := order_of_compare hCompare
  rcases answers_of_order machine hOrder with
    ⟨hLess, hGreater, hLessEqual, hGreaterEqual⟩
  rcases answers_of_order machine (Value.order?_swap hOrder)
    with ⟨hLessBack, hGreaterBack, -, -⟩
  rcases answers_of_equal machine a b with
    ⟨hEqual, hNotEqual⟩
  rw [Value.equal_of_order hOrder] at hEqual hNotEqual
  have hComparable := Value.comparable_of_order hOrder
  have hNaN :=
    fun h => (Value.order_of_isNaN hOrder h machine.heap).1
  generalize (a.isNaN || b.isNaN) = nan
    at hEqual hNotEqual hNaN ⊢
  cases nan with
  | true =>
      -- only the two that allow for equality hold of NaN
      cases hNaN rfl
      exact ⟨hComparable, false, false, false,
        ⟨hLess, hGreaterBack⟩, ⟨hGreater, hLessBack⟩,
        ⟨hEqual, hNotEqual⟩, hLessEqual, hGreaterEqual,
        rfl⟩
  | false =>
      cases order <;>
        exact ⟨hComparable, _, _, _,
          ⟨hLess, hGreaterBack⟩, ⟨hGreater, hLessBack⟩,
          ⟨hEqual, hNotEqual⟩, hLessEqual, hGreaterEqual,
          rfl⟩

/- A truth value is compared with a number as a number. -/
theorem comparisons_agree_true_two :
    on (compare (.bool true) (.number 2)) {} =
        (.ok .lt, {}) ∧
      ∃ less equal greater : Bool,
        Answers {} .less (.bool true) (.number 2) less ∧
        [less, equal, greater].count true = 1 := by
  have hOrder :
      Value.order? (.bool true) (.number 2) = some .lt := by
    decide +kernel
  have hNumbers :
      (Value.isNaN (.bool true) ||
        Value.isNaN (.number 2)) = false := by
    decide +kernel
  have hCompare :
      on (compare (.bool true) (.number 2)) {} =
        (.ok .lt, {}) := by
    rw [compare_of_order hOrder]
    rfl
  rcases comparisons_agree {} hCompare with
    ⟨-, less, equal, greater, hLess, -, -, -, -, hCount⟩
  rw [hNumbers] at hCount
  exact ⟨hCompare, less, equal, greater, hLess.1, hCount⟩

/-
  NaN can be compared with one. It is neither less than one
  nor equal to one, and still it is less than or equal to it.
-/
theorem nan_at_most_one :
    ∃ nan : Value,
      on (toFloat (.str "nan")) {} = (.ok nan, {}) ∧
        on (compare nan (.number 1)) {} = (.ok .eq, {}) ∧
        Answers {} .lessEqual nan (.number 1) true ∧
        Answers {} .less nan (.number 1) false ∧
        Answers {} .equal nan (.number 1) false := by
  have hRead :
      Number.read? (Text.trimChars "nan".toList) =
        some (0 / 0) := by
    decide +kernel
  have hOrder :
      Value.order? (.number (0 / 0)) (.number 1) =
        some .eq := by
    decide +kernel
  have hEqual :
      Value.equal {} (.number (0 / 0)) (.number 1) =
        false := by
    decide +kernel
  rcases answers_of_order {} hOrder with
    ⟨hLess, -, hLessEqual, -⟩
  rcases answers_of_equal {} (.number (0 / 0)) (.number 1)
    with ⟨hAnswer, -⟩
  change Answers _ _ _ _ (Value.equal {} _ _) at hAnswer
  rw [hEqual] at hAnswer
  refine ⟨.number (0 / 0), ?_, ?_, hLessEqual, hLess,
    hAnswer⟩
  · simp only [toFloat, hRead]
    rfl
  · rw [compare_of_order hOrder]
    rfl

end Run

end Gantry
