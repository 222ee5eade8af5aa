import Mathlib.Order.WellFounded
import Gantry.Proofs.Machine.Walks

/-
  This file says when two values differ: there is a way of
  indices that can be followed from both of them at once, and
  at its end stand two things that cannot be equal. Comparing
  values finds such a way whenever there is one, although it
  takes a pair of lists that it is inside of for equal.

  Key definitions include:
    * `Gantry.Value.SameLeaf`
    * `Gantry.Value.Differ`

  Main statements:
    * `Gantry.Value.exists_differ`
    * `Gantry.Value.Differ.equalWithin`
    * `Gantry.Value.unequal_iff_differ`
-/

------------------------------------------------------------
-- Items At Places
------------------------------------------------------------

namespace Gantry

theorem Items.getElem?_toArray
    (items : Items)
    (place : Nat) :
    items.toArray[place]? = items.get? place := by
  cases items with
  | listed values => rfl
  | progression start step count =>
      by_cases hPlace : place < count <;>
        simp [toArray, get?, hPlace]

namespace Heap

/- Pairs of items at the same place of two lists. -/
theorem mem_zip_items
    {heap : Heap}
    {a b : Nat}
    {pair : Value × Value} :
    pair ∈ (heap.items a).toList.zip (heap.items b).toList ↔
      ∃ place,
        heap.item? a place = some pair.1 ∧
          heap.item? b place = some pair.2 := by
  simp only [List.mem_iff_getElem?, List.getElem?_zip_eq_some,
    Array.getElem?_toList, items, Items.getElem?_toArray]
  rfl

end Heap

end Gantry

------------------------------------------------------------
-- Differences
------------------------------------------------------------

namespace Gantry

namespace Value

/-
  Two values that are not lists are the same: one text, one
  number or truth value, nothing, or one function or method.
  What was made at another time is another function.
-/
inductive SameLeaf : Value → Value → Prop where
  | str (text : String) :
      SameLeaf (.str text) (.str text)
  | none : SameLeaf .none .none
  | number {a b : Value} {x y : Float}
      (hLeft : a.asNumber? = some x)
      (hRight : b.asNumber? = some y)
      (hEqual : (x == y) = true) :
      SameLeaf a b
  | builtin (known : Builtin) :
      SameLeaf (.builtin known) (.builtin known)
  | function {a b : Closure}
      (hSerial : a.serial = b.serial) :
      SameLeaf (.function a) (.function b)
  | method (serial : Nat) {a b : Value} {m n : Method} :
      SameLeaf (.method serial a m) (.method serial b n)

/-
  Two values differ at the end of a way. The way leads
  through pairs of different lists of the same size; it ends
  at two different lists of different sizes, or at a pair
  that is not a pair of lists and not the same.
-/
inductive Differ
    (heap : Heap) :
    List Nat → Value → Value → Prop where
  | leaf {a b : Value}
      (hLists : ¬∃ x y, a = .list x ∧ b = .list y)
      (hLeaf : ¬SameLeaf a b) :
      Differ heap [] a b
  | size {a b : Nat}
      (hOther : a ≠ b)
      (hSize : heap.size a ≠ heap.size b) :
      Differ heap [] (.list a) (.list b)
  | item {a b place : Nat} {way : List Nat} {x y : Value}
      (hOther : a ≠ b)
      (hSize : heap.size a = heap.size b)
      (hLeft : heap.item? a place = some x)
      (hRight : heap.item? b place = some y)
      (hItem : Differ heap way x y) :
      Differ heap (place :: way) (.list a) (.list b)

/- Values are compared as leaves just by what they are. -/
theorem leafEqual_iff
    (a b : Value) :
    leafEqual a b = true ↔ SameLeaf a b := by
  constructor
  · intro hEqual
    unfold leafEqual at hEqual
    split at hEqual
    · rw [beq_iff_eq] at hEqual
      exact hEqual ▸ .str _
    · exact .none
    · exact .function (beq_iff_eq.mp hEqual)
    · rw [beq_iff_eq] at hEqual
      exact hEqual ▸ .builtin _
    · rw [beq_iff_eq] at hEqual
      exact hEqual ▸ .method _
    · split at hEqual
      · exact .number ‹_› ‹_› hEqual
      · contradiction
  · intro hSame
    cases hSame with
    | number hLeft hRight hEqual =>
        cases a <;> cases b <;>
          simp_all [leafEqual, asNumber?]
    | function hSerial => simpa [leafEqual] using hSerial
    | _ => simp [leafEqual]

end Value

end Gantry

------------------------------------------------------------
-- Comparing
------------------------------------------------------------

namespace Gantry

namespace Value

open Course (Opened)

variable {heap : Heap}

/- Two lists that are opened are equal item by item. -/
theorem equalWithin_list
    {room : Nat}
    {around : List (Nat × Nat)}
    {a b : Nat}
    (hOther : a ≠ b)
    (hNew : (a, b) ∉ around) :
    equalWithin heap (room + 1) around (.list a) (.list b) =
        true ↔
      heap.size a = heap.size b ∧
        ∀ place x y,
          heap.item? a place = some x →
          heap.item? b place = some y →
          equalWithin heap room ((a, b) :: around) x y =
            true := by
  have hOpen :
      ¬(a == b || isAmong a b around) = true := by
    simp [hOther, Course.isAmong_iff, hNew]
  rw [equalWithin, if_neg hOpen, Bool.and_eq_true,
    beq_iff_eq, ← Array.all_toList, Array.toList_zip,
    List.all_eq_true]
  refine and_congr_right fun _ => ?_
  constructor
  · intro hItems place x y hLeft hRight
    exact hItems (x, y)
      (Heap.mem_zip_items.mpr ⟨place, hLeft, hRight⟩)
  · intro hItems pair hPair
    rcases Heap.mem_zip_items.mp hPair with
      ⟨place, hLeft, hRight⟩
    exact hItems place pair.1 pair.2 hLeft hRight

/- Values that are not both lists are compared as leaves. -/
theorem equalWithin_leaf
    {a b : Value}
    (hLists : ¬∃ x y, a = .list x ∧ b = .list y)
    (room : Nat)
    (around : List (Nat × Nat)) :
    equalWithin heap room around a b = leafEqual a b := by
  rw [equalWithin]
  · exact fun x y _ hLeft hRight =>
      hLists ⟨x, y, hLeft, hRight⟩
  · exact fun _ x y _ hLeft hRight =>
      hLists ⟨x, y, hLeft, hRight⟩

/- Lists that are inside themselves as a pair are equal. -/
theorem equalWithin_met
    {room : Nat}
    {around : List (Nat × Nat)}
    {a b : Nat}
    (hMet : a = b ∨ (a, b) ∈ around) :
    equalWithin heap room around (.list a) (.list b) =
      true := by
  cases room with
  | zero => rfl
  | succ room =>
      have hSame :
          (a == b || isAmong a b around) = true := by
        simpa [Course.isAmong_iff] using hMet
      rw [equalWithin, if_pos hSame]

/-
  Values that are found to be unequal do differ: to take a
  pair for equal never makes anything unequal.
-/
theorem exists_differ
    {room : Nat}
    {around : List (Nat × Nat)}
    {a b : Value}
    (hUnequal : equalWithin heap room around a b = false) :
    ∃ way, Differ heap way a b := by
  by_cases hLists : ∃ x y, a = .list x ∧ b = .list y
  · rcases hLists with ⟨x, y, rfl, rfl⟩
    by_cases hMet : x = y ∨ (x, y) ∈ around
    · rw [equalWithin_met hMet] at hUnequal
      contradiction
    · rw [not_or] at hMet
      cases room with
      | zero => rw [equalWithin] at hUnequal; contradiction
      | succ room =>
          rw [← Bool.not_eq_true,
            equalWithin_list hMet.1 hMet.2] at hUnequal
          by_cases hSize : heap.size x = heap.size y
          · simp only [hSize, true_and, not_forall,
              Bool.not_eq_true] at hUnequal
            rcases hUnequal with
              ⟨place, left, right, hLeft, hRight, hItem⟩
            rcases exists_differ hItem with ⟨way, hWay⟩
            exact ⟨place :: way,
              .item hMet.1 hSize hLeft hRight hWay⟩
          · exact ⟨[], .size hMet.1 hSize⟩
  · rw [equalWithin_leaf hLists, ← Bool.not_eq_true,
      leafEqual_iff] at hUnequal
    exact ⟨[], .leaf hLists hUnequal⟩
termination_by room

/-
  A shortest way to a difference is found. No pair of lists
  around the one that was reached is met on it again, because
  from there the way would be longer than it is.
-/
theorem Differ.equalWithin
    {way : List Nat}
    {a b : Value}
    (hDiffer : Differ heap way a b)
    {room : Nat}
    {around : List (Nat × Nat)}
    (hOpened :
      Opened (heap.refs ×ˢ heap.refs) room around)
    (hShort :
      ∀ other, Differ heap other a b →
        way.length ≤ other.length)
    (hAround :
      ∀ x y, (x, y) ∈ around →
        ∀ other, Differ heap other (.list x) (.list y) →
          way.length < other.length) :
    Value.equalWithin heap room around a b = false := by
  induction hDiffer generalizing room around with
  | leaf hLists hLeaf =>
      rw [equalWithin_leaf hLists, ← Bool.not_eq_true,
        leafEqual_iff]
      exact hLeaf
  | @size a b hOther hSize =>
      have hNew : (a, b) ∉ around := fun hMem =>
        Nat.lt_irrefl _
          (hAround a b hMem [] (.size hOther hSize))
      cases room with
      | zero => exact hOpened.not_zero.elim
      | succ room =>
          rw [← Bool.not_eq_true,
            equalWithin_list hOther hNew]
          exact fun hItems => hSize hItems.1
  | @item a b place way x y hOther hSize hLeft hRight hItem
      ih =>
      have hWhole :
          Differ heap (place :: way) (.list a) (.list b) :=
        .item hOther hSize hLeft hRight hItem
      have hNew : (a, b) ∉ around := fun hMem =>
        Nat.lt_irrefl _ (hAround a b hMem _ hWhole)
      have hKnown : (a, b) ∈ heap.refs ×ˢ heap.refs :=
        List.mem_product.mpr
          ⟨Heap.mem_refs_of_mem_items
              (Items.mem_of_get? hLeft),
            Heap.mem_refs_of_mem_items
              (Items.mem_of_get? hRight)⟩
      cases room with
      | zero => exact hOpened.not_zero.elim
      | succ room =>
          have hUnequal :
              Value.equalWithin heap room ((a, b) :: around)
                x y = false := by
            refine ih (hOpened.push hNew hKnown) ?_ ?_
            · intro other hDiffer
              exact Nat.le_of_succ_le_succ
                (hShort (place :: other)
                  (.item hOther hSize hLeft hRight hDiffer))
            · intro c d hMem other hDiffer
              rcases List.mem_cons.mp hMem with hPair | hMem
              · cases hPair
                exact hShort other hDiffer
              · exact Nat.lt_of_succ_lt
                  (hAround c d hMem other hDiffer)
          rw [← Bool.not_eq_true,
            equalWithin_list hOther hNew]
          intro hItems
          rw [hItems.2 place x y hLeft hRight] at hUnequal
          contradiction

/-
  Comparing any two values of any heap comes to an end, and
  they are found to be unequal exactly when they differ.
-/
theorem unequal_iff_differ
    (stage : Stage)
    (heap : Heap)
    (a b : Value) :
    Course.Returns stage (Course.equal heap [] a b)
        (a.equal heap b) ∧
      (a.equal heap b = false ↔
        ∃ way, Differ heap way a b) := by
  refine ⟨Course.equal_returns heap a b, exists_differ, ?_⟩
  rintro ⟨way, hWay⟩
  rcases (measure List.length).wf.has_min
      {way | Differ heap way a b} ⟨way, hWay⟩ with
    ⟨least, hLeast, hShort⟩
  apply Differ.equalWithin hLeast
  · exact .comparing heap
  · exact fun other hOther =>
      Nat.le_of_not_lt (hShort other hOther)
  · simp

/- Two lists that each contain only themselves are equal. -/
example :
    Value.equal ⟨#[.listed #[.list 0], .listed #[.list 1]]⟩
      (.list 0) (.list 1) = true := by
  decide +kernel

end Value

end Gantry
