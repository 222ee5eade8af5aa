import Mathlib.Logic.Relation
import Gantry.Proofs.Value.Difference

/-
  This file looks at what is written of a value as a tree. A
  list is opened wherever it stands, except inside itself,
  where a mark stands for it. The mark appears just for the
  values that lead to a list inside itself; all others are
  written as the tree that they are.

  Key definitions include:
    * `Gantry.Heap.Encloses`
    * `Gantry.Heap.Circles`
    * `Gantry.Unfolding`
    * `Gantry.Unfolding.text`
    * `Gantry.Unfolding.Written`
    * `Gantry.Unfolding.Plain`

  Main statements:
    * `Gantry.Unfolding.exists_written`
    * `Gantry.Unfolding.Written.text`
    * `Gantry.Unfolding.Written.marked_iff`
    * `Gantry.Unfolding.mark_shows_cycles`
-/

------------------------------------------------------------
-- Lists Inside Lists
------------------------------------------------------------

namespace Gantry

namespace Heap

/- A value is an item of the list that another one is. -/
def Encloses
    (heap : Heap)
    (outer item : Value) : Prop :=
  ∃ ref place,
    outer = .list ref ∧ heap.item? ref place = some item

/- A value leads, by indexing, to a list inside itself. -/
def Circles
    (heap : Heap)
    (value : Value) : Prop :=
  ∃ ref,
    Relation.ReflTransGen heap.Encloses value (.list ref) ∧
      Relation.TransGen heap.Encloses (.list ref) (.list ref)

theorem encloses_list
    {heap : Heap}
    {ref : Nat}
    {item : Value} :
    heap.Encloses (.list ref) item ↔
      item ∈ (heap.items ref).toList := by
  simp only [Encloses, Value.list.injEq, exists_and_left,
    exists_eq_left', List.mem_iff_getElem?,
    Array.getElem?_toList, items, Items.getElem?_toArray]
  rfl

/- A list with an item that leads in a circle does so too. -/
theorem Encloses.circles
    {heap : Heap}
    {outer item : Value}
    (hEncloses : heap.Encloses outer item)
    (hItem : heap.Circles item) :
    heap.Circles outer := by
  rcases hItem with ⟨ref, hWay, hCircle⟩
  exact ⟨ref, hWay.head hEncloses, hCircle⟩

/- Nothing leads in a circle if all ways from it end. -/
theorem not_circles_of_acc
    {heap : Heap}
    {value : Value}
    (hEnds : Acc (flip heap.Encloses) value) :
    ¬heap.Circles value := by
  induction hEnds with
  | intro value _ ih =>
      rintro ⟨ref, hWay, hCircle⟩
      rcases hWay.cases_head with rfl | hStep
      · rcases Relation.TransGen.head'_iff.mp hCircle with
          ⟨item, hItem, hBack⟩
        exact ih item hItem ⟨ref, hBack, hCircle⟩
      · rcases hStep with ⟨item, hItem, hRest⟩
        exact ih item hItem ⟨ref, hRest, hCircle⟩

end Heap

end Gantry

------------------------------------------------------------
-- Unfoldings
------------------------------------------------------------

namespace Gantry

/-
  A value with its lists written out. A branch may end at a
  list that it is inside of.
-/
inductive Unfolding where
  | leaf (value : Value)
  | again
  | list (items : List Unfolding)

namespace Unfolding

mutual

/-
  The text of an unfolding. Only a string that is not in a
  list may stand without quotes.
-/
def text
    (quoted : Bool) :
    Unfolding → String
| .leaf value => value.leafText quoted
| .again => "[...]"
| .list items => "[" ++ ", ".intercalate (texts items) ++ "]"

def texts :
    List Unfolding → List String
| [] => []
| item :: items => item.text true :: texts items

end

mutual

/- A list is met again somewhere. -/
def Marked :
    Unfolding → Prop
| .leaf _ => False
| .again => True
| .list items => ListMarked items

def ListMarked :
    List Unfolding → Prop
| [] => False
| item :: items => item.Marked ∨ ListMarked items

end

mutual

/-
  The unfolding is what is written of a value inside of some
  lists. Each of its lists is opened, unless it is one of
  those that it is inside of.
-/
def Written
    (heap : Heap) :
    List Nat → Unfolding → Value → Prop
| _, .leaf found, value =>
    found = value ∧ ∀ ref, value ≠ .list ref
| around, .again, .list ref => ref ∈ around
| around, .list items, .list ref =>
    ref ∉ around ∧
      ListWritten heap (ref :: around) items
        (heap.items ref).toList
| _, _, _ => False

def ListWritten
    (heap : Heap) :
    List Nat → List Unfolding → List Value → Prop
| _, [], [] => True
| around, item :: items, value :: values =>
    Written heap around item value ∧
      ListWritten heap around items values
| _, _, _ => False

end

mutual

/- The unfolding is the value with all of its lists opened. -/
def Plain
    (heap : Heap) :
    Unfolding → Value → Prop
| .leaf found, value =>
    found = value ∧ ∀ ref, value ≠ .list ref
| .list items, .list ref =>
    ListPlain heap items (heap.items ref).toList
| _, _ => False

def ListPlain
    (heap : Heap) :
    List Unfolding → List Value → Prop
| [], [] => True
| item :: items, value :: values =>
    item.Plain heap value ∧ ListPlain heap items values
| _, _ => False

end

end Unfolding

end Gantry

------------------------------------------------------------
-- Writing
------------------------------------------------------------

namespace Gantry

namespace Unfolding

open Course (Opened)

variable {heap : Heap}

/- Values that can be written one by one can be written. -/
theorem exists_listWritten
    {around : List Nat} :
    (values : List Value) →
    (∀ value ∈ values,
      ∃ tree : Unfolding, tree.Written heap around value) →
    ∃ trees, ListWritten heap around trees values
| [], _ => ⟨[], trivial⟩
| value :: values, hValues => by
    rw [List.forall_mem_cons] at hValues
    rcases hValues.1 with ⟨tree, hTree⟩
    rcases exists_listWritten values hValues.2 with
      ⟨trees, hTrees⟩
    exact ⟨tree :: trees, hTree, hTrees⟩

/-
  Something is written of every value. The lists around it
  are different ones of the heap, so that there is an end to
  opening lists.
-/
theorem exists_written :
    (room : Nat) →
    {around : List Nat} →
    Opened heap.refs room around →
    (value : Value) →
    ∃ tree : Unfolding, tree.Written heap around value
| 0, _, hOpened, _ => hOpened.not_zero.elim
| room + 1, around, hOpened, value => by
    cases value with
    | list ref =>
        by_cases hMet : ref ∈ around
        · exact ⟨.again, hMet⟩
        · have hItems :
              ∀ item ∈ (heap.items ref).toList,
                ∃ tree : Unfolding,
                  tree.Written heap (ref :: around) item := by
            intro item hItem
            have hKnown : ref ∈ heap.refs :=
              Heap.mem_refs_of_mem_items
                (Array.mem_toList_iff.mp hItem)
            exact exists_written room
              (hOpened.push hMet hKnown) item
          rcases exists_listWritten _ hItems with
            ⟨trees, hTrees⟩
          exact ⟨.list trees, hMet, hTrees⟩
    | _ => exact ⟨.leaf _, rfl, by simp⟩

mutual

/- What is written of a value is its text. -/
theorem Written.text :
    (tree : Unfolding) →
    {room : Nat} →
    {around : List Nat} →
    {value : Value} →
    tree.Written heap around value →
    Opened heap.refs room around →
    (quoted : Bool) →
    Value.write heap room around quoted value =
      tree.text quoted
| _, 0, _, _, _, hOpened, _ => hOpened.not_zero.elim
| .leaf found, room + 1, around, value, hWritten, _, _ => by
    rcases hWritten with ⟨rfl, hLeaf⟩
    cases found with
    | list ref => exact absurd rfl (hLeaf ref)
    | _ => rfl
| .again, room + 1, around, .list ref, hMet, _, _ => by
    have hRef : ref ∈ around := hMet
    rw [Value.write, if_pos hRef]
    rfl
| .list trees, room + 1, around, .list ref, hWritten,
    hOpened, _ => by
    rcases hWritten with ⟨hNew, hTrees⟩
    have hInside :
        ∀ item ∈ (heap.items ref).toList,
          Opened heap.refs room (ref :: around) := by
      intro item hItem
      exact hOpened.push hNew
        (Heap.mem_refs_of_mem_items
          (Array.mem_toList_iff.mp hItem))
    rw [Value.write, if_neg hNew, Unfolding.text,
      ← ListWritten.texts trees hTrees hInside]

/- There need only be room if there are any values. -/
theorem ListWritten.texts :
    (trees : List Unfolding) →
    {room : Nat} →
    {around : List Nat} →
    {values : List Value} →
    ListWritten heap around trees values →
    (∀ value ∈ values, Opened heap.refs room around) →
    values.map (Value.write heap room around true) =
      Unfolding.texts trees
| [], _, _, [], _, _ => rfl
| tree :: trees, _, _, value :: values, hTrees, hOpened => by
    rw [List.forall_mem_cons] at hOpened
    rw [List.map_cons, Unfolding.texts,
      Written.text tree hTrees.1 hOpened.1,
      ListWritten.texts trees hTrees.2 hOpened.2]

end

end Unfolding

end Gantry

------------------------------------------------------------
-- Marks
------------------------------------------------------------

namespace Gantry

namespace Unfolding

variable {heap : Heap}

mutual

/-
  A mark stands for a list that is inside itself, provided
  that the lists around the value do enclose it.
-/
theorem Written.circles :
    (tree : Unfolding) →
    {around : List Nat} →
    {value : Value} →
    tree.Written heap around value →
    tree.Marked →
    (∀ ref ∈ around,
      Relation.TransGen heap.Encloses (.list ref) value) →
    heap.Circles value
| .leaf _, _, _, _, hMarked, _ => hMarked.elim
| .again, _, .list ref, hMet, _, hAround =>
    ⟨ref, .refl, hAround ref hMet⟩
| .list trees, around, .list ref, hWritten, hMarked,
    hAround => by
    have hInside :
        ∀ item ∈ (heap.items ref).toList,
          ∀ outer ∈ ref :: around,
            Relation.TransGen heap.Encloses (.list outer)
              item := by
      intro item hItem outer hOuter
      have hEncloses :
          heap.Encloses (.list ref) item :=
        Heap.encloses_list.mpr hItem
      rcases List.mem_cons.mp hOuter with rfl | hOuter
      · exact .single hEncloses
      · exact (hAround outer hOuter).tail hEncloses
    rcases ListWritten.circles trees hWritten.2 hMarked
        hInside with ⟨item, hItem, hCircles⟩
    exact (Heap.encloses_list.mpr hItem).circles hCircles

theorem ListWritten.circles :
    (trees : List Unfolding) →
    {around : List Nat} →
    {values : List Value} →
    ListWritten heap around trees values →
    ListMarked trees →
    (∀ value ∈ values, ∀ ref ∈ around,
      Relation.TransGen heap.Encloses (.list ref) value) →
    ∃ value ∈ values, heap.Circles value
| tree :: trees, around, value :: values, hTrees, hMarked,
    hAround => by
    rw [List.forall_mem_cons] at hAround
    rcases hMarked with hMarked | hMarked
    · exact ⟨value, List.mem_cons_self,
        Written.circles tree hTrees.1 hMarked hAround.1⟩
    · rcases ListWritten.circles trees hTrees.2 hMarked
          hAround.2 with ⟨other, hOther, hCircles⟩
      exact ⟨other, List.mem_cons_of_mem value hOther,
        hCircles⟩

end

mutual

/- Without a mark, every list has been opened. -/
theorem Written.plain :
    (tree : Unfolding) →
    {around : List Nat} →
    {value : Value} →
    tree.Written heap around value →
    ¬tree.Marked →
    tree.Plain heap value
| .leaf _, _, _, hWritten, _ => hWritten
| .again, _, _, _, hUnmarked => absurd trivial hUnmarked
| .list trees, _, .list _, hWritten, hUnmarked =>
    ListWritten.plain trees hWritten.2 hUnmarked

theorem ListWritten.plain :
    (trees : List Unfolding) →
    {around : List Nat} →
    {values : List Value} →
    ListWritten heap around trees values →
    ¬ListMarked trees →
    ListPlain heap trees values
| [], _, [], _, _ => trivial
| tree :: trees, _, _ :: _, hTrees, hUnmarked => by
    rw [ListMarked, not_or] at hUnmarked
    exact ⟨Written.plain tree hTrees.1 hUnmarked.1,
      ListWritten.plain trees hTrees.2 hUnmarked.2⟩

end

mutual

/- All ways from a value end if it is a tree. -/
theorem Plain.acc :
    (tree : Unfolding) →
    {value : Value} →
    tree.Plain heap value →
    Acc (flip heap.Encloses) value
| .leaf _, value, hPlain => by
    refine .intro value ?_
    rintro item ⟨ref, _, rfl, _⟩
    exact absurd rfl (hPlain.2 ref)
| .list trees, .list ref, hPlain => by
    refine .intro _ fun item hItem => ?_
    exact ListPlain.acc trees hPlain item
      (Heap.encloses_list.mp hItem)

theorem ListPlain.acc :
    (trees : List Unfolding) →
    {values : List Value} →
    ListPlain heap trees values →
    ∀ value ∈ values, Acc (flip heap.Encloses) value
| [], [], _ => by simp
| tree :: trees, _ :: _, hTrees => by
    rw [List.forall_mem_cons]
    exact ⟨Plain.acc tree hTrees.1,
      ListPlain.acc trees hTrees.2⟩

end

/- A value is marked exactly if it leads in a circle. -/
theorem Written.marked_iff
    {tree : Unfolding}
    {value : Value}
    (hWritten : tree.Written heap [] value) :
    tree.Marked ↔ heap.Circles value := by
  constructor
  · intro hMarked
    exact Written.circles tree hWritten hMarked (by simp)
  · intro hCircles
    by_contra hUnmarked
    have hPlain := Written.plain tree hWritten hUnmarked
    exact Heap.not_circles_of_acc
      (Plain.acc tree hPlain) hCircles

/-
  Writing a value comes to an end. What is written has a mark
  in it exactly if the value leads to a list inside itself;
  otherwise it is the text of the tree that the value is.
-/
theorem mark_shows_cycles
    (stage : Stage)
    (heap : Heap)
    (value : Value) :
    (∃ tree : Unfolding, tree.Written heap [] value) ∧
      ∀ tree : Unfolding,
        tree.Written heap [] value →
        (∀ quoted,
          Course.Returns stage
            (Course.write heap [] quoted value)
            (tree.text quoted)) ∧
          value.display heap = tree.text false ∧
          value.repr heap = tree.text true ∧
          (tree.Marked ↔ heap.Circles value) ∧
          (¬heap.Circles value → tree.Plain heap value) := by
  have hRoom := Course.Opened.writing heap
  refine ⟨exists_written _ hRoom value, fun tree hTree => ?_⟩
  have hText := Written.text tree hTree hRoom
  refine ⟨fun quoted => ?_, hText false, hText true,
    hTree.marked_iff, fun hStraight => ?_⟩
  · rw [← hText quoted]
    exact Course.write_returns _ hRoom quoted value
  · exact Written.plain tree hTree
      (mt hTree.marked_iff.mp hStraight)

/- A list inside itself is marked, a shared one is not. -/
example :
    Value.repr ⟨#[.listed #[.list 0, .list 1], .listed #[]]⟩
      (.list 0) = "[[...], []]" := by
  decide

example :
    Value.repr ⟨#[.listed #[.list 1, .list 1], .listed #[]]⟩
      (.list 0) = "[[], []]" := by
  decide

end Unfolding

end Gantry
