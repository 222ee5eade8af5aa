import Gantry.Proofs.Machine.Walks
import Gantry.Proofs.Number.Figures

/-
  This file looks at values that are data: nothing, truth
  values, numbers, strings, and lists of data that are not
  inside themselves. What such a value is does not depend on
  where its lists are kept, and neither does its text.

  Key definitions include:
    * `Gantry.Atom`
    * `Gantry.Datum`
    * `Gantry.Datum.height`
    * `Gantry.Datum.chars`
    * `Gantry.Datum.Stands`
    * `Gantry.Datum.Shows`

  Main statements:
    * `Gantry.Datum.Shows.unique`
    * `Gantry.Datum.write_chars`
    * `Gantry.Datum.Shows.repr`
-/

------------------------------------------------------------
-- Data
------------------------------------------------------------

namespace Gantry

/- Data without parts. -/
inductive Atom where
  | none
  | bool (value : Bool)
  | number (value : Float)
  | str (text : String)
deriving DecidableEq

/- The characters of an atom. -/
def Atom.chars :
    Atom → List Char
| .none => "None".toList
| .bool true => "True".toList
| .bool false => "False".toList
| .number value => (Value.numberText value).toList
| .str text => (Value.quotedText text).toList

/- An atom, or a list of data. -/
inductive Datum where
  | atom (atom : Atom)
  | list (items : List Datum)

namespace Datum

mutual

/-
  An atom and a list without items have height one, any
  other list one more than its tallest item.
-/
def height :
    Datum → Nat
| .atom _ => 1
| .list items => listHeight items + 1

def listHeight :
    List Datum → Nat
| [] => 0
| item :: items => max item.height (listHeight items)

end

mutual

/- The atoms of a datum. -/
def atoms :
    Datum → List Atom
| .atom leaf => [leaf]
| .list items => listAtoms items

def listAtoms :
    List Datum → List Atom
| [] => []
| item :: items => item.atoms ++ listAtoms items

end

mutual

/- The characters of a datum. -/
def chars :
    Datum → List Char
| .atom leaf => leaf.chars
| .list items => '[' :: (listChars items ++ [']'])

/- Items are separated by a comma and a space. -/
def listChars :
    List Datum → List Char
| [] => []
| [item] => item.chars
| item :: next :: items =>
    item.chars ++ ',' :: ' ' :: listChars (next :: items)

end

theorem height_le_listHeight
    {items : List Datum}
    {item : Datum}
    (hItem : item ∈ items) :
    item.height ≤ listHeight items := by
  induction items with
  | nil => contradiction
  | cons first items ih =>
      rw [listHeight]
      rcases List.mem_cons.mp hItem with rfl | hLater
      · exact Nat.le_max_left _ _
      · exact Nat.le_trans (ih hLater) (Nat.le_max_right _ _)

end Datum

end Gantry

------------------------------------------------------------
-- Values That Are Data
------------------------------------------------------------

namespace Gantry

/-
  The value stands for an atom, with its number up to a
  given relation.
-/
def Atom.Stands
    (same : Float → Float → Prop) :
    Atom → Value → Prop
| .none, .none => True
| .bool a, .bool b => a = b
| .number x, .number y => same x y
| .str a, .str b => a = b
| _, _ => False

theorem Atom.Stands.unique
    {one other : Atom}
    {value : Value}
    (hOne : one.Stands Eq value)
    (hOther : other.Stands Eq value) :
    one = other := by
  cases one <;> cases value <;> try contradiction
  all_goals
    cases other <;> try contradiction
    simp_all [Atom.Stands]

namespace Datum

variable
    {heap later : Heap}
    {same : Float → Float → Prop}

mutual

/- The value stands for a datum, with its lists in a heap. -/
def Stands
    (same : Float → Float → Prop)
    (heap : Heap) :
    Datum → Value → Prop
| .atom leaf, value => leaf.Stands same value
| .list items, .list ref =>
    ref < heap.lists.size ∧
      ListStands same heap items (heap.items ref).toList
| .list _, _ => False

def ListStands
    (same : Float → Float → Prop)
    (heap : Heap) :
    List Datum → List Value → Prop
| [], [] => True
| item :: items, value :: values =>
    item.Stands same heap value ∧
      ListStands same heap items values
| _, _ => False

end

/- The value is just the datum. -/
abbrev Shows
    (datum : Datum)
    (heap : Heap)
    (value : Value) : Prop :=
  datum.Stands Eq heap value

theorem Stands.exists_ref
    {items : List Datum}
    {value : Value}
    (hStands : (Datum.list items).Stands same heap value) :
    ∃ ref,
      value = .list ref ∧ ref < heap.lists.size ∧
        ListStands same heap items
          (heap.items ref).toList := by
  cases value with
  | list ref => exact ⟨ref, rfl, hStands⟩
  | _ => exact hStands.elim

mutual

/- A value is at most one datum. -/
theorem Shows.unique :
    (one other : Datum) →
    {value : Value} →
    one.Shows heap value →
    other.Shows heap value →
    one = other
| .atom leaf, .atom next, value, hOne, hOther => by
    rw [Atom.Stands.unique hOne hOther]
| .atom leaf, .list items, value, hOne, hOther => by
    rcases hOther.exists_ref with ⟨ref, rfl, _⟩
    cases leaf <;> contradiction
| .list items, .atom leaf, value, hOne, hOther => by
    rcases hOne.exists_ref with ⟨ref, rfl, _⟩
    cases leaf <;> contradiction
| .list items, .list others, value, hOne, hOther => by
    rcases hOne.exists_ref with ⟨ref, rfl, _, hItems⟩
    rw [listShows_unique items others hItems hOther.2]

theorem listShows_unique :
    (items others : List Datum) →
    {values : List Value} →
    ListStands Eq heap items values →
    ListStands Eq heap others values →
    items = others
| [], [], _, _, _ => rfl
| [], _ :: _, [], _, hOthers => hOthers.elim
| _ :: _, [], [], hItems, _ => hItems.elim
| _ :: _, _ :: _, [], hItems, _ => hItems.elim
| [], _, _ :: _, hItems, _ => hItems.elim
| _ :: _, [], _ :: _, _, hOthers => hOthers.elim
| item :: items, other :: others, value :: values, hItems,
    hOthers => by
    rw [Shows.unique item other hItems.1 hOthers.1,
      listShows_unique items others hItems.2 hOthers.2]

end

end Datum

end Gantry

------------------------------------------------------------
-- The Text Of A Datum
------------------------------------------------------------

namespace Gantry

open Course

/- An atom is written by itself, wherever it stands. -/
theorem Atom.Stands.write
    {leaf : Atom}
    {value : Value}
    (hStands : leaf.Stands Eq value)
    (heap : Heap)
    (room : Nat)
    (around : List Nat) :
    (Value.write heap room around true value).toList =
      leaf.chars := by
  have hLeaf :
      Value.write heap room around true value =
        Value.leafText true value := by
    cases leaf <;> cases value <;> try contradiction
    all_goals cases room <;> rfl
  rw [hLeaf]
  cases leaf with
  | bool a =>
      cases value <;> try contradiction
      cases hStands
      cases a <;> rfl
  | _ =>
      cases value <;> try contradiction
      cases hStands
      rfl

namespace Datum

variable {heap : Heap}

/-
  The datum is inside a list that is kept under the given
  reference.
-/
def Inside
    (heap : Heap)
    (datum : Datum)
    (ref : Nat) : Prop :=
  ∃ outer : Datum,
    outer.Shows heap (.list ref) ∧
      datum.height < outer.height

/- No list is inside itself. -/
theorem Shows.not_inside
    {datum : Datum}
    {ref : Nat}
    (hShows : datum.Shows heap (.list ref)) :
    ¬datum.Inside heap ref := by
  rintro ⟨outer, hOuter, hHeight⟩
  rw [Shows.unique datum outer hShows hOuter] at hHeight
  exact Nat.lt_irrefl _ hHeight

theorem Inside.item
    {items : List Datum}
    {item : Datum}
    {ref : Nat}
    (hInside : (Datum.list items).Inside heap ref)
    (hItem : item ∈ items) :
    item.Inside heap ref := by
  rcases hInside with ⟨outer, hOuter, hHeight⟩
  refine ⟨outer, hOuter, Nat.lt_trans ?_ hHeight⟩
  exact Nat.lt_succ_of_le (height_le_listHeight hItem)

mutual

/-
  A datum is written as its characters, by induction on it.
  The lists around it are all taller, so that it is none of
  them, and there is room for it.
-/
theorem write_chars :
    (datum : Datum) →
    {room : Nat} →
    {around : List Nat} →
    {value : Value} →
    datum.Shows heap value →
    Opened heap.refs room around →
    (∀ ref ∈ around, datum.Inside heap ref) →
    (Value.write heap room around true value).toList =
      datum.chars
| .atom leaf, room, around, value, hShows, _, _ => by
    rw [chars]
    exact Atom.Stands.write hShows heap room around
| .list items, 0, around, value, _, hOpened, _ =>
    hOpened.not_zero.elim
| .list items, room + 1, around, value, hShows, hOpened,
    hAround => by
    rcases hShows.exists_ref with ⟨ref, rfl, hRef, hItems⟩
    have hNew : ref ∉ around := fun hMem =>
      hShows.not_inside (hAround ref hMem)
    have hKnown : ref ∈ heap.refs := List.mem_range.mpr hRef
    have hInside :
        ∀ outer ∈ ref :: around, ∀ item ∈ items,
          item.Inside heap outer := by
      intro outer hOuter item hItem
      rcases List.mem_cons.mp hOuter with rfl | hOuter
      · exact ⟨.list items, hShows,
          Nat.lt_succ_of_le (height_le_listHeight hItem)⟩
      · exact (hAround outer hOuter).item hItem
    have hText :=
      listWrite_chars items hItems
        (hOpened.push hNew hKnown) hInside
    rw [Value.write, if_neg hNew, chars]
    rw [String.toList_append, String.toList_append,
      String.toList_intercalate, List.map_map, ← hText]
    rfl

theorem listWrite_chars :
    (items : List Datum) →
    {room : Nat} →
    {around : List Nat} →
    {values : List Value} →
    ListStands Eq heap items values →
    Opened heap.refs room around →
    (∀ ref ∈ around, ∀ item ∈ items,
      item.Inside heap ref) →
    [',', ' '].intercalate
        (values.map fun value =>
          (Value.write heap room around true value).toList) =
      listChars items
| [], _, _, [], _, _, _ => rfl
| [], _, _, _ :: _, hItems, _, _ => hItems.elim
| _ :: _, _, _, [], hItems, _, _ => hItems.elim
| [item], room, around, [value], hItems, hOpened, hInside => by
    have hText :=
      write_chars item hItems.1 hOpened fun ref hRef =>
        hInside ref hRef item List.mem_cons_self
    simpa [listChars] using hText
| [item], _, _, _ :: _ :: _, hItems, _, _ => hItems.2.elim
| _ :: _ :: _, _, _, [_], hItems, _, _ => hItems.2.elim
| item :: next :: items, room, around,
    value :: following :: values, hItems, hOpened,
    hInside => by
    have hText :=
      write_chars item hItems.1 hOpened fun ref hRef =>
        hInside ref hRef item List.mem_cons_self
    have hRest :=
      listWrite_chars (next :: items) hItems.2 hOpened
        fun ref hRef other hOther =>
          hInside ref hRef other
            (List.mem_cons_of_mem item hOther)
    rw [List.map_cons, List.map_cons] at *
    rw [List.intercalate_cons_cons, hText, hRest, listChars]
    simp

end

/- The text of a datum, as a script would write it. -/
theorem Shows.repr
    {datum : Datum}
    {value : Value}
    (hShows : datum.Shows heap value) :
    value.repr heap = String.ofList datum.chars := by
  rw [← write_chars datum hShows (.writing heap) (by simp),
    String.ofList_toList]
  rfl

end Datum

end Gantry
