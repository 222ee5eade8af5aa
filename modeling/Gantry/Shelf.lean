/-
  This file defines shelves: things under whole numbers, at
  most one under each, in a strict order of the numbers. Two
  ordered shelves that hold the same things are the same.

  Key definitions include:
    * `Gantry.Way`
    * `Gantry.Shelf`
    * `Gantry.Shelf.get?`
    * `Gantry.Shelf.alter`
    * `Gantry.Shelf.Ordered`

  Key theorems include:
    * `Gantry.Shelf.mem_alter`
    * `Gantry.Shelf.Ordered.alter`
-/

------------------------------------------------------------
-- Ways To Count
------------------------------------------------------------

namespace Gantry

/- The two ways to go through whole numbers. -/
inductive Way where
  | up
  | down
deriving DecidableEq, Repr

namespace Way

/- One number comes before another on the way. -/
def Before :
    Way → Int → Int → Prop
| up, a, b => a < b
| down, a, b => b < a

instance
    (way : Way)
    (a b : Int) :
    Decidable (way.Before a b) :=
  match way with
  | up => Int.decLt a b
  | down => Int.decLt b a

theorem Before.trans
    {way : Way}
    {a b c : Int}
    (hLeft : way.Before a b)
    (hRight : way.Before b c) :
    way.Before a c := by
  cases way <;> simp only [Before] at * <;> omega

/- Of two different numbers one comes before the other. -/
theorem before_of_ne
    {way : Way}
    {a b : Int}
    (hNot : ¬ way.Before a b)
    (hNe : b ≠ a) :
    way.Before b a := by
  cases way <;> simp only [Before] at * <;> omega

end Way

end Gantry

------------------------------------------------------------
-- Shelves
------------------------------------------------------------

namespace Gantry

/- Things, each under a whole number. -/
abbrev Shelf (α : Type) := List (Int × α)

namespace Shelf

variable {α : Type}

/- What is under a number. -/
def get?
    (key : Int) :
    Shelf α → Option α
| [] => none
| (other, value) :: rest =>
    if other = key then some value else get? key rest

/- Put something in front, if there is something to put. -/
def front
    (key : Int)
    (value? : Option α)
    (rest : Shelf α) : Shelf α :=
  match value? with
  | some value => (key, value) :: rest
  | none => rest

/-
  Change what is under a number of an ordered shelf: put
  something there, replace it, or take it away.
-/
def alter
    (way : Way)
    (key : Int)
    (change : Option α → Option α) :
    Shelf α → Shelf α
| [] => front key (change none) []
| (other, value) :: rest =>
    if other = key then
      front key (change (some value)) rest
    else if way.Before key other then
      front key (change none) ((other, value) :: rest)
    else
      (other, value) :: alter way key change rest

/- The shelf, unless there is nothing on it. -/
def filled? :
    Shelf α → Option (Shelf α)
| [] => none
| first :: rest => some (first :: rest)

/- The numbers are in strict order. -/
def Ordered
    (way : Way)
    (shelf : Shelf α) : Prop :=
  shelf.Pairwise fun a b => way.Before a.1 b.1

end Shelf

end Gantry

------------------------------------------------------------
-- Changing Shelves
------------------------------------------------------------

namespace Gantry

namespace Shelf

variable {α : Type}

theorem mem_front
    {key : Int}
    {value? : Option α}
    {rest : Shelf α}
    {entry : Int × α}
    (hMem : entry ∈ front key value? rest) :
    (entry.1 = key ∧ value? = some entry.2) ∨
      entry ∈ rest := by
  cases value? with
  | none => exact Or.inr hMem
  | some value =>
      rcases List.mem_cons.mp hMem with hEq | hRest
      · exact Or.inl ⟨by rw [hEq], by rw [hEq]⟩
      · exact Or.inr hRest

/-
  What is on an altered shelf was there before, or comes from
  the change of what was under the number.
-/
theorem mem_alter
    {way : Way}
    {key : Int}
    {change : Option α → Option α}
    {shelf : Shelf α}
    {entry : Int × α}
    (hMem : entry ∈ alter way key change shelf) :
    (∃ old?,
      (∀ old, old? = some old → (key, old) ∈ shelf) ∧
        entry.1 = key ∧ change old? = some entry.2) ∨
      entry ∈ shelf := by
  induction shelf with
  | nil =>
      rcases mem_front hMem with hNew | hRest
      · exact Or.inl ⟨none, by simp, hNew⟩
      · exact Or.inr hRest
  | cons first rest ih =>
      rcases first with ⟨other, value⟩
      unfold alter at hMem
      split at hMem
      · rename_i hSame
        rcases mem_front hMem with hNew | hRest
        · refine Or.inl ⟨some value, ?_, hNew⟩
          intro old hOld
          cases hOld
          rw [hSame]
          exact List.mem_cons_self
        · exact Or.inr (List.mem_cons_of_mem _ hRest)
      · split at hMem
        · rcases mem_front hMem with hNew | hRest
          · exact Or.inl ⟨none, by simp, hNew⟩
          · exact Or.inr hRest
        · rcases List.mem_cons.mp hMem with hFirst | hRest
          · rw [hFirst]
            exact Or.inr List.mem_cons_self
          · rcases ih hRest with hNew | hOld
            · rcases hNew with ⟨old?, hOld, hEntry⟩
              refine Or.inl ⟨old?, ?_, hEntry⟩
              intro old hSome
              exact List.mem_cons_of_mem _ (hOld old hSome)
            · exact Or.inr (List.mem_cons_of_mem _ hOld)

theorem Ordered.front
    {way : Way}
    {key : Int}
    {rest : Shelf α}
    (hRest : Ordered way rest)
    (hFirst : ∀ entry ∈ rest, way.Before key entry.1)
    (value? : Option α) :
    Ordered way (Shelf.front key value? rest) := by
  cases value? with
  | none => exact hRest
  | some value => exact List.pairwise_cons.mpr ⟨hFirst, hRest⟩

/- A change keeps the order. -/
theorem Ordered.alter
    {way : Way}
    {shelf : Shelf α}
    (hShelf : Ordered way shelf)
    (key : Int)
    (change : Option α → Option α) :
    Ordered way (shelf.alter way key change) := by
  induction shelf with
  | nil =>
      exact Ordered.front hShelf (by simp) _
  | cons first rest ih =>
      rcases first with ⟨other, value⟩
      rcases List.pairwise_cons.mp hShelf with
        ⟨hFirst, hRest⟩
      unfold Shelf.alter
      split
      · rename_i hSame
        refine Ordered.front hRest ?_ _
        intro entry hMem
        exact hSame ▸ hFirst entry hMem
      · rename_i hNe
        split
        · rename_i hBefore
          refine Ordered.front hShelf ?_ _
          intro entry hMem
          rcases List.mem_cons.mp hMem with hEq | hMem
          · rw [hEq]
            exact hBefore
          · exact hBefore.trans (hFirst entry hMem)
        · rename_i hNot
          refine List.pairwise_cons.mpr ⟨?_, ih hRest⟩
          intro entry hMem
          rcases mem_alter hMem with hNew | hOld
          · rcases hNew with ⟨_, _, hKey, _⟩
            rw [hKey]
            exact Way.before_of_ne hNot hNe
          · exact hFirst entry hOld

theorem ne_nil_of_filled?
    {shelf other : Shelf α}
    (hFilled : filled? shelf = some other) :
    other = shelf ∧ other ≠ [] := by
  cases shelf with
  | nil => cases hFilled
  | cons first rest =>
      cases hFilled
      exact ⟨rfl, by simp⟩

end Shelf

end Gantry
