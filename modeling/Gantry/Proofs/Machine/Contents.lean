import Gantry.Machine.Evaluation

/-
  This file says what the values that a machine stores have
  in common, as items of its lists and under the names of its
  variables, and how that stays so when values are stored.

  Key definitions include:
    * `Gantry.Heap.All`
    * `Gantry.Bindings.All`
    * `Gantry.Machine.All`

  Main statements:
    * `Gantry.Heap.All.append`
    * `Gantry.Machine.All.find?`
    * `Gantry.Machine.All.define`
    * `Gantry.Machine.All.openScope`
-/

------------------------------------------------------------
-- Lists
------------------------------------------------------------

namespace Gantry

/- The items of a joined list come from either list. -/
theorem Items.mem_join
    {left right : Items}
    {item : Value} :
    item ∈ (left.join right).toArray ↔
      item ∈ left.toArray ∨ item ∈ right.toArray := by
  simp [join, toArray]

/- An item found at a place is an item. -/
theorem Items.mem_of_get?
    {items : Items}
    {place : Nat}
    {item : Value}
    (hItem : items.get? place = some item) :
    item ∈ items.toArray := by
  cases items with
  | listed values => exact Array.mem_of_getElem? hItem
  | progression start step count =>
      simp only [get?, Option.ite_none_right_eq_some,
        Option.some.injEq] at hItem
      rcases hItem with ⟨hPlace, rfl⟩
      exact Array.mem_ofFn.mpr ⟨⟨place, hPlace⟩, rfl⟩

/- Every item of every list has a property. -/
def Heap.All
    (V : Value → Prop)
    (heap : Heap) : Prop :=
  ∀ ref, ∀ item ∈ heap.items ref, V item

namespace Heap

variable {V : Value → Prop}
variable {heap : Heap}

theorem items_of_getElem?
    {ref : Nat}
    {items : Items}
    (hItems : heap.lists[ref]? = some items) :
    heap.items ref = items.toArray := by
  simp [Heap.items, list, Array.getD_eq_getD_getElem?, hItems]

theorem all_iff :
    heap.All V ↔
      ∀ (ref : Nat) (items : Items),
        heap.lists[ref]? = some items →
          ∀ item ∈ items.toArray, V item := by
  constructor
  · intro hHeap ref items hItems item hItem
    apply hHeap ref
    rwa [items_of_getElem? hItems]
  · intro hAll ref item hItem
    cases hItems : heap.lists[ref]? with
    | none =>
        simp [items, list, Array.getD_eq_getD_getElem?,
          hItems, Items.toArray] at hItem
    | some items =>
        rw [items_of_getElem? hItems] at hItem
        exact hAll ref items hItems item hItem

theorem All.item?
    (hHeap : heap.All V)
    {ref place : Nat}
    {item : Value}
    (hItem : heap.item? ref place = some item) :
    V item :=
  hHeap ref item (Items.mem_of_get? hItem)

theorem All.alloc
    (hHeap : heap.All V)
    {items : Items}
    (hItems : ∀ item ∈ items.toArray, V item) :
    All V (heap.alloc items).2 := by
  rw [all_iff] at *
  intro ref found hFound
  simp only [Heap.alloc, Array.getElem?_push] at hFound
  split at hFound
  · cases hFound
    exact hItems
  · exact hHeap ref found hFound

/- A change of one list that only adds such values. -/
theorem All.modify
    (hHeap : heap.All V)
    (ref : Nat)
    {change : Items → Items}
    (hChange :
      ∀ items : Items,
        (∀ item ∈ items.toArray, V item) →
          ∀ item ∈ (change items).toArray, V item) :
    All V ⟨heap.lists.modify ref change⟩ := by
  rw [all_iff] at *
  intro other found hFound
  simp only [Array.getElem?_modify] at hFound
  split at hFound
  · rcases Option.map_eq_some_iff.mp hFound with
      ⟨items, hItems, rfl⟩
    exact hChange items (hHeap other items hItems)
  · exact hHeap other found hFound

theorem All.append
    (hHeap : heap.All V)
    (ref : Nat)
    {item : Value}
    (hItem : V item) :
    All V (heap.append ref item) := by
  refine hHeap.modify ref fun items hItems other hOther => ?_
  rcases Array.mem_push.mp hOther with hOther | rfl
  · exact hItems other hOther
  · exact hItem

theorem All.setItem
    (hHeap : heap.All V)
    (ref slot : Nat)
    {item : Value}
    (hItem : V item) :
    All V (heap.setItem ref slot item) := by
  refine hHeap.modify ref fun items hItems other hOther => ?_
  rcases Array.mem_or_eq_of_mem_setIfInBounds hOther with
    hOther | rfl
  · exact hItems other hOther
  · exact hItem

end Heap

end Gantry

------------------------------------------------------------
-- Variables
------------------------------------------------------------

namespace Gantry

/- Every variable has a property together with its name. -/
def Bindings.All
    (B : String → Value → Prop)
    (bindings : Bindings) : Prop :=
  ∀ binding ∈ bindings, B binding.1 binding.2

namespace Bindings

variable {B : String → Value → Prop}

theorem All.set
    {bindings : Bindings}
    (hBindings : bindings.All B)
    {name : String}
    {value : Value}
    (hValue : B name value) :
    (Bindings.set name value bindings).All B := by
  intro binding hBinding
  rcases List.mem_cons.mp hBinding with rfl | hBinding
  · exact hValue
  · exact hBindings binding (List.mem_of_mem_eraseP hBinding)

theorem All.get?
    {bindings : Bindings}
    (hBindings : bindings.All B)
    {name : String}
    {value : Value}
    (hValue : bindings.get? name = some value) :
    B name value := by
  rcases List.lookup_eq_some_iff.mp hValue with
    ⟨before, after, rfl, _⟩
  exact hBindings (name, value) (by simp)

/- The variables of a call hold its arguments, or none. -/
theorem All.arguments
    (hNone : ∀ name, B name .none)
    {args : List Value}
    (hArgs : ∀ arg ∈ args, ∀ name, B name arg)
    {bindings : Bindings}
    (hBindings : bindings.All B)
    (params : List String) :
    All B (Run.arguments params args bindings) := by
  induction params generalizing args bindings with
  | nil => exact hBindings
  | cons param params ih =>
      cases args with
      | nil => exact ih hArgs (hBindings.set (hNone param))
      | cons value values =>
          rw [List.forall_mem_cons] at hArgs
          exact ih hArgs.2 (hBindings.set (hArgs.1 param))

end Bindings

end Gantry

------------------------------------------------------------
-- Machines
------------------------------------------------------------

namespace Gantry

namespace Machine

/-
  Every item of a list has a property, and every variable has
  one together with its name.
-/
structure All
    (V : Value → Prop)
    (B : String → Value → Prop)
    (machine : Machine) : Prop where
  heap : machine.heap.All V
  scopes : ∀ bindings ∈ machine.scopes, bindings.All B

namespace All

variable {V : Value → Prop}
variable {B : String → Value → Prop}
variable {machine : Machine}

theorem bindings
    (hMachine : machine.All V B)
    (scope : Nat) :
    (machine.bindings scope).All B := by
  unfold Machine.bindings
  rw [Array.getD_eq_getD_getElem?]
  cases hScope : machine.scopes[scope]? with
  | none => simp [Bindings.All]
  | some bindings =>
      exact hMachine.scopes bindings
        (Array.mem_of_getElem? hScope)

theorem find?
    (hMachine : machine.All V B)
    {scopes : Scopes}
    {name : String}
    {value : Value}
    (hValue : machine.find? scopes name = some value) :
    B name value := by
  rcases List.exists_of_findSome?_eq_some hValue with
    ⟨scope, _, hFound⟩
  exact (hMachine.bindings scope).get? hFound

theorem withHeap
    (hMachine : machine.All V B)
    {heap : Heap}
    (hHeap : heap.All V) :
    All V B { machine with heap := heap } :=
  ⟨hHeap, hMachine.scopes⟩

theorem define
    (hMachine : machine.All V B)
    (scope : Nat)
    {name : String}
    {value : Value}
    (hValue : B name value) :
    All V B
      { machine with
        scopes :=
          machine.scopes.modify scope
            (Bindings.set name value) } := by
  refine ⟨hMachine.heap, fun bindings hBindings => ?_⟩
  rcases Array.mem_iff_getElem?.mp hBindings with
    ⟨other, hOther⟩
  rw [Array.getElem?_modify] at hOther
  split at hOther
  · rcases Option.map_eq_some_iff.mp hOther with
      ⟨old, hOld, rfl⟩
    exact (hMachine.scopes old
      (Array.mem_of_getElem? hOld)).set hValue
  · exact hMachine.scopes bindings
      (Array.mem_of_getElem? hOther)

theorem openScope
    (hMachine : machine.All V B)
    {bindings : Bindings}
    (hBindings : bindings.All B) :
    All V B
      { machine with
        scopes := machine.scopes.push bindings } := by
  refine ⟨hMachine.heap, fun other hOther => ?_⟩
  rcases Array.mem_push.mp hOther with hOther | rfl
  · exact hMachine.scopes other hOther
  · exact hBindings

end All

/- A fresh machine only knows the built-in functions. -/
theorem all_initial
    {V : Value → Prop}
    {B : String → Value → Prop}
    (hKnown :
      ∀ known ∈ Builtin.all, B known.name (.builtin known)) :
    All V B {} where
  heap := by
    rw [Heap.all_iff]
    simp
  scopes := by
    intro bindings hBindings binding hBinding
    rw [Array.mem_singleton.mp hBindings] at hBinding
    rcases List.mem_map.mp hBinding with
      ⟨known, hMember, rfl⟩
    exact hKnown known hMember

end Machine

end Gantry
