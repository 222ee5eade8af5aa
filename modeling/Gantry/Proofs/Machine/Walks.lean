import Mathlib.Data.List.Perm.Subperm
import Mathlib.Data.List.ProdSigma
import Gantry.Proofs.Machine.Attempt

/-
  This file shows that writing and comparing values comes to
  an end, also where lists contain themselves. The lists
  around the place that was reached are all different, and
  there are only so many lists in the heap; the same goes
  for the pairs of lists that are compared.

  Key definitions include:
    * `Gantry.Heap.refs`
    * `Gantry.Course.Opened`

  Main statements:
    * `Gantry.Course.write_returns`
    * `Gantry.Course.equalWithin_returns`
-/

------------------------------------------------------------
-- Open Lists
------------------------------------------------------------

namespace Gantry

namespace Heap

/- The lists of a heap. -/
def refs
    (heap : Heap) : List Nat :=
  List.range heap.lists.size

@[simp]
theorem length_refs
    (heap : Heap) :
    heap.refs.length = heap.lists.size :=
  List.length_range

/- Only a list of the heap has items. -/
theorem mem_refs_of_mem_items
    {heap : Heap}
    {ref : Nat}
    {item : Value}
    (hItem : item ∈ heap.items ref) :
    ref ∈ heap.refs := by
  rw [refs, List.mem_range]
  by_contra hRef
  simp [items, list, Array.getD, hRef, Items.toArray]
    at hItem

end Heap

namespace Course

variable {ι : Type}

/-
  Different ones of those that are known, with room for all
  that are left.
-/
structure Opened
    (known : List ι)
    (room : Nat)
    (around : List ι) : Prop where
  nodup : around.Nodup
  subset : around ⊆ known
  spare : known.length < room + around.length

namespace Opened

variable {known around : List ι}
variable {room : Nat}

theorem start
    (hRoom : known.length < room) :
    Opened known room [] where
  nodup := List.nodup_nil
  subset := List.nil_subset known
  spare := hRoom

theorem not_zero
    (hOpened : Opened known 0 around) : False := by
  have hLength : around.length ≤ known.length :=
    (List.subperm_of_subset hOpened.nodup
      hOpened.subset).length_le
  have hSpare := hOpened.spare
  omega

theorem push
    (hOpened : Opened known (room + 1) around)
    {one : ι}
    (hNew : one ∉ around)
    (hKnown : one ∈ known) :
    Opened known room (one :: around) where
  nodup := List.nodup_cons.mpr ⟨hNew, hOpened.nodup⟩
  subset := List.cons_subset.mpr ⟨hKnown, hOpened.subset⟩
  spare := by
    have hSpare := hOpened.spare
    rw [List.length_cons]
    omega

/- There is room to write any value. -/
theorem writing
    (heap : Heap) :
    Opened heap.refs (Value.writingRoom heap) [] := by
  apply start
  rw [Heap.length_refs]
  exact Nat.lt_succ_self _

/- There is room to compare any values. -/
theorem comparing
    (heap : Heap) :
    Opened (heap.refs ×ˢ heap.refs)
      (Value.comparingRoom heap) [] := by
  apply start
  rw [List.length_product, Heap.length_refs]
  exact Nat.mul_lt_mul'' (Nat.lt_succ_self _)
    (Nat.lt_succ_self _)

end Opened

end Course

end Gantry

------------------------------------------------------------
-- Writing
------------------------------------------------------------

namespace Gantry

namespace Course

variable {stage : Stage}

/- Writing ends, and writes what it writes within bounds. -/
theorem write_returns
    {heap : Heap} :
    (room : Nat) →
    {around : List Nat} →
    Opened heap.refs room around →
    (quoted : Bool) →
    (value : Value) →
    Returns stage (write heap around quoted value)
      (Value.write heap room around quoted value)
| 0, _, hOpened, _, _ => hOpened.not_zero.elim
| room + 1, around, hOpened, quoted, value => by
    refine .answer ?_
    rw [Job.course]
    cases value with
    | list ref =>
        rw [writing, Value.write]
        by_cases hRef : ref ∈ around
        · rw [if_pos hRef, if_pos hRef]
          exact .pure _
        · rw [if_neg hRef, if_neg hRef]
          refine .bind (.mapM _ fun item hItem => ?_)
            (.pure _)
          have hKnown : ref ∈ heap.refs :=
            Heap.mem_refs_of_mem_items
              (Array.mem_toList_iff.mp hItem)
          exact write_returns room
            (hOpened.push hRef hKnown) true item
    | _ =>
        rw [writing, Value.write]
        · exact .pure _
        all_goals simp

/- Printing any value comes to an end. -/
theorem display_returns
    (heap : Heap)
    (value : Value) :
    Returns stage (display heap value)
      (value.display heap) :=
  write_returns _ (.writing heap) false value

end Course

end Gantry

------------------------------------------------------------
-- Comparing
------------------------------------------------------------

namespace Gantry

namespace Course

variable {stage : Stage}

/- A pair is among others exactly when it is a member. -/
theorem isAmong_iff
    (a b : Nat) :
    (around : List (Nat × Nat)) →
    (Value.isAmong a b around = true ↔ (a, b) ∈ around)
| [] => by simp [Value.isAmong]
| (x, y) :: around => by
    simp [Value.isAmong, isAmong_iff a b around, @eq_comm _ a,
      @eq_comm _ b]

/- So does comparing. -/
theorem equalWithin_returns
    {heap : Heap} :
    (room : Nat) →
    {around : List (Nat × Nat)} →
    Opened (heap.refs ×ˢ heap.refs) room around →
    (left right : Value) →
    Returns stage (equal heap around left right)
      (Value.equalWithin heap room around left right)
| 0, _, hOpened, _, _ => hOpened.not_zero.elim
| room + 1, around, hOpened, left, right => by
    refine .answer ?_
    rw [Job.course]
    by_cases hLists :
        ∃ a b, left = .list a ∧ right = .list b
    · rcases hLists with ⟨a, b, rfl, rfl⟩
      rw [comparing, Value.equalWithin]
      by_cases hMet : a = b ∨ (a, b) ∈ around
      · have hSame :
            (a == b || Value.isAmong a b around) = true := by
          simpa [isAmong_iff] using hMet
        rw [if_pos hMet, if_pos hSame]
        exact .pure _
      · have hOther :
            ¬(a == b || Value.isAmong a b around) = true := by
          simpa [isAmong_iff] using hMet
        rw [if_neg hMet, if_neg hOther]
        by_cases hSize : heap.size a = heap.size b
        · rw [if_pos hSize, hSize, beq_self_eq_true,
            Bool.true_and, ← Array.all_toList,
            Array.toList_zip]
          refine .allM _ fun pair hPair => ?_
          have hItems := List.of_mem_zip hPair
          have hNew : (a, b) ∉ around :=
            fun hMem => hMet (.inr hMem)
          have hKnown :
              (a, b) ∈ heap.refs ×ˢ heap.refs :=
            List.mem_product.mpr
              ⟨Heap.mem_refs_of_mem_items
                  (Array.mem_toList_iff.mp hItems.1),
                Heap.mem_refs_of_mem_items
                  (Array.mem_toList_iff.mp hItems.2)⟩
          exact equalWithin_returns room
            (hOpened.push hNew hKnown) pair.1 pair.2
        · rw [if_neg hSize, beq_false_of_ne hSize,
            Bool.false_and]
          exact .pure _
    · have hLeaf :
          ∀ a b, left = .list a → right = .list b → False :=
        fun a b hLeft hRight =>
          hLists ⟨a, b, hLeft, hRight⟩
      rw [comparing, Value.equalWithin]
      · exact .pure _
      · simp
      · exact fun _ a b _ => hLeaf a b
      · exact hLeaf

/- Comparing any values comes to an end. -/
theorem equal_returns
    (heap : Heap)
    (left right : Value) :
    Returns stage (equal heap [] left right)
      (left.equal heap right) :=
  equalWithin_returns _ (.comparing heap) left right

end Course

end Gantry
