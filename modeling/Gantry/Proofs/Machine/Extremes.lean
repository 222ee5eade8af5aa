import Gantry.Proofs.Machine.Ordering

/-
  This file says what the least and the greatest of some
  values are. They are looked for from the first value on:
  the one that is best so far leads all that were seen, and
  it is compared with every one that follows. A value that
  cannot be compared with it ends the search, wherever it
  stands.

  Key definitions include:
    * `Gantry.Run.Leads`
    * `Gantry.Run.Uniform`

  Main statements:
    * `Gantry.Run.bestOf_leads`
    * `Gantry.Run.bestOf_mismatch`
    * `Gantry.Run.first_extreme_of_candidates`
-/

------------------------------------------------------------
-- Leading The Values Seen
------------------------------------------------------------

namespace Gantry

namespace Run

open Value (Comparable Key)

variable {better : Ordering}

/-
  A value leads others: it is better than all before it, and
  none behind it is better.
-/
def Leads
    (better : Ordering)
    (seen : List Value)
    (best : Value) : Prop :=
  ∃ before behind,
    seen = before ++ best :: behind ∧
      (∀ other ∈ before,
        Ord.compare best.key other.key = better) ∧
      ∀ other ∈ behind,
        Ord.compare best.key other.key ≠ better.swap

/- Who leads once the order of one more value is known. -/
def leader
    (better order : Ordering)
    (candidate best : Value) : Value :=
  if order = better then candidate else best

theorem leader_eq_or_eq
    (better order : Ordering)
    (candidate best : Value) :
    leader better order candidate best = candidate ∨
      leader better order candidate best = best := by
  unfold leader
  split
  · exact .inl rfl
  · exact .inr rfl

theorem Leads.single
    (better : Ordering)
    (value : Value) :
    Leads better [value] value :=
  ⟨[], [], rfl, by simp, by simp⟩

theorem compare_swap
    (x y : Key) :
    (Ord.compare x y).swap = Ord.compare y x := by
  rw [← cmp_eq_compare, ← cmp_eq_compare, cmp_swap]

/- Who is ahead of a key is ahead of all it is ahead of. -/
theorem compare_trans
    {x y z : Key}
    (hBetter : better ≠ .eq)
    (hFirst : Ord.compare x y = better)
    (hSecond : Ord.compare y z ≠ better.swap) :
    Ord.compare x z = better := by
  cases better with
  | eq => contradiction
  | lt =>
      rw [compare_lt_iff_lt] at hFirst ⊢
      rw [Ordering.swap, ne_eq, compare_gt_iff_gt, not_lt]
        at hSecond
      exact hFirst.trans_le hSecond
  | gt =>
      rw [compare_gt_iff_gt] at hFirst ⊢
      rw [Ordering.swap, ne_eq, compare_lt_iff_lt, not_lt]
        at hSecond
      exact hSecond.trans_lt hFirst

/- Who leads is not behind anyone. -/
theorem Leads.not_behind
    {seen : List Value}
    {best other : Value}
    (hBetter : better ≠ .eq)
    (hLeads : Leads better seen best)
    (hSeen : other ∈ seen) :
    Ord.compare best.key other.key ≠ better.swap := by
  rcases hLeads with ⟨before, behind, rfl, hBefore, hBehind⟩
  rw [List.mem_append, List.mem_cons] at hSeen
  rcases hSeen with hOther | rfl | hOther
  · rw [hBefore other hOther]
    cases better <;> first | contradiction | decide
  · rw [compare_eq_iff_eq.mpr rfl]
    cases better <;> first | contradiction | decide
  · exact hBehind other hOther

/- One more value is seen, which leads if it is better. -/
theorem Leads.next
    {seen : List Value}
    {best : Value}
    (hBetter : better ≠ .eq)
    (hLeads : Leads better seen best)
    (candidate : Value) :
    Leads better (seen ++ [candidate])
      (leader better (Ord.compare candidate.key best.key)
        candidate best) := by
  unfold leader
  by_cases hAhead :
      Ord.compare candidate.key best.key = better
  · rw [if_pos hAhead]
    refine ⟨seen, [], rfl, fun other hOther => ?_, by simp⟩
    exact compare_trans hBetter hAhead
      (hLeads.not_behind hBetter hOther)
  · rw [if_neg hAhead]
    rcases hLeads with
      ⟨before, behind, rfl, hBefore, hBehind⟩
    refine ⟨before, behind ++ [candidate], by simp, hBefore,
      fun other hOther => ?_⟩
    rw [List.mem_append, List.mem_singleton] at hOther
    rcases hOther with hOther | rfl
    · exact hBehind other hOther
    · rwa [← compare_swap, ne_eq, Ordering.swap_inj]

end Run

end Gantry

------------------------------------------------------------
-- The Search
------------------------------------------------------------

namespace Gantry

namespace Run

open Value (Comparable)

variable {better : Ordering}

/- The search goes on from a candidate that is better. -/
theorem bestOf_next
    {candidate best : Value}
    {order : Ordering}
    (hOrder : candidate.order? best = some order)
    (rest : List Value) :
    bestOf better best (candidate :: rest) =
      bestOf better (leader better order candidate best)
        rest := by
  rw [bestOf, compare_of_order hOrder, pure_bind, leader]
  simp only [beq_iff_eq]
  split <;> rfl

/-
  The search ends with the value that leads all of them if
  all can be compared. Those that were seen are `seen`.
-/
theorem bestOf_leads
    (hBetter : better ≠ .eq)
    {seen rest : List Value}
    {best : Value}
    (hLeads : Leads better seen best)
    (hNaN : ∀ value ∈ best :: rest, value.isNaN = false)
    (hComparable : ∀ value ∈ rest, Comparable value best) :
    ∃ found,
      bestOf better best rest = pure found ∧
        Leads better (seen ++ rest) found := by
  induction rest generalizing seen best with
  | nil => exact ⟨best, rfl, by simpa using hLeads⟩
  | cons candidate rest ih =>
      have hFirst : Comparable candidate best :=
        hComparable candidate List.mem_cons_self
      have hNext := hLeads.next hBetter candidate
      have hLeader :=
        leader_eq_or_eq better
          (Ord.compare candidate.key best.key) candidate best
      rw [bestOf_next
          (Value.order?_eq_compare_key hFirst
            (hNaN candidate (by simp)) (hNaN best (by simp))),
        List.append_cons]
      generalize leader _ _ candidate best = next
        at hNext hLeader ⊢
      apply ih hNext
      · intro value hValue
        rcases List.mem_cons.mp hValue with rfl | hRest
        · rcases hLeader with rfl | rfl <;>
            exact hNaN _ (by simp)
        · exact hNaN value (by simp [hRest])
      · intro value hValue
        have hBest :=
          hComparable value (List.mem_cons_of_mem _ hValue)
        rcases hLeader with rfl | rfl
        · exact hBest.trans hFirst.symm
        · exact hBest

/- A value that cannot be compared ends the search. -/
theorem bestOf_mismatch
    {rest : List Value}
    {best stranger : Value}
    (hRest : stranger ∈ rest)
    (hStranger : ¬Comparable stranger best) :
    ∃ a ∈ best :: rest, ∃ b ∈ best :: rest,
      bestOf better best rest =
        mismatch (.incomparable a.typeName b.typeName) := by
  induction rest generalizing best with
  | nil => cases hRest
  | cons candidate rest ih =>
      by_cases hFirst : Comparable candidate best
      · rcases Option.isSome_iff_exists.mp
            ((Value.order?_isSome_iff _ _).mpr hFirst) with
          ⟨order, hOrder⟩
        have hLater : stranger ∈ rest := by
          rcases List.mem_cons.mp hRest with rfl | hLater
          · contradiction
          · exact hLater
        have hLeader :=
          leader_eq_or_eq better order candidate best
        rw [bestOf_next hOrder]
        generalize leader _ _ candidate best = next
          at hLeader ⊢
        have hOther : ¬Comparable stranger next := by
          rcases hLeader with rfl | rfl
          · exact fun hSame => hStranger (hSame.trans hFirst)
          · exact hStranger
        have hWithin :
            next :: rest ⊆ best :: candidate :: rest := by
          rcases hLeader with rfl | rfl <;> simp
        rcases ih hLater hOther with ⟨a, ha, b, hb, hEnd⟩
        exact ⟨a, hWithin ha, b, hWithin hb, hEnd⟩
      · refine ⟨candidate, by simp, best, by simp, ?_⟩
        rw [bestOf, compare_of_not_comparable hFirst]
        rfl

end Run

end Gantry

------------------------------------------------------------
-- Uniform Values
------------------------------------------------------------

namespace Gantry

namespace Run

open Value (Comparable)

/- All are strings, or all are numbers or truth values. -/
def Uniform
    (values : List Value) : Prop :=
  (∀ value ∈ values, ∃ text, value = .str text) ∨
    ∀ value ∈ values, ∃ x, value.asNumber? = some x

theorem Uniform.comparable
    {values : List Value}
    (hUniform : Uniform values)
    {a b : Value}
    (ha : a ∈ values)
    (hb : b ∈ values) :
    Comparable a b := by
  rcases hUniform with hStrings | hNumbers
  · rcases hStrings a ha with ⟨s, rfl⟩
    rcases hStrings b hb with ⟨t, rfl⟩
    exact .strings s t
  · rcases hNumbers a ha with ⟨x, hx⟩
    rcases hNumbers b hb with ⟨y, hy⟩
    exact .numbers hx hy

/- Values are uniform if they compare with a first one. -/
theorem uniform_of_comparable
    {first : Value}
    {rest : List Value}
    (hSelf : Comparable first first)
    (hRest : ∀ value ∈ rest, Comparable value first) :
    Uniform (first :: rest) := by
  have hAll :
      ∀ value ∈ first :: rest, Comparable value first :=
    List.forall_mem_cons.mpr ⟨hSelf, hRest⟩
  cases hSelf with
  | strings s _ =>
      refine .inl fun value hValue => ?_
      cases hAll value hValue with
      | strings t _ => exact ⟨t, rfl⟩
      | numbers hLeft hRight => cases hRight
  | numbers hFirst _ =>
      refine .inr fun value hValue => ?_
      cases hAll value hValue with
      | strings t _ => cases hFirst
      | numbers hLeft hRight => exact ⟨_, hLeft⟩

/- Of several values one does not compare with the first. -/
theorem exists_stranger
    {first : Value}
    {rest : List Value}
    (hSeveral : rest ≠ [])
    (hMixed : ¬Uniform (first :: rest)) :
    ∃ stranger ∈ rest, ¬Comparable stranger first := by
  by_contra hNone
  push Not at hNone
  rcases List.exists_mem_of_ne_nil rest hSeveral with
    ⟨second, hSecond⟩
  have hFirst := hNone second hSecond
  exact hMixed
    (uniform_of_comparable (hFirst.symm.trans hFirst) hNone)

/-
  Who leads is the first that is at least as good as all
  others, which is what the operator `weak` asks.
-/
theorem Leads.first
    {better : Ordering}
    (hBetter : better ≠ .eq)
    {machine : Machine}
    {weak : BinaryOp}
    (hWeak :
      ∀ a b order,
        a.order? b = some order →
        Answers machine weak a b (order != better.swap))
    {values : List Value}
    {best : Value}
    (hLeads : Leads better values best)
    (hUniform : Uniform values)
    (hNaN : ∀ value ∈ values, value.isNaN = false) :
    ∃ before behind,
      values = before ++ best :: behind ∧
        (∀ other ∈ values,
          Answers machine weak best other true) ∧
        ∀ earlier ∈ before, ∃ other ∈ values,
          Answers machine weak earlier other false := by
  have hAnswer :
      ∀ a ∈ values, ∀ b ∈ values,
        Answers machine weak a b
          (Ord.compare a.key b.key != better.swap) :=
    fun a ha b hb =>
      hWeak a b _
        (Value.order?_eq_compare_key
          (hUniform.comparable ha hb) (hNaN a ha)
          (hNaN b hb))
  have hBehind :
      ∀ other ∈ values,
        Ord.compare best.key other.key ≠ better.swap :=
    fun other => hLeads.not_behind hBetter
  rcases hLeads with ⟨before, behind, rfl, hBefore, -⟩
  refine ⟨before, behind, rfl, ?_, ?_⟩
  · intro other hOther
    have hBest := hAnswer best (by simp) other hOther
    rwa [bne_iff_ne.mpr (hBehind other hOther)] at hBest
  · intro earlier hEarlier
    have hOther :=
      hAnswer earlier (by simp [hEarlier]) best (by simp)
    rw [← compare_swap, hBefore earlier hEarlier,
      bne_self_eq_false] at hOther
    exact ⟨best, by simp, hOther⟩

/- What `min` and `max` look for, and the name they give. -/
theorem callBuiltin_extreme
    {function : Builtin}
    {weak : BinaryOp}
    (hFunction :
      (function, weak) ∈
        [(Builtin.min, BinaryOp.lessEqual),
          (Builtin.max, BinaryOp.greaterEqual)]) :
    ∃ name better,
      better ≠ .eq ∧
        (∀ stage args,
          callBuiltin stage function args =
            extremum name better args) ∧
        ∀ machine a b order,
          a.order? b = some order →
          Answers machine weak a b
            (order != better.swap) := by
  simp only [List.mem_cons, Prod.mk.injEq, List.not_mem_nil,
    or_false] at hFunction
  rcases hFunction with ⟨rfl, rfl⟩ | ⟨rfl, rfl⟩
  · exact ⟨"min", .lt, by decide, fun _ _ => rfl,
      fun machine _ _ _ hOrder =>
        (answers_of_order machine hOrder).2.2.1⟩
  · exact ⟨"max", .gt, by decide, fun _ _ => rfl,
      fun machine _ _ _ hOrder =>
        (answers_of_order machine hOrder).2.2.2⟩

end Run

end Gantry

------------------------------------------------------------
-- The Least And The Greatest
------------------------------------------------------------

namespace Gantry

namespace Run

section

variable
  {machine : Machine}
  {args values : List Value}
  {first : Value}
  {rest : List Value}

/- The search starts with the first of the candidates. -/
theorem on_extremum
    (hValues : candidates machine.heap args = first :: rest)
    (name : String)
    (better : Ordering) :
    on (extremum name better args) machine =
      on (bestOf better first rest) machine := by
  have hHeap :
      on heap machine = (.ok machine.heap, machine) := rfl
  rw [extremum, on_bind, hHeap]
  dsimp only
  rw [hValues]

/- Of values that can be compared one is found. -/
theorem extremum_of_uniform
    (hValues : candidates machine.heap args = values)
    (hSome : values ≠ [])
    (hNaN : ∀ value ∈ values, value.isNaN = false)
    (hUniform : Uniform values)
    (name : String)
    {better : Ordering}
    (hBetter : better ≠ .eq) :
    ∃ best,
      on (extremum name better args) machine =
          (.ok best, machine) ∧
        Leads better values best := by
  rcases List.exists_cons_of_ne_nil hSome with
    ⟨first, rest, rfl⟩
  rcases bestOf_leads hBetter (Leads.single better first)
      hNaN fun value hValue =>
        hUniform.comparable (List.mem_cons_of_mem _ hValue)
          List.mem_cons_self with
    ⟨best, hBest, hLeads⟩
  refine ⟨best, ?_, hLeads⟩
  rw [on_extremum hValues, hBest]
  rfl

/- Of several others, two cannot be compared. -/
theorem extremum_of_mixed
    (hValues : candidates machine.heap args = values)
    (hSome : values ≠ [])
    (hSeveral : values.length ≠ 1)
    (hMixed : ¬Uniform values)
    (name : String)
    (better : Ordering) :
    ∃ a ∈ values, ∃ b ∈ values,
      on (extremum name better args) machine =
        (.error
            (.typeMismatch
              (.incomparable a.typeName b.typeName)),
          machine) := by
  rcases List.exists_cons_of_ne_nil hSome with
    ⟨first, rest, rfl⟩
  have hRest : rest ≠ [] := by
    rintro rfl
    exact hSeveral rfl
  rcases exists_stranger hRest hMixed with
    ⟨stranger, hStranger, hOther⟩
  rcases bestOf_mismatch hStranger hOther with
    ⟨a, ha, b, hb, hEnd⟩
  refine ⟨a, ha, b, hb, ?_⟩
  rw [on_extremum hValues, hEnd]
  rfl

end

/-
  The least, or the greatest, of some values none of which is
  NaN is found if there is only one of them, or if all are
  strings, or all are numbers or truth values. It is the
  first that is at most, or at least, every other. In all
  other cases two of the values cannot be compared.
-/
theorem first_extreme_of_candidates
    (stage : Stage)
    (machine : Machine)
    {function : Builtin}
    {weak : BinaryOp}
    (hFunction :
      (function, weak) ∈
        [(Builtin.min, BinaryOp.lessEqual),
          (Builtin.max, BinaryOp.greaterEqual)])
    {args values : List Value}
    (hValues : candidates machine.heap args = values)
    (hSome : values ≠ [])
    (hNaN : ∀ value ∈ values, value.isNaN = false) :
    let ending := on (callBuiltin stage function args) machine
    ((∃ best, ending.1 = .ok best) ↔
        values.length = 1 ∨ Uniform values) ∧
      (∀ only, values = [only] →
        ending = (.ok only, machine)) ∧
      (Uniform values →
        ∃ before best behind,
          values = before ++ best :: behind ∧
            ending = (.ok best, machine) ∧
            (∀ other ∈ values,
              Answers machine weak best other true) ∧
            ∀ earlier ∈ before, ∃ other ∈ values,
              Answers machine weak earlier other false) ∧
      (¬(values.length = 1 ∨ Uniform values) →
        ∃ a ∈ values, ∃ b ∈ values,
          ending =
            (.error
                (.typeMismatch
                  (.incomparable a.typeName b.typeName)),
              machine)) := by
  intro ending
  rcases callBuiltin_extreme hFunction with
    ⟨name, better, hBetter, hCall, hWeak⟩
  have hEnding :
      ending = on (extremum name better args) machine :=
    congrArg (on · machine) (hCall stage args)
  have hOnly :
      ∀ only, values = [only] →
        ending = (.ok only, machine) := by
    rintro only rfl
    rw [hEnding, on_extremum hValues]
    rfl
  have hUniformly :
      Uniform values →
        ∃ best, ending = (.ok best, machine) ∧
          Leads better values best := by
    intro hUniform
    rw [hEnding]
    exact extremum_of_uniform hValues hSome hNaN hUniform
      name hBetter
  have hMixed :
      ¬(values.length = 1 ∨ Uniform values) →
        ∃ a ∈ values, ∃ b ∈ values,
          ending =
            (.error
                (.typeMismatch
                  (.incomparable a.typeName b.typeName)),
              machine) := by
    intro hNeither
    rw [not_or] at hNeither
    rw [hEnding]
    exact extremum_of_mixed hValues hSome hNeither.1
      hNeither.2 name better
  refine ⟨⟨?_, ?_⟩, hOnly, ?_, hMixed⟩
  · rintro ⟨best, hBest⟩
    by_contra hNeither
    rcases hMixed hNeither with ⟨a, -, b, -, hEnd⟩
    rw [hEnd] at hBest
    cases hBest
  · rintro (hLength | hUniform)
    · rcases List.length_eq_one_iff.mp hLength with
        ⟨only, hValue⟩
      exact ⟨only, by rw [hOnly only hValue]⟩
    · rcases hUniformly hUniform with ⟨best, hBest, -⟩
      exact ⟨best, by rw [hBest]⟩
  · intro hUniform
    rcases hUniformly hUniform with ⟨best, hBest, hLeads⟩
    rcases hLeads.first hBetter (hWeak machine) hUniform hNaN
      with ⟨before, behind, hSplit, hLeast, hFirst⟩
    exact ⟨before, best, behind, hSplit, hBest, hLeast,
      hFirst⟩

/- Of three, one is found before another that is equal. -/
theorem first_extreme_of_candidates_tie :
    let values : List Value :=
      [.number 3, .bool true, .number 1]
    let ending :=
      on
        (callBuiltin { world := World.empty 1 1 } .min values)
        {}
    candidates {} values = values ∧
      (∀ value ∈ values, value.isNaN = false) ∧
      ∃ before best behind,
        values = before ++ best :: behind ∧
          ending = (.ok best, {}) ∧
          (∀ other ∈ values,
            Answers {} .lessEqual best other true) ∧
          ∀ earlier ∈ before, ∃ other ∈ values,
            Answers {} .lessEqual earlier other false := by
  intro values ending
  have hNaN : ∀ value ∈ values, value.isNaN = false := by
    simp only [values, List.forall_mem_cons,
      List.not_mem_nil, false_implies, implies_true, and_true]
    decide +kernel
  have hUniform : Uniform values := by
    refine .inr fun value hValue => ?_
    simp only [values, List.mem_cons, List.not_mem_nil,
      or_false] at hValue
    rcases hValue with rfl | rfl | rfl <;> exact ⟨_, rfl⟩
  have hValues :
      candidates ({} : Machine).heap values = values :=
    rfl
  rcases first_extreme_of_candidates
      { world := World.empty 1 1 } {} (List.mem_cons_self)
      hValues (by simp [values]) hNaN with
    ⟨-, -, hFound, -⟩
  exact ⟨rfl, hNaN, hFound hUniform⟩

end Run

end Gantry
