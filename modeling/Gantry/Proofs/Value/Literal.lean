import Gantry.Proofs.Value.Tokens

/-
  This file reads the text of data as a script. The text is a
  literal of the datum, which makes an equal value in new
  lists, unless a string has a carriage return or lists are
  nested deeper than scripts may nest them.

  Key definitions include:
    * `Gantry.Heap.Extends`
    * `Gantry.Value.Same`
    * `Gantry.Machine.Rereads`

  Main statements:
    * `Gantry.Datum.on_expr`
    * `Gantry.Datum.equalWithin_of_stands`
    * `Gantry.Datum.rereads_repr_iff`
-/

------------------------------------------------------------
-- Heaps With More Lists
------------------------------------------------------------

namespace Gantry

namespace Heap

/- Lists may be added, but none is changed. -/
def Extends
    (heap later : Heap) : Prop :=
  ∀ ref < heap.lists.size,
    ref < later.lists.size ∧
      later.list ref = heap.list ref

theorem Extends.refl
    (heap : Heap) :
    heap.Extends heap :=
  fun _ hRef => ⟨hRef, rfl⟩

theorem Extends.trans
    {heap between later : Heap}
    (hFirst : heap.Extends between)
    (hSecond : between.Extends later) :
    heap.Extends later := by
  intro ref hRef
  rcases hFirst ref hRef with ⟨hBetween, hSame⟩
  rcases hSecond ref hBetween with ⟨hLater, hAgain⟩
  exact ⟨hLater, hAgain.trans hSame⟩

theorem lt_size_alloc
    (heap : Heap)
    (items : Items) :
    heap.lists.size < (heap.alloc items).2.lists.size := by
  rw [alloc, Array.size_push]
  exact Nat.lt_succ_self _

theorem extends_alloc
    (heap : Heap)
    (items : Items) :
    heap.Extends (heap.alloc items).2 := by
  intro ref hRef
  constructor
  · exact Nat.lt_trans hRef (heap.lt_size_alloc items)
  · rw [list, list, Array.getD_eq_getD_getElem?,
      Array.getD_eq_getD_getElem?, alloc,
      Array.getElem?_push_lt hRef,
      Array.getElem?_eq_getElem hRef]

theorem list_alloc
    (heap : Heap)
    (items : Items) :
    (heap.alloc items).2.list heap.lists.size = items := by
  simp [alloc, list, Array.getD]

theorem size_eq
    (heap : Heap)
    (ref : Nat) :
    heap.size ref = (heap.items ref).size := by
  rw [size, items]
  cases heap.list ref with
  | listed values => rfl
  | progression start step count =>
      rw [Items.size, Items.toArray, Array.size_ofFn]

end Heap

namespace Datum

variable
    {heap later : Heap}
    {same : Float → Float → Prop}

mutual

/- More lists do not change what a value stands for. -/
theorem Stands.later :
    (datum : Datum) →
    {value : Value} →
    datum.Stands same heap value →
    heap.Extends later →
    datum.Stands same later value
| .atom _, _, hStands, _ => hStands
| .list items, value, hStands, hExtends => by
    rcases hStands.exists_ref with ⟨ref, rfl, hRef, hItems⟩
    rcases hExtends ref hRef with ⟨hLater, hSame⟩
    refine ⟨hLater, ?_⟩
    rw [Heap.items, hSame]
    exact ListStands.later items hItems hExtends

theorem ListStands.later :
    (items : List Datum) →
    {values : List Value} →
    ListStands same heap items values →
    heap.Extends later →
    ListStands same later items values
| [], [], _, _ => trivial
| [], _ :: _, hItems, _ => hItems.elim
| _ :: _, [], hItems, _ => hItems.elim
| item :: items, _ :: _, hItems, hExtends =>
    ⟨Stands.later item hItems.1 hExtends,
      ListStands.later items hItems.2 hExtends⟩

end

end Datum

end Gantry

------------------------------------------------------------
-- Evaluating A Literal
------------------------------------------------------------

namespace Gantry

/- Numbers that are equal, though zeros may differ in sign. -/
def Value.Same
    (x y : Float) : Prop :=
  (y == x) = true

namespace Expr

theorem literal_of_erase
    {found : Expr}
    {value : Literal}
    (hFound : found.erase = .literal value Span.unset) :
    ∃ span, found = .literal value span := by
  cases found with
  | literal other span =>
      cases hFound
      exact ⟨span, rfl⟩
  | _ => cases hFound

theorem list_of_erase
    {found : Expr}
    {items : List Expr}
    (hFound :
      found.erase = .list (listErase items) Span.unset) :
    ∃ items' span,
      found = .list items' span ∧
        listErase items' = listErase items := by
  cases found with
  | list items' span =>
      rw [erase] at hFound
      injection hFound with hItems
      exact ⟨items', span, rfl, hItems⟩
  | _ => cases hFound

theorem cons_of_listErase
    {found : List Expr}
    {item : Expr}
    {items : List Expr}
    (hFound :
      listErase found = listErase (item :: items)) :
    ∃ first rest,
      found = first :: rest ∧
        first.erase = item.erase ∧
          listErase rest = listErase items := by
  cases found with
  | nil => cases hFound
  | cons first rest =>
      injection hFound with hFirst hRest
      exact ⟨first, rest, rfl, hFirst, hRest⟩

end Expr

/- The literal of an atom stands for the atom. -/
theorem Atom.stands_literal
    {leaf : Atom}
    (hLegible : leaf.Legible) :
    leaf.Stands Value.Same (Run.literal leaf.literal) := by
  cases leaf with
  | number value =>
      have hSame := hLegible.2.reread_beq
      rwa [← Numeral.value_ofFloat (Value.reread value)]
        at hSame
  | none => trivial
  | bool value => rfl
  | str text => rfl

namespace Datum

variable
    {stage : Stage}
    {enter : Run.Enter}
    {scopes : Scopes}

mutual

/-
  The expression of a datum, wherever it was found, makes a
  value of the datum, by induction on the datum. Values made
  before are still there after the lists made later.
-/
theorem on_expr :
    (datum : Datum) →
    datum.Legible →
    {found : Expr} →
    found.erase = datum.expr.erase →
    (machine : Machine) →
    ∃ result after,
      Run.on (Run.expr stage enter scopes found) machine =
          (.ok result, after) ∧
        machine.heap.Extends after.heap ∧
          datum.Stands Value.Same after.heap result
| .atom leaf, hLegible, found, hFound, machine => by
    have hLeaf : leaf.Legible :=
      hLegible leaf (List.mem_singleton.mpr rfl)
    rcases Expr.literal_of_erase hFound with ⟨span, rfl⟩
    exact ⟨Run.literal leaf.literal, machine, rfl,
      Heap.Extends.refl machine.heap, leaf.stands_literal hLeaf⟩
| .list items, hLegible, found, hFound, machine => by
    rcases Expr.list_of_erase hFound with
      ⟨found, span, rfl, hItems⟩
    rcases on_exprs items hLegible hItems machine with
      ⟨results, after, hRun, hExtends, hStands⟩
    have hAlloc :=
      after.heap.extends_alloc (.listed results.toArray)
    refine ⟨.list after.heap.lists.size,
      { after with
        heap :=
          (after.heap.alloc (.listed results.toArray)).2 },
      ?_, hExtends.trans hAlloc, ?_, ?_⟩
    · rw [Run.expr, Run.on_bind, hRun]
      rfl
    · exact after.heap.lt_size_alloc _
    · rw [Heap.items, Heap.list_alloc]
      exact ListStands.later items hStands hAlloc

theorem on_exprs :
    (items : List Datum) →
    ListLegible items →
    {found : List Expr} →
    Expr.listErase found = Expr.listErase (listExpr items) →
    (machine : Machine) →
    ∃ results after,
      Run.on (Run.exprs stage enter scopes found) machine =
          (.ok results, after) ∧
        machine.heap.Extends after.heap ∧
          ListStands Value.Same after.heap items results
| [], _, found, hFound, machine => by
    cases found with
    | nil =>
        exact ⟨[], machine, rfl,
          Heap.Extends.refl machine.heap, trivial⟩
    | cons => cases hFound
| item :: items, hLegible, found, hFound, machine => by
    rw [listLegible_cons] at hLegible
    rcases Expr.cons_of_listErase hFound with
      ⟨first, rest, rfl, hFirst, hRest⟩
    rcases on_expr item hLegible.1 hFirst machine with
      ⟨result, between, hRun, hExtends, hStands⟩
    rcases on_exprs items hLegible.2 hRest between with
      ⟨results, after, hMore, hFurther, hOthers⟩
    refine ⟨result :: results, after, ?_,
      hExtends.trans hFurther,
      hStands.later item hFurther, hOthers⟩
    rw [Run.exprs, Run.on_bind, hRun]
    dsimp only
    rw [Run.on_bind, hMore]
    rfl

end

end Datum

end Gantry

------------------------------------------------------------
-- Equal Values
------------------------------------------------------------

namespace Gantry

/- Values that stand for one atom are equal. -/
theorem Atom.equalWithin_of_stands
    {leaf : Atom}
    {result value : Value}
    (hResult : leaf.Stands Value.Same result)
    (hValue : leaf.Stands Eq value)
    (heap : Heap)
    (room : Nat)
    (around : List (Nat × Nat)) :
    Value.equalWithin heap room around result value =
      true := by
  have hLeaf :
      Value.equalWithin heap room around result value =
        Value.leafEqual result value := by
    cases leaf <;> cases result <;> try contradiction
    all_goals cases value <;> try contradiction
    all_goals cases room <;> rfl
  rw [hLeaf]
  cases leaf with
  | none =>
      cases result <;> cases value <;> trivial
  | bool a =>
      cases result <;> cases value <;> try contradiction
      cases hResult
      cases hValue
      cases a <;> rfl
  | number x =>
      cases result <;> cases value <;> try contradiction
      cases hValue
      exact hResult
  | str a =>
      cases result <;> cases value <;> try contradiction
      cases hResult
      cases hValue
      exact beq_self_eq_true a

namespace Datum

open Value

variable {heap : Heap}

mutual

/- Values that stand for one datum are equal. -/
theorem equalWithin_of_stands :
    (datum : Datum) →
    {result value : Value} →
    datum.Stands Same heap result →
    datum.Shows heap value →
    (room : Nat) →
    (around : List (Nat × Nat)) →
    equalWithin heap room around result value = true
| .atom leaf, _, _, hResult, hValue, room, around =>
    Atom.equalWithin_of_stands hResult hValue heap room around
| .list items, result, value, hResult, hValue, 0, around => by
    rcases hResult.exists_ref with ⟨ref, rfl, _⟩
    rcases hValue.exists_ref with ⟨other, rfl, _⟩
    rfl
| .list items, result, value, hResult, hValue, room + 1,
    around => by
    rcases hResult.exists_ref with ⟨ref, rfl, _, hItems⟩
    rcases hValue.exists_ref with ⟨other, rfl, _, hOthers⟩
    have hEqual :=
      listEqual_of_stands items hItems hOthers room
        ((ref, other) :: around)
    rw [equalWithin]
    split
    · rfl
    · rw [Heap.size_eq, Heap.size_eq, Bool.and_eq_true,
        beq_iff_eq, ← Array.all_toList, Array.toList_zip,
        List.all_eq_true]
      exact hEqual

theorem listEqual_of_stands :
    (items : List Datum) →
    {results values : List Value} →
    ListStands Same heap items results →
    ListStands Eq heap items values →
    (room : Nat) →
    (around : List (Nat × Nat)) →
    results.length = values.length ∧
      ∀ pair ∈ results.zip values,
        equalWithin heap room around pair.1 pair.2 = true
| [], [], [], _, _, _, _ => by simp
| [], _ :: _, _, hResults, _, _, _ => hResults.elim
| [], _, _ :: _, _, hValues, _, _ => hValues.elim
| _ :: _, [], _, hResults, _, _, _ => hResults.elim
| _ :: _, _, [], _, hValues, _, _ => hValues.elim
| item :: items, result :: results, value :: values,
    hResults, hValues, room, around => by
    rcases listEqual_of_stands items hResults.2 hValues.2
        room around with
      ⟨hLength, hAll⟩
    have hFirst :=
      equalWithin_of_stands item hResults.1 hValues.1 room
        around
    constructor
    · rw [List.length_cons, List.length_cons, hLength]
    · rw [List.zip_cons_cons, List.forall_mem_cons]
      exact ⟨hFirst, hAll⟩

end

end Datum

end Gantry

------------------------------------------------------------
-- The Text Of A Value As A Script
------------------------------------------------------------

namespace Gantry

/-
  Read as a script, the text is one statement that is an
  expression, and evaluating it succeeds with a value equal
  to the given one, while all lists stay as they are.
-/
def Machine.Rereads
    (machine : Machine)
    (stage : Stage)
    (name text : String)
    (value : Value) : Prop :=
  ∃ program expr span result after,
    (Source.ofText name text).parse.program? =
        some program ∧
      program.body = [.expr expr span] ∧
        machine.eval stage expr = (.ok result, after) ∧
          machine.heap.Extends after.heap ∧
            result.equal after.heap value = true

/- What cannot be read is no literal of anything. -/
theorem Machine.not_rereads
    {machine : Machine}
    {stage : Stage}
    {name text : String}
    {value : Value}
    (hNone :
      (Source.ofText name text).parse.program? = none) :
    ¬machine.Rereads stage name text value := by
  rintro ⟨program, _, _, _, _, hProgram, _⟩
  rw [hNone] at hProgram
  contradiction

namespace Datum

theorem legible_of_numbers
    {datum : Datum}
    (hFinite :
      ∀ x, Atom.number x ∈ datum.atoms → x.isFinite = true)
    (hReads :
      ∀ x, Atom.number x ∈ datum.atoms → Value.ReadsBack x) :
    datum.Legible := by
  intro leaf hLeaf
  cases leaf with
  | number x => exact ⟨hFinite x hLeaf, hReads x hLeaf⟩
  | _ => trivial

theorem not_broken_iff
    {datum : Datum} :
    ¬datum.Broken ↔
      ∀ text, Atom.str text ∈ datum.atoms →
        '\r' ∉ text.toList := by
  constructor
  · intro hWhole text hText hReturn
    exact hWhole ⟨.str text, hText, hReturn⟩
  · rintro hStrings ⟨leaf, hLeaf, hBroken⟩
    cases leaf with
    | str text => exact hStrings text hLeaf hBroken
    | _ => exact hBroken.elim

/- The one line of a datum, read as a script. -/
theorem parse_chars
    {datum : Datum}
    (hLegible : datum.Legible)
    (hWhole : ¬datum.Broken)
    (name : String) :
    (datum.height ≤ maxNesting ∧
      ∃ found span whole,
        (Source.ofText name
            (String.ofList datum.chars)).parse.program? =
            some ⟨[.expr found span], whole⟩ ∧
          found.erase = datum.expr.erase) ∨
    (maxNesting < datum.height ∧
      (Source.ofText name
        (String.ofList datum.chars)).parse.program? =
        none) := by
  rcases lex_chars hLegible hWhole name with
    ⟨hLog, hTokens⟩
  have hClean :
      (Source.ofText name
        (String.ofList datum.chars)).lex.log.isEmpty =
        true := by
    rw [hLog]
    rfl
  rw [Source.parse, if_pos hClean, ← nesting_expr datum]
  exact Parser.parse_plain datum.plain_expr hTokens

/- A datum that is read makes a value equal to itself. -/
theorem Shows.rereads
    {machine : Machine}
    {stage : Stage}
    {name text : String}
    {datum : Datum}
    {value : Value}
    (hShows : datum.Shows machine.heap value)
    (hLegible : datum.Legible)
    {found : Expr}
    {span whole : Span}
    (hProgram :
      (Source.ofText name text).parse.program? =
        some ⟨[.expr found span], whole⟩)
    (hFound : found.erase = datum.expr.erase) :
    machine.Rereads stage name text value := by
  rcases on_expr datum hLegible hFound machine with
    ⟨result, after, hRun, hExtends, hStands⟩
  have hEqual :=
    equalWithin_of_stands datum hStands
      (hShows.later datum hExtends)
      (Value.comparingRoom after.heap) []
  exact ⟨_, found, span, result, after, hProgram, rfl, hRun,
    hExtends, hEqual⟩

/-
  The text of a value that is a datum is a literal of the
  value just if no string has a carriage return and lists
  are nested no deeper than a script may nest them.
-/
theorem rereads_repr_iff
    (machine : Machine)
    (stage : Stage)
    (name : String)
    {datum : Datum}
    {value : Value}
    (hShows : datum.Shows machine.heap value)
    (hFinite :
      ∀ x, Atom.number x ∈ datum.atoms → x.isFinite = true)
    (hReads :
      ∀ x, Atom.number x ∈ datum.atoms → Value.ReadsBack x) :
    machine.Rereads stage name (value.repr machine.heap)
        value ↔
      (∀ text, Atom.str text ∈ datum.atoms →
          '\r' ∉ text.toList) ∧
        datum.height ≤ 64 := by
  have hLegible := legible_of_numbers hFinite hReads
  rw [← not_broken_iff, hShows.repr]
  by_cases hBroken : datum.Broken
  · have hBreaks := breaks_chars datum hLegible hBroken
    apply iff_of_false
    · exact Machine.not_rereads (hBreaks.program? name)
    · exact fun hGood => hGood.1 hBroken
  · rcases parse_chars hLegible hBroken name with
      ⟨hLow, found, span, whole, hProgram, hFound⟩ |
        ⟨hHigh, hNone⟩
    · apply iff_of_true
      · exact hShows.rereads hLegible hProgram hFound
      · exact ⟨hBroken, hLow⟩
    · apply iff_of_false
      · exact Machine.not_rereads hNone
      · exact fun hGood => absurd hHigh (Nat.not_lt.mpr hGood.2)

/-
  A list in a list is reread from its text, and a string
  with a carriage return is not.
-/
theorem rereads_repr_nested :
    let inner := Items.listed #[.none, .bool true, .number 3]
    let outer :=
      Items.listed #[.number (-1.5), .str "it's", .list 0]
    let machine : Machine :=
      { heap := { lists := #[inner, outer] } }
    let stage : Stage := { world := World.empty 1 1 }
    machine.Rereads stage "sample"
        ((Value.list 1).repr machine.heap) (.list 1) ∧
      ¬machine.Rereads stage "sample"
        ((Value.str "a\rb").repr machine.heap)
        (.str "a\rb") := by
  intro inner outer machine stage
  let nested : Datum :=
    .list
      [.atom (.number (-1.5)), .atom (.str "it's"),
        .list
          [.atom .none, .atom (.bool true),
            .atom (.number 3)]]
  have hNested : nested.Shows machine.heap (.list 1) :=
    ⟨by decide, rfl, rfl,
      ⟨by decide, trivial, rfl, rfl, trivial⟩, trivial⟩
  have hFinite :
      (-1.5 : Float).isFinite = true ∧
        (3 : Float).isFinite = true := by
    decide +kernel
  have hReads :
      Value.ReadsBack (-1.5) ∧ Value.ReadsBack 3 := by
    decide +kernel
  have hShort :
      (Datum.atom (.str "a\rb")).Shows machine.heap
        (.str "a\rb") := rfl
  constructor
  · apply (rereads_repr_iff machine stage "sample" hNested
      (by simpa [nested, atoms, listAtoms] using hFinite)
      (by simpa [nested, atoms, listAtoms] using hReads)).mpr
    constructor
    · simp [nested, atoms, listAtoms]
    · decide
  · intro hRereads
    have hGood :=
      (rereads_repr_iff machine stage "sample" hShort
        (by simp [atoms]) (by simp [atoms])).mp hRereads
    exact absurd (hGood.1 "a\rb" (by simp [atoms]))
      (by decide)

end Datum

end Gantry
