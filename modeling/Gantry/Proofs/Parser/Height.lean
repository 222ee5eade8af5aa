import Gantry.Proofs.Parser.Yield
import Mathlib.Order.Monotone.Basic

/-
  This file measures how tall an expression can be. The room
  of a level is handed to each of the levels inside it anew,
  so that six chains one inside the other may each take all
  of it. The way down through first operands is therefore not
  limited by the room: only where that way does not count is
  the tree no taller than there is room.

  Key definitions include:
    * `Gantry.Expr.height`
    * `Gantry.Expr.extent`
    * `Gantry.Expr.leansRight`
    * `Gantry.Parser.tallest`

  Main statements:
    * `Gantry.Expr.height_le_extent`
    * `Gantry.Parser.lower_expressionWithin`
    * `Gantry.Parser.extent_le_of_parse`
    * `Gantry.Parser.height_of_parsed`
-/

------------------------------------------------------------
-- Height And Extent
------------------------------------------------------------

namespace Gantry

namespace Expr

mutual

/-
  The height of an expression. What holds no expression has
  height one, and everything else is one taller than the
  tallest expression in it.
-/
def height :
    Expr → Nat
| literal _ _ => 1
| name _ _ => 1
| list items _ => listHeight items + 1
| unary _ operand _ => operand.height + 1
| binary _ left right _ =>
    max left.height right.height + 1
| call callee args _ =>
    max callee.height (listHeight args) + 1
| index object key _ => max object.height key.height + 1
| attr object _ _ => object.height + 1

/- The height of the tallest of several expressions. -/
def listHeight :
    List Expr → Nat
| [] => 0
| item :: items => max item.height (listHeight items)

end

mutual

/-
  The height of an expression if a first operand, that is
  what an operator, a call, an index or an attribute stands
  behind, is not one but `step` levels below.
-/
def extent
    (step : Nat) :
    Expr → Nat
| literal _ _ => 1
| name _ _ => 1
| list items _ => listExtent step items + 1
| unary _ operand _ => operand.extent step + 1
| binary _ left right _ =>
    max (left.extent step + step) (right.extent step + 1)
| call callee args _ =>
    max (callee.extent step + step)
      (max 1 (listExtent step args) + 1)
| index object key _ =>
    max (object.extent step + step) (key.extent step + 1)
| attr object _ _ => max (object.extent step + step) 2

def listExtent
    (step : Nat) :
    List Expr → Nat
| [] => 0
| item :: items =>
    max (item.extent step) (listExtent step items)

end

mutual

/-
  No first operand is taller than what stands beside it, so
  that the way to the deepest leaf passes through none.
-/
def leansRight :
    Expr → Bool
| literal _ _ => true
| name _ _ => true
| list items _ => listLeansRight items
| unary _ operand _ => operand.leansRight
| binary _ left right _ =>
    decide (left.height ≤ right.height) && right.leansRight
| call callee args _ =>
    decide (callee.height ≤ max 1 (listHeight args)) &&
      listLeansRight args
| index object key _ =>
    decide (object.height ≤ key.height) && key.leansRight
| attr object _ _ => decide (object.height ≤ 1)

def listLeansRight :
    List Expr → Bool
| [] => true
| item :: items => item.leansRight && listLeansRight items

end

theorem height_pos
    (expr : Expr) :
    0 < expr.height := by
  cases expr <;> simp [height]

mutual

/- With every operand one level below, this is the height. -/
theorem extent_one :
    (expr : Expr) → expr.extent 1 = expr.height
| literal _ _ => rfl
| name _ _ => rfl
| list items _ => by
    rw [extent, height, listExtent_one items]
| unary _ operand _ => by
    rw [extent, height, extent_one operand]
| binary _ left right _ => by
    rw [extent, height, extent_one left, extent_one right]
    omega
| call callee args _ => by
    have hPos := callee.height_pos
    rw [extent, height, extent_one callee,
      listExtent_one args]
    omega
| index object key _ => by
    rw [extent, height, extent_one object, extent_one key]
    omega
| attr object _ _ => by
    have hPos := object.height_pos
    rw [extent, height, extent_one object]
    omega

theorem listExtent_one :
    (items : List Expr) →
      listExtent 1 items = listHeight items
| [] => rfl
| item :: items => by
    rw [listExtent, listHeight, extent_one item,
      listExtent_one items]

end

mutual

/-
  An expression that leans to the right is as tall as it is
  without its first operands.
-/
theorem height_le_extent :
    (expr : Expr) → expr.leansRight = true →
      expr.height ≤ expr.extent 0
| literal _ _, _ => Nat.le_refl 1
| name _ _, _ => Nat.le_refl 1
| list items _, hLeans => by
    have hItems := listHeight_le_listExtent items hLeans
    rw [height, extent]
    omega
| unary _ operand _, hLeans => by
    have hOperand := height_le_extent operand hLeans
    rw [height, extent]
    omega
| binary _ left right _, hLeans => by
    rw [leansRight, Bool.and_eq_true, decide_eq_true_iff]
      at hLeans
    have hRight := height_le_extent right hLeans.2
    rw [height, extent]
    omega
| call callee args _, hLeans => by
    rw [leansRight, Bool.and_eq_true, decide_eq_true_iff]
      at hLeans
    have hArgs := listHeight_le_listExtent args hLeans.2
    rw [height, extent]
    omega
| index object key _, hLeans => by
    rw [leansRight, Bool.and_eq_true, decide_eq_true_iff]
      at hLeans
    have hKey := height_le_extent key hLeans.2
    rw [height, extent]
    omega
| attr object _ _, hLeans => by
    rw [leansRight, decide_eq_true_iff] at hLeans
    rw [height, extent]
    omega

theorem listHeight_le_listExtent :
    (items : List Expr) → listLeansRight items = true →
      listHeight items ≤ listExtent 0 items
| [], _ => Nat.le_refl 0
| item :: items, hLeans => by
    rw [listLeansRight, Bool.and_eq_true] at hLeans
    have hItem := height_le_extent item hLeans.1
    have hItems := listHeight_le_listExtent items hLeans.2
    rw [listHeight, listExtent]
    omega

end

theorem extent_withSpan
    (step : Nat)
    (expr : Expr)
    (span : Span) :
    (expr.withSpan span).extent step = expr.extent step := by
  cases expr <;> simp [withSpan, extent]

end Expr

end Gantry

------------------------------------------------------------
-- Trees Within Their Room
------------------------------------------------------------

namespace Gantry

namespace Parser

/- A parser yields no tree larger than its room allows. -/
def Lower
    (step : Nat)
    (most : Nat → Nat)
    (parser : Nat → Parser Expr) : Prop :=
  ∀ room,
    Yields (parser room)
      fun expr => expr.extent step ≤ most room

variable
    {step : Nat}
    {most : Nat → Nat}
    {operand inner : Nat → Parser Expr}

/-
  Each link of a chain takes the tree so far one step down,
  and there are no more links than there is room. Its second
  operand was read with less room than the chain had.
-/
theorem lower_chain
    (op? : TokenKind → Option BinaryOp)
    (hOperand : Lower step most operand)
    (hMost : StrictMono most)
    (room : Nat)
    (left : Expr)
    (bound : Nat)
    (hLeft : left.extent step ≤ bound)
    (hRoom : most room ≤ bound) :
    Yields (chain op? operand room left)
      fun expr => expr.extent step ≤ bound + step * room := by
  induction room generalizing left bound with
  | zero =>
      apply Yields.after
      intro found
      split
      · exact yields_pure hLeft
      · exact Yields.after fun _ => yields_tooDeep
  | succ room ih =>
      have hLess : most room < most (room + 1) :=
        hMost (Nat.lt_succ_self room)
      apply Yields.after
      intro found
      split
      · exact yields_pure (Nat.le_add_right_of_le hLeft)
      · rename_i op _
        refine Yields.after fun _ => ?_
        refine (hOperand room).bind fun right hRight => ?_
        have hJoin :
            (join op left right).extent step ≤
              bound + step := by
          rw [join, Expr.extent]
          omega
        have hRest :=
          ih (join op left right) (bound + step) hJoin
            (by omega)
        rwa [Nat.add_assoc, Nat.add_comm step,
          ← Nat.mul_succ] at hRest

theorem lower_level
    (op? : TokenKind → Option BinaryOp)
    (hOperand : Lower step most operand)
    (hMost : StrictMono most) :
    Lower step (fun room => most room + step * room)
      (level op? operand) := by
  intro room
  refine (hOperand room).bind fun left hLeft => ?_
  exact lower_chain op? hOperand hMost room left (most room)
    hLeft (Nat.le_refl _)

/-
  A prefix costs one level of room, which would have bought
  at least as much inside it.
-/
theorem lower_prefixed
    (op : UnaryOp)
    (mark : TokenKind)
    (hOperand : Lower step most operand)
    (hMost : StrictMono most) :
    Lower step most (prefixed op mark operand) := by
  intro room
  induction room with
  | zero =>
      apply Yields.after
      intro isMark
      split
      · exact Yields.after fun _ => yields_tooDeep
      · exact hOperand 0
  | succ room ih =>
      apply Yields.after
      intro isMark
      split
      · refine Yields.after fun start => ?_
        refine ih.bind fun inside hInside => ?_
        have hLess : most room < most (room + 1) :=
          hMost (Nat.lt_succ_self room)
        apply yields_pure
        rw [Expr.extent]
        omega
      · exact hOperand (room + 1)

section Items

variable
    {item : Parser Expr}
    {bound : Nat}
    (hItem :
      Yields item fun expr => expr.extent step ≤ bound)

include hItem

theorem lower_commaList
    (close : Symbol)
    (rounds : List Token) :
    Yields (commaList item close rounds)
      fun items => Expr.listExtent step items ≤ bound := by
  induction rounds with
  | nil =>
      refine hItem.bind fun last hLast => ?_
      apply yields_pure
      simpa [Expr.listExtent] using hLast
  | cons token rounds ih =>
      apply Yields.after
      intro isClose
      split
      · exact yields_pure (Nat.zero_le bound)
      · refine hItem.bind fun first hFirst => ?_
        apply Yields.after
        intro isComma
        split
        · refine ih.bind fun others hOthers => ?_
          apply yields_pure
          rw [Expr.listExtent]
          exact Nat.max_le.mpr ⟨hFirst, hOthers⟩
        · apply yields_pure
          simpa [Expr.listExtent] using hFirst

theorem lower_enclosed
    (close : Symbol) :
    Yields (enclosed item close)
      fun found =>
        Expr.listExtent step found.1 ≤ bound := by
  apply Yields.after
  intro cursor
  refine (lower_commaList hItem close cursor.rest).bind
    fun items hItems => ?_
  exact Yields.after fun stop => yields_pure hItems

/- Only brackets make a primary larger than what is inside. -/
theorem lower_primary :
    Yields (primary item)
      fun expr => expr.extent step ≤ bound + 1 := by
  refine Yields.after fun start => Yields.after fun found => ?_
  split
  · refine Yields.after fun _ => yields_pure ?_
    simp [Expr.extent]
  · refine Yields.after fun _ => ?_
    refine (lower_enclosed hItem _).bind
      fun found hFound => yields_pure ?_
    rw [Expr.extent]
    exact Nat.succ_le_succ hFound
  · refine Yields.after fun _ => ?_
    refine hItem.bind fun expr hExpr => ?_
    refine Yields.after fun stop => yields_pure ?_
    rw [Expr.extent_withSpan]
    omega
  · split
    · refine Yields.after fun _ => yields_pure ?_
      simp [Expr.extent]
    · exact yields_rejectHere _

/- A suffix takes its object one step down. -/
theorem lower_suffix
    {most : Nat}
    (object : Expr)
    (hObject : object.extent step ≤ most)
    (hBound : max 1 bound + 1 ≤ most) :
    Yields (suffix item object)
      fun expr => expr.extent step ≤ most + step := by
  refine Yields.after fun found => ?_
  split
  · refine Yields.after fun _ => ?_
    refine (lower_enclosed hItem _).bind
      fun args hArgs => yields_pure ?_
    rw [Expr.extent]
    omega
  · refine Yields.after fun _ => ?_
    refine hItem.bind fun key hKey => ?_
    refine Yields.after fun stop => yields_pure ?_
    rw [Expr.extent]
    omega
  · refine Yields.after fun _ => ?_
    refine Yields.after fun field => yields_pure ?_
    rw [Expr.extent]
    omega

end Items

theorem lower_suffixes
    (hInner : Lower step most inner)
    (hMost : StrictMono most)
    (room : Nat)
    (object : Expr)
    (bound : Nat)
    (hObject : object.extent step ≤ bound)
    (hRoom : most room + 1 ≤ bound) :
    Yields (suffixes inner room object)
      fun expr => expr.extent step ≤ bound + step * room := by
  induction room generalizing object bound with
  | zero =>
      apply Yields.after
      intro found
      split
      · exact yields_tooDeep
      · exact yields_pure hObject
  | succ room ih =>
      have hLess : most room < most (room + 1) :=
        hMost (Nat.lt_succ_self room)
      apply Yields.after
      intro found
      split
      · refine (lower_suffix (hInner room) object hObject
          (by omega)).bind fun longer hLonger => ?_
        have hRest :=
          ih longer (bound + step) hLonger (by omega)
        rwa [Nat.add_assoc, Nat.add_comm step,
          ← Nat.mul_succ] at hRest
      · exact yields_pure (Nat.le_add_right_of_le hObject)

theorem lower_operand
    (hInner : Lower step most inner)
    (hMost : StrictMono most) :
    Lower step (fun room => most room + 1 + step * room)
      (Parser.operand inner) := by
  intro room
  refine (lower_primary (hInner room)).bind
    fun object hObject => ?_
  exact lower_suffixes hInner hMost room object
    (most room + 1) hObject (Nat.le_refl _)

end Parser

end Gantry

------------------------------------------------------------
-- The Tallest Tree
------------------------------------------------------------

namespace Gantry

namespace Parser

/-
  The extent of the largest tree that some room allows: one
  level of brackets, and six chains around it that are each
  as long as the room inside the brackets.
-/
def tallest
    (step : Nat) :
    Nat → Nat
| 0 => 0
| room + 1 => tallest step room + 1 + 6 * (step * room)

theorem strictMono_tallest
    (step : Nat) :
    StrictMono (tallest step) := by
  apply strictMono_nat_of_lt_succ
  intro room
  rw [tallest]
  omega

theorem strictMono_add_room
    (step : Nat)
    {most : Nat → Nat}
    (hMost : StrictMono most) :
    StrictMono fun room => most room + step * room := by
  intro less more hLess
  have hMore := hMost hLess
  have hStep :=
    Nat.mul_le_mul_left step (Nat.le_of_lt hLess)
  dsimp only
  omega

theorem lower_disjunction
    {step : Nat}
    {inner : Nat → Parser Expr}
    (hInner : Lower step (tallest step) inner) :
    Lower step (fun room => tallest step (room + 1))
      (disjunction inner) := by
  have mTallest := strictMono_tallest step
  have mPrimary :
      StrictMono fun room => tallest step room + 1 :=
    fun _ _ hLess => Nat.succ_lt_succ (mTallest hLess)
  have mOperand := strictMono_add_room step mPrimary
  have mProduct := strictMono_add_room step mOperand
  have mSum := strictMono_add_room step mProduct
  have mComparison := strictMono_add_room step mSum
  have mConjunction := strictMono_add_room step mComparison
  have hSigned :=
    lower_prefixed .neg (.symbol .minus)
      (lower_operand hInner mTallest) mOperand
  have hProduct := lower_level productOp? hSigned mOperand
  have hSum := lower_level sumOp? hProduct mProduct
  have hComparison := lower_level comparisonOp? hSum mSum
  have hNegation :=
    lower_prefixed .not (.keyword .notWord) hComparison
      mComparison
  have hConjunction :=
    lower_level andOp? hNegation mComparison
  have hDisjunction :=
    lower_level orOp? hConjunction mConjunction
  intro room cursor expr hExpr
  have hExtent := hDisjunction room cursor expr hExpr
  dsimp only at hExtent ⊢
  rw [tallest]
  omega

/- By induction on the brackets. -/
theorem lower_expressionWithin
    (step brackets : Nat) :
    Lower step (tallest step)
      (expressionWithin brackets) := by
  induction brackets with
  | zero =>
      intro room
      exact yields_tooDeep
  | succ brackets ih =>
      intro room
      cases room with
      | zero => exact yields_tooDeep
      | succ room => exact lower_disjunction ih room

/- No expression of a script is larger than that. -/
theorem extent_le_of_parse
    (step : Nat)
    {tokens : List Token}
    {program : Program}
    (hParse : (parse tokens).program? = some program) :
    ∀ expr ∈ program.expressions,
      expr.extent step ≤ tallest step maxNesting := by
  have hExpression :
      Yields expression
        fun expr =>
          expr.extent step ≤ tallest step maxNesting :=
    lower_expressionWithin step maxNesting maxNesting
  apply forall_expressions_of_parse hExpression _ hParse
  intro expr span hExtent
  rwa [Expr.extent_withSpan]

/- Every expression is as tall as its extent at one step. -/
theorem height_le_of_parse
    {tokens : List Token}
    {program : Program}
    (hParse : (parse tokens).program? = some program) :
    ∀ expr ∈ program.expressions,
      expr.height ≤ tallest 1 maxNesting := by
  intro expr hExpr
  rw [← Expr.extent_one]
  exact extent_le_of_parse 1 hParse expr hExpr

end Parser

end Gantry

------------------------------------------------------------
-- The Limit Of Height
------------------------------------------------------------

namespace Gantry

namespace Parser

/-
  The limit of nesting bounds every expression in a script
  apart from its first operands, and so the height of one
  that leans to the right. With first operands an expression
  may be taller, though not without a bound.
-/
theorem height_of_parsed
    (tokens : List Token)
    (program : Program)
    (hParse : (parse tokens).program? = some program)
    (expr : Expr)
    (hExpr : expr ∈ program.expressions) :
    expr.extent 0 ≤ maxNesting ∧
      (expr.leansRight = true → expr.height ≤ maxNesting) ∧
      expr.height ≤ 12160 := by
  have hNested : expr.extent 0 ≤ maxNesting := by
    have hTallest : tallest 0 maxNesting = maxNesting := by
      decide +kernel
    rw [← hTallest]
    exact extent_le_of_parse 0 hParse expr hExpr
  refine ⟨hNested, ?_, ?_⟩
  · intro hLeans
    exact (expr.height_le_extent hLeans).trans hNested
  · have hTallest : tallest 1 maxNesting = 12160 := by
      decide +kernel
    rw [← hTallest]
    exact height_le_of_parse hParse expr hExpr

/- As many brackets one inside the other as there is room. -/
theorem height_of_parsed_brackets :
    let kinds : List TokenKind :=
      List.replicate 64 (.symbol .leftBracket) ++
        List.replicate 64 (.symbol .rightBracket) ++
        [.newline, .endOfFile]
    let tokens : List Token :=
      kinds.map fun kind => ⟨kind, Span.unset⟩
    ∃ program expr,
      (parse tokens).program? = some program ∧
        expr ∈ program.expressions ∧
        63 < expr.height ∧
        expr.height ≤ maxNesting := by
  intro kinds tokens
  have hRead :
      (parse tokens).program?.any
          (fun program =>
            program.expressions.any fun expr =>
              expr.leansRight && decide (63 < expr.height)) =
        true := by
    decide +kernel
  cases hParse : (parse tokens).program? with
  | none =>
      rw [hParse] at hRead
      contradiction
  | some program =>
      rw [hParse, Option.any_some, List.any_eq_true] at hRead
      rcases hRead with ⟨expr, hExpr, hBoth⟩
      rw [Bool.and_eq_true, decide_eq_true_iff] at hBoth
      have hHeight :=
        height_of_parsed tokens program hParse expr hExpr
      exact ⟨program, expr, rfl, hExpr, hBoth.2,
        hHeight.2.1 hBoth.1⟩

/-
  A product of 33 factors with 32 more summands. Neither of
  the two chains is too long, yet the tree is taller than the
  levels that may nest.
-/
def sumOfProduct : List Token :=
  let one : TokenKind := .keyword .trueWord
  let kinds : List TokenKind :=
    one ::
      (List.replicate 32 [.symbol .star, one]).flatten ++
      (List.replicate 32 [.symbol .plus, one]).flatten ++
      [.newline, .endOfFile]
  kinds.map fun kind => ⟨kind, Span.unset⟩

theorem height_sumOfProduct :
    (parse sumOfProduct).program?.map
        (fun program =>
          program.expressions.map Expr.height) =
      some [maxNesting + 1] := by
  decide +kernel

end Parser

end Gantry
