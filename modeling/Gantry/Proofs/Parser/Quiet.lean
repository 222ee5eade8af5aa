import Gantry.Proofs.Parser.Running

/-
  This file shows that an expression that can be read leaves
  no issue behind. Only statements are read on with after
  something about them was reported.

  Key definitions include:
    * `Gantry.Parser.Quiet`

  Main statements:
    * `Gantry.Parser.Quiet.bind`
    * `Gantry.Parser.quiet_expressionWithin`
    * `Gantry.Parser.quiet_expression`
-/

------------------------------------------------------------
-- Steps
------------------------------------------------------------

namespace Gantry

namespace Parser

variable {α β : Type}

/- Whenever a value is given, nothing was reported. -/
def Quiet
    (parser : Parser α) : Prop :=
  ∀ (cursor after : Cursor) (value : α),
    exec parser cursor = (some value, after) →
      after.log = cursor.log

theorem quiet_pure
    (value : α) :
    Quiet (pure value) := by
  rintro cursor after found ⟨⟩
  rfl

theorem Quiet.bind
    {parser : Parser α}
    {next : α → Parser β}
    (hParser : Quiet parser)
    (hNext : ∀ value, Quiet (next value)) :
    Quiet (parser >>= next) := by
  intro cursor after found hFound
  rw [exec_bind] at hFound
  cases hExec : exec parser cursor with
  | mk value? middle =>
      rw [hExec] at hFound
      cases value? with
      | none => simp at hFound
      | some value =>
          rw [hNext value middle after found hFound]
          exact hParser cursor middle value hExec

theorem quiet_peek :
    Quiet peek := by
  rintro cursor after kind ⟨⟩
  rfl

theorem quiet_here :
    Quiet here := by
  rintro cursor after span ⟨⟩
  rfl

theorem quiet_get :
    Quiet (get : Parser Cursor) := by
  rintro cursor after found ⟨⟩
  rfl

theorem quiet_check
    (kind : TokenKind) :
    Quiet (check kind) := by
  rintro cursor after found ⟨⟩
  rfl

theorem quiet_advance :
    Quiet advance := by
  rintro cursor after span ⟨⟩
  exact cursor.log_next

/- Where an issue is reported, no value is given. -/
theorem quiet_rejectHere
    (fault : Fault) :
    Quiet (rejectHere fault : Parser α) := by
  intro cursor after value hValue
  simp at hValue

theorem quiet_eat
    (kind : TokenKind) :
    Quiet (eat kind) := by
  refine (quiet_check kind).bind fun _ => ?_
  split
  · exact quiet_advance.bind fun _ => quiet_pure true
  · exact quiet_pure false

theorem quiet_expect
    (kind : TokenKind) :
    Quiet (expect kind) := by
  refine quiet_peek.bind fun _ => ?_
  split
  · exact quiet_advance
  · exact quiet_rejectHere _

theorem quiet_identifier :
    Quiet identifier := by
  refine quiet_peek.bind fun _ => ?_
  split
  · exact quiet_advance.bind fun _ => quiet_pure _
  · exact quiet_rejectHere _
  · exact quiet_rejectHere _

end Parser

end Gantry

------------------------------------------------------------
-- Expressions
------------------------------------------------------------

namespace Gantry

namespace Parser

variable
    {item : Parser Expr}
    {inner operand : Nat → Parser Expr}

theorem quiet_tooDeep {α : Type} :
    Quiet (tooDeep : Parser α) :=
  quiet_rejectHere _

theorem quiet_chain
    (op? : TokenKind → Option BinaryOp)
    (hOperand : ∀ room, Quiet (operand room))
    (room : Nat)
    (left : Expr) :
    Quiet (chain op? operand room left) := by
  induction room generalizing left with
  | zero =>
      refine quiet_peek.bind fun _ => ?_
      split
      · exact quiet_pure left
      · exact quiet_advance.bind fun _ => quiet_tooDeep
  | succ room ih =>
      refine quiet_peek.bind fun _ => ?_
      split
      · exact quiet_pure left
      · refine quiet_advance.bind fun _ => ?_
        exact (hOperand room).bind fun right => ih _

theorem quiet_level
    (op? : TokenKind → Option BinaryOp)
    (hOperand : ∀ room, Quiet (operand room))
    (room : Nat) :
    Quiet (level op? operand room) :=
  (hOperand room).bind fun left =>
    quiet_chain op? hOperand room left

theorem quiet_prefixed
    (op : UnaryOp)
    (mark : TokenKind)
    (hOperand : ∀ room, Quiet (operand room))
    (room : Nat) :
    Quiet (prefixed op mark operand room) := by
  induction room with
  | zero =>
      refine (quiet_check mark).bind fun _ => ?_
      split
      · exact quiet_advance.bind fun _ => quiet_tooDeep
      · exact hOperand 0
  | succ room ih =>
      refine (quiet_check mark).bind fun _ => ?_
      split
      · refine quiet_advance.bind fun _ => ?_
        exact ih.bind fun _ => quiet_pure _
      · exact hOperand (room + 1)

theorem quiet_commaList
    (hItem : Quiet item)
    (close : Symbol)
    (rounds : List Token) :
    Quiet (commaList item close rounds) := by
  induction rounds with
  | nil => exact hItem.bind fun _ => quiet_pure _
  | cons token rounds ih =>
      refine (quiet_check _).bind fun _ => ?_
      split
      · exact quiet_pure []
      · refine hItem.bind fun first => ?_
        refine (quiet_eat _).bind fun _ => ?_
        split
        · exact ih.bind fun _ => quiet_pure _
        · exact quiet_pure _

theorem quiet_enclosed
    (hItem : Quiet item)
    (close : Symbol) :
    Quiet (enclosed item close) := by
  refine quiet_get.bind fun _ => ?_
  refine (quiet_commaList hItem close _).bind fun _ => ?_
  exact (quiet_expect _).bind fun _ => quiet_pure _

theorem quiet_primary
    (hItem : Quiet item) :
    Quiet (primary item) := by
  refine quiet_here.bind fun start => ?_
  refine quiet_peek.bind fun _ => ?_
  split
  · exact quiet_advance.bind fun _ => quiet_pure _
  · refine quiet_advance.bind fun _ => ?_
    exact (quiet_enclosed hItem _).bind fun _ =>
      quiet_pure _
  · refine quiet_advance.bind fun _ => ?_
    refine hItem.bind fun expr => ?_
    exact (quiet_expect _).bind fun _ => quiet_pure _
  · split
    · exact quiet_advance.bind fun _ => quiet_pure _
    · exact quiet_rejectHere _

theorem quiet_suffix
    (hItem : Quiet item)
    (object : Expr) :
    Quiet (suffix item object) := by
  refine quiet_peek.bind fun _ => ?_
  split
  · refine quiet_advance.bind fun _ => ?_
    exact (quiet_enclosed hItem _).bind fun _ =>
      quiet_pure _
  · refine quiet_advance.bind fun _ => ?_
    refine hItem.bind fun key => ?_
    exact (quiet_expect _).bind fun _ => quiet_pure _
  · refine quiet_advance.bind fun _ => ?_
    exact quiet_identifier.bind fun _ => quiet_pure _

theorem quiet_suffixes
    (hInner : ∀ room, Quiet (inner room))
    (room : Nat)
    (object : Expr) :
    Quiet (suffixes inner room object) := by
  induction room generalizing object with
  | zero =>
      refine quiet_peek.bind fun _ => ?_
      split
      · exact quiet_tooDeep
      · exact quiet_pure object
  | succ room ih =>
      refine quiet_peek.bind fun _ => ?_
      split
      · exact (quiet_suffix (hInner room) object).bind ih
      · exact quiet_pure object

theorem quiet_operand
    (hInner : ∀ room, Quiet (inner room))
    (room : Nat) :
    Quiet (Parser.operand inner room) :=
  (quiet_primary (hInner room)).bind
    (quiet_suffixes hInner room)

theorem quiet_disjunction
    (hInner : ∀ room, Quiet (inner room))
    (room : Nat) :
    Quiet (disjunction inner room) := by
  apply quiet_level orOp?
  apply quiet_level andOp?
  apply quiet_prefixed .not (.keyword .notWord)
  apply quiet_level comparisonOp?
  apply quiet_level sumOp?
  apply quiet_level productOp?
  apply quiet_prefixed .neg (.symbol .minus)
  exact quiet_operand hInner

theorem quiet_expressionWithin
    (brackets room : Nat) :
    Quiet (expressionWithin brackets room) := by
  induction brackets generalizing room with
  | zero => exact quiet_tooDeep
  | succ brackets ih =>
      cases room with
      | zero => exact quiet_tooDeep
      | succ room => exact quiet_disjunction ih room

theorem quiet_expression :
    Quiet expression :=
  quiet_expressionWithin maxNesting maxNesting

end Parser

end Gantry
