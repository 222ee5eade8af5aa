import Gantry.Proofs.Machine.Invariant
import Gantry.Proofs.Number.Negation

/-
  This file says when two expressions mean the same: from
  every machine and in every scope they end alike and leave
  the same machine.

  A number with a sign and the negation of its digits mean
  the same. They still do when calls, indexing or attributes
  follow the digits, and stand outside the sign in the one
  reading and inside the negation in the other: a number can
  be neither called nor indexed and has no attributes, and
  what is wrong is told in the same words.

  Key definitions include:
    * `Gantry.Run.Fails`
    * `Gantry.Expr.SameMeaning`
    * `Gantry.Expr.SuffixClosed`
    * `Gantry.Expr.Stem`

  Main statements:
    * `Gantry.Expr.suffixClosed_sameMeaning`
    * `Gantry.Expr.suffixClosed_stem`
    * `Gantry.Expr.Stem.negated`
-/

------------------------------------------------------------
-- Runs That Fail
------------------------------------------------------------

namespace Gantry

namespace Run

variable {α β : Type}

/- From every machine the run ends in a fault. -/
def Fails
    (run : Run α) : Prop :=
  ∀ machine : Machine,
    ∃ fault after, on run machine = (.error fault, after)

theorem fails_throw
    (fault : RuntimeFault) :
    Fails (throw fault : Run α) :=
  fun machine => ⟨fault, machine, rfl⟩

/- What follows a failure is not reached. -/
theorem Fails.on_bind
    {run : Run α}
    (hFails : run.Fails)
    (rest : α → Run α)
    (machine : Machine) :
    on (run >>= rest) machine = on run machine := by
  rcases hFails machine with ⟨fault, after, hRun⟩
  rw [Run.on_bind, hRun]

theorem Fails.bind
    {run : Run α}
    (hFails : run.Fails)
    (rest : α → Run β) :
    (run >>= rest).Fails := by
  intro machine
  rcases hFails machine with ⟨fault, after, hRun⟩
  exact ⟨fault, after, by rw [Run.on_bind, hRun]⟩

/- Whatever comes first, a failure comes in the end. -/
theorem Fails.after
    (run : Run α)
    {rest : α → Run β}
    (hFails : ∀ value, (rest value).Fails) :
    (run >>= rest).Fails := by
  intro machine
  rw [Run.on_bind]
  rcases on run machine with ⟨outcome, after⟩
  cases outcome with
  | ok value => exact hFails value after
  | error fault => exact ⟨fault, after, rfl⟩

end Run

end Gantry

------------------------------------------------------------
-- Expressions That Mean The Same
------------------------------------------------------------

namespace Gantry

namespace Expr

/-
  Wherever one of the expressions is evaluated, the other one
  gives the same value or fault there, and leaves the same
  output, commands, warnings and lists behind.
-/
def SameMeaning
    (expr other : Expr) : Prop :=
  ∀ (stage : Stage) (enter : Run.Enter) (scopes : Scopes)
    (machine : Machine),
    Run.on (Run.expr stage enter scopes expr) machine =
      Run.on (Run.expr stage enter scopes other) machine

/- The same runs, and not only ones that go alike. -/
theorem SameMeaning.run_eq
    {expr other : Expr}
    (hSame : expr.SameMeaning other)
    (stage : Stage)
    (enter : Run.Enter)
    (scopes : Scopes) :
    Run.expr stage enter scopes expr =
      Run.expr stage enter scopes other :=
  funext fun machine => hSame stage enter scopes machine

/- Expressions that mean the same one by one. -/
def ListSameMeaning :
    List Expr → List Expr → Prop :=
  List.Forall₂ SameMeaning

theorem ListSameMeaning.run_eq
    {items others : List Expr}
    (hSame : ListSameMeaning items others)
    (stage : Stage)
    (enter : Run.Enter)
    (scopes : Scopes) :
    Run.exprs stage enter scopes items =
      Run.exprs stage enter scopes others := by
  induction hSame with
  | nil => rfl
  | cons hFirst _ ih =>
      rw [Run.exprs, Run.exprs, hFirst.run_eq, ih]

variable
    {expr other left right twin last : Expr}
    {items others : List Expr}

/- Where a literal or a name stands makes no difference. -/
theorem sameMeaning_literal
    (value : Literal)
    (span otherSpan : Span) :
    (literal value span).SameMeaning
      (literal value otherSpan) := by
  intro stage enter scopes machine
  rw [Run.expr, Run.expr]

theorem sameMeaning_name
    (word : String)
    (span otherSpan : Span) :
    (name word span).SameMeaning (name word otherSpan) := by
  intro stage enter scopes machine
  rw [Run.expr, Run.expr]

theorem sameMeaning_list
    (hItems : ListSameMeaning items others)
    (span otherSpan : Span) :
    (list items span).SameMeaning
      (list others otherSpan) := by
  intro stage enter scopes machine
  rw [Run.expr, Run.expr, hItems.run_eq]

theorem sameMeaning_unary
    (op : UnaryOp)
    (hOperand : expr.SameMeaning other)
    (span otherSpan : Span) :
    (unary op expr span).SameMeaning
      (unary op other otherSpan) := by
  intro stage enter scopes machine
  rw [Run.expr, Run.expr, hOperand.run_eq]

theorem sameMeaning_binary
    (op : BinaryOp)
    (hLeft : left.SameMeaning twin)
    (hRight : right.SameMeaning last)
    (span otherSpan : Span) :
    (binary op left right span).SameMeaning
      (binary op twin last otherSpan) := by
  intro stage enter scopes machine
  rw [Run.expr, Run.expr, hLeft.run_eq, hRight.run_eq]

theorem sameMeaning_withSpan
    (expr : Expr)
    (span : Span) :
    (expr.withSpan span).SameMeaning expr := by
  intro stage enter scopes machine
  cases expr <;> rw [withSpan, Run.expr, Run.expr]

theorem SameMeaning.withSpan
    (hSame : expr.SameMeaning other)
    (span otherSpan : Span) :
    (expr.withSpan span).SameMeaning
      (other.withSpan otherSpan) := by
  intro stage enter scopes machine
  rw [sameMeaning_withSpan expr span,
    sameMeaning_withSpan other otherSpan]
  exact hSame stage enter scopes machine

/-
  What stays true of two expressions when both are called,
  indexed or asked for an attribute in ways that mean the
  same.
-/
structure SuffixClosed
    (pair : Expr → Expr → Prop) : Prop where
  call :
    ∀ {expr other : Expr} {args others : List Expr},
      pair expr other → ListSameMeaning args others →
        ∀ span otherSpan,
          pair (.call expr args span)
            (.call other others otherSpan)
  index :
    ∀ {expr other key otherKey : Expr},
      pair expr other → key.SameMeaning otherKey →
        ∀ span otherSpan,
          pair (.index expr key span)
            (.index other otherKey otherSpan)
  attr :
    ∀ {expr other : Expr} {field otherField : Ident},
      pair expr other → field.name = otherField.name →
        ∀ span otherSpan,
          pair (.attr expr field span)
            (.attr other otherField otherSpan)

theorem suffixClosed_sameMeaning :
    SuffixClosed SameMeaning where
  call hCallee hArgs span otherSpan := by
    intro stage enter scopes machine
    rw [Run.expr, Run.expr, hCallee.run_eq, hArgs.run_eq]
  index hObject hKey span otherSpan := by
    intro stage enter scopes machine
    rw [Run.expr, Run.expr, hObject.run_eq, hKey.run_eq]
  attr hObject hField span otherSpan := by
    intro stage enter scopes machine
    rw [Run.expr, Run.expr, hObject.run_eq, hField]

end Expr

end Gantry

------------------------------------------------------------
-- Numbers With A Sign
------------------------------------------------------------

namespace Gantry

namespace Expr

/- The expression never has a value. -/
def Fails
    (expr : Expr) : Prop :=
  ∀ (stage : Stage) (enter : Run.Enter) (scopes : Scopes),
    (Run.expr stage enter scopes expr).Fails

variable
    {signed digits : Numeral}
    {expr other : Expr}

/- What has no value has none with a suffix either. -/
theorem Fails.call
    (hFails : expr.Fails)
    (args : List Expr)
    (span : Span) :
    (call expr args span).Fails := by
  intro stage enter scopes
  rw [Run.expr]
  exact (hFails stage enter scopes).bind _

theorem Fails.index
    (hFails : expr.Fails)
    (key : Expr)
    (span : Span) :
    (index expr key span).Fails := by
  intro stage enter scopes
  rw [Run.expr]
  exact (hFails stage enter scopes).bind _

theorem Fails.attr
    (hFails : expr.Fails)
    (field : Ident)
    (span : Span) :
    (attr expr field span).Fails := by
  intro stage enter scopes
  rw [Run.expr]
  exact (hFails stage enter scopes).bind _

/- A number has no suffix. -/
theorem fails_call_number
    (numeral : Numeral)
    (args : List Expr)
    (place span : Span) :
    (call (literal (.number numeral) place) args
      span).Fails := by
  intro stage enter scopes
  simp only [Run.expr, Run.literal, pure_bind, Run.call]
  exact Run.Fails.after _ fun _ => Run.fails_throw _

theorem fails_index_number
    (numeral : Numeral)
    (key : Expr)
    (place span : Span) :
    (index (literal (.number numeral) place) key
      span).Fails := by
  intro stage enter scopes
  simp only [Run.expr, Run.literal, pure_bind, Run.index,
    Run.mismatch]
  exact Run.Fails.after _ fun _ => Run.fails_throw _

theorem fails_attr_number
    (numeral : Numeral)
    (field : Ident)
    (place span : Span) :
    (attr (literal (.number numeral) place) field
      span).Fails := by
  intro stage enter scopes
  simp only [Run.expr, Run.literal, pure_bind, Run.attr,
    Run.length?, Value.method?]
  refine Run.Fails.after _ fun _ => ?_
  split
  · contradiction
  · exact Run.fails_throw _

/-
  A number with a sign and its digits without it, with the
  same suffixes behind them. With any suffix both fail, and
  in the same way.
-/
inductive Stem
    (signed digits : Numeral) :
    Expr → Expr → Prop where
  | literal
      (span otherSpan : Span) :
      Stem signed digits (.literal (.number signed) span)
        (.literal (.number digits) otherSpan)
  | fails
      {expr other : Expr}
      (hSame : expr.SameMeaning other)
      (hFails : other.Fails) :
      Stem signed digits expr other

/- A number of either sign is called the same. -/
theorem typeName_signed
    (hSigned : signed.value = -digits.value) :
    (Value.number signed.value).typeName =
      (Value.number digits.value).typeName := by
  rw [hSigned, Value.typeName_neg]

theorem suffixClosed_stem
    (hSigned : signed.value = -digits.value) :
    SuffixClosed (Stem signed digits) where
  call := by
    intro expr other args others hStem hArgs span otherSpan
    cases hStem with
    | fails hSame hFails =>
        exact .fails
          (suffixClosed_sameMeaning.call hSame hArgs span
            otherSpan)
          (hFails.call others otherSpan)
    | literal =>
        refine .fails ?_ (fails_call_number digits others _ _)
        intro stage enter scopes machine
        simp only [Run.expr, Run.literal, pure_bind,
          Run.call, typeName_signed hSigned, hArgs.run_eq]
  index := by
    intro expr other key otherKey hStem hKey span otherSpan
    cases hStem with
    | fails hSame hFails =>
        exact .fails
          (suffixClosed_sameMeaning.index hSame hKey span
            otherSpan)
          (hFails.index otherKey otherSpan)
    | literal =>
        refine .fails ?_
          (fails_index_number digits otherKey _ _)
        intro stage enter scopes machine
        simp only [Run.expr, Run.literal, pure_bind,
          Run.index, Run.mismatch, typeName_signed hSigned,
          hKey.run_eq]
  attr := by
    intro expr other field otherField hStem hField span
      otherSpan
    cases hStem with
    | fails hSame hFails =>
        exact .fails
          (suffixClosed_sameMeaning.attr hSame hField span
            otherSpan)
          (hFails.attr otherField otherSpan)
    | literal =>
        refine .fails ?_
          (fails_attr_number digits otherField _ _)
        intro stage enter scopes machine
        simp only [Run.expr, Run.literal, pure_bind,
          Run.attr, Run.length?, Value.method?,
          typeName_signed hSigned, hField]

/- The sign may as well be an operator. -/
theorem Stem.negated
    (hStem : Stem signed digits expr other)
    (hSigned : signed.value = -digits.value)
    (span : Span) :
    expr.SameMeaning (.unary .neg other span) := by
  intro stage enter scopes machine
  cases hStem with
  | literal =>
      simp only [Run.expr, Run.literal, pure_bind, Run.unary,
        Value.asNumber?, hSigned]
  | fails hSame hFails =>
      rw [Run.expr, (hFails stage enter scopes).on_bind]
      exact hSame stage enter scopes machine

end Expr

end Gantry
