import Gantry.Proofs.Token.Order

/-
  This file says when the spans of a script's tree nest:
  every node covers its parts, and its parts stand one
  behind the other without sharing a character.

  Key definitions include:
    * `Gantry.Span.Encloses`
    * `Gantry.Expr.Nested`
    * `Gantry.Stmt.Nested`
    * `Gantry.Program.Nested`

  Main statements:
    * `Gantry.Span.encloses_merge`
    * `Gantry.Span.Encloses.refine`
    * `Gantry.Expr.nested_withSpan`
-/

------------------------------------------------------------
-- Parts Of A Span
------------------------------------------------------------

namespace Gantry

namespace Span

/-
  The parts lie in the whole, and each of them ends before
  the ones behind it start.
-/
structure Encloses
    (whole : Span)
    (parts : List Span) : Prop where
  proper : whole.Proper
  parts_proper : ∀ part ∈ parts, part.Proper
  covers :
    ∀ part ∈ parts,
      whole.start ≤ part.start ∧ part.stop ≤ whole.stop
  ordered : parts.Pairwise Before

theorem encloses_nil
    {whole : Span} :
    whole.Encloses [] ↔ whole.Proper :=
  ⟨Encloses.proper,
    fun hProper => ⟨hProper, by simp, by simp, .nil⟩⟩

theorem encloses_self
    {span : Span}
    (hProper : span.Proper) :
    span.Encloses [span] := by
  refine ⟨hProper, by simpa using hProper, ?_,
    List.pairwise_singleton _ _⟩
  rw [List.forall_mem_singleton]
  exact ⟨Position.le_refl _, Position.le_refl _⟩

/- Parts may be left out. -/
theorem Encloses.sublist
    {whole : Span}
    {parts fewer : List Span}
    (hWhole : whole.Encloses parts)
    (hFewer : fewer.Sublist parts) :
    whole.Encloses fewer where
  proper := hWhole.proper
  parts_proper part hPart :=
    hWhole.parts_proper part (hFewer.mem hPart)
  covers part hPart := hWhole.covers part (hFewer.mem hPart)
  ordered := hWhole.ordered.sublist hFewer

theorem Encloses.tail
    {whole first : Span}
    {rest : List Span}
    (hWhole : whole.Encloses (first :: rest)) :
    whole.Encloses rest :=
  hWhole.sublist (List.sublist_cons_self first rest)

/- The first part may be replaced by parts of its own. -/
theorem Encloses.refine
    {whole first : Span}
    {inner rest : List Span}
    (hWhole : whole.Encloses (first :: rest))
    (hFirst : first.Encloses inner) :
    whole.Encloses (inner ++ rest) := by
  have hCovers := hWhole.covers first List.mem_cons_self
  have hOrdered := List.pairwise_cons.mp hWhole.ordered
  refine ⟨hWhole.proper, ?_, ?_, ?_⟩
  · exact List.forall_mem_append.mpr
      ⟨hFirst.parts_proper,
        (List.forall_mem_cons.mp hWhole.parts_proper).2⟩
  · refine List.forall_mem_append.mpr
      ⟨fun part hPart => ?_,
        (List.forall_mem_cons.mp hWhole.covers).2⟩
    have hPart := hFirst.covers part hPart
    exact ⟨Position.le_trans hCovers.1 hPart.1,
      Position.le_trans hPart.2 hCovers.2⟩
  · refine List.pairwise_append.mpr
      ⟨hFirst.ordered, hOrdered.2, ?_⟩
    intro part hPart later hLater
    exact Position.lt_of_le_of_lt
      (hFirst.covers part hPart).2 (hOrdered.1 later hLater)

/-
  Spans one behind the other: what covers the first and the
  last of them encloses them all.
-/
theorem encloses_merge
    {first last : Span}
    {inner : List Span}
    (hProper :
      ∀ span ∈ first :: inner ++ [last], span.Proper)
    (hOrdered :
      (first :: inner ++ [last]).Pairwise Before) :
    first.Before last ∧
      (first.merge last).Encloses
        (first :: inner ++ [last]) := by
  rw [List.cons_append] at *
  have hFirst := List.pairwise_cons.mp hOrdered
  have hInner := List.pairwise_append.mp hFirst.2
  have hStart := hProper first List.mem_cons_self
  have hStop := hProper last (by simp)
  have hBoth : first.Before last :=
    hFirst.1 last (by simp)
  refine ⟨hBoth, ?_⟩
  rw [hBoth.merge_eq hStart hStop]
  refine ⟨?_, hProper, ?_, hOrdered⟩
  · exact Position.le_trans hStart
      (Position.le_of_lt (hBoth.stop_lt hStop))
  · intro part hPart
    constructor
    · rcases List.mem_cons.mp hPart with rfl | hLater
      · exact Position.le_refl _
      · exact Position.le_of_lt
          ((hFirst.1 part hLater).start_lt hStart)
    · rcases List.mem_cons.mp hPart with rfl | hLater
      · exact Position.le_of_lt (hBoth.stop_lt hStop)
      · rcases List.mem_append.mp hLater with hMid | hLast
        · have hBefore :=
            hInner.2.2 part hMid last List.mem_cons_self
          exact Position.le_of_lt (hBefore.stop_lt hStop)
        · rw [List.mem_singleton.mp hLast]
          exact Position.le_refl _

end Span

end Gantry

------------------------------------------------------------
-- Expressions
------------------------------------------------------------

namespace Gantry

mutual

/- The spans of an expression and of all parts of it nest. -/
def Expr.Nested :
    Expr → Prop
| .literal _ span => span.Encloses []
| .name _ span => span.Encloses []
| .list items span =>
    span.Encloses (items.map Expr.span) ∧
      Expr.ListNested items
| .unary _ operand span =>
    span.Encloses [operand.span] ∧ operand.Nested
| .binary _ left right span =>
    span.Encloses [left.span, right.span] ∧
      left.Nested ∧ right.Nested
| .call callee args span =>
    span.Encloses (callee.span :: args.map Expr.span) ∧
      callee.Nested ∧ Expr.ListNested args
| .index object key span =>
    span.Encloses [object.span, key.span] ∧
      object.Nested ∧ key.Nested
| .attr object field span =>
    span.Encloses [object.span, field.span] ∧ object.Nested

def Expr.ListNested :
    List Expr → Prop
| [] => True
| item :: items => item.Nested ∧ Expr.ListNested items

end

/- A wider text leaves the parts where they are. -/
theorem Expr.nested_withSpan
    {expr : Expr}
    {before after : Span}
    (hExpr : expr.Nested)
    (hWider :
      (before.merge after).Encloses
        [before, expr.span, after]) :
    (expr.withSpan (before.merge after)).Nested := by
  have hSpan :
      (before.merge after).Encloses [expr.span] :=
    hWider.sublist
      ((List.nil_sublist [after]).cons_cons expr.span
        |>.cons before)
  have hParts :
      ∀ parts, expr.span.Encloses parts →
        (before.merge after).Encloses parts := by
    intro parts hInner
    simpa using hSpan.refine hInner
  cases expr with
  | literal value span => exact hParts _ hExpr
  | name word span => exact hParts _ hExpr
  | list items span => exact ⟨hParts _ hExpr.1, hExpr.2⟩
  | unary op operand span =>
      exact ⟨hParts _ hExpr.1, hExpr.2⟩
  | binary op left right span =>
      exact ⟨hParts _ hExpr.1, hExpr.2⟩
  | call callee args span =>
      exact ⟨hParts _ hExpr.1, hExpr.2⟩
  | index object key span =>
      exact ⟨hParts _ hExpr.1, hExpr.2⟩
  | attr object field span =>
      exact ⟨hParts _ hExpr.1, hExpr.2⟩

end Gantry

------------------------------------------------------------
-- Statements
------------------------------------------------------------

namespace Gantry

mutual

/- The spans of a statement and of all parts of it nest. -/
def Stmt.Nested :
    Stmt → Prop
| .assign target value span =>
    span.Encloses [target.span, value.span] ∧ value.Nested
| .setIndex object key value span =>
    span.Encloses [object.span, key.span, value.span] ∧
      object.Nested ∧ key.Nested ∧ value.Nested
| .branch test body elifs orElse span =>
    span.Encloses
        (test.span :: body.span :: elifs.map Elif.span ++
          orElse.toList.map Block.span) ∧
      test.Nested ∧ body.Nested ∧ Elif.ListNested elifs ∧
        Block.ElseNested orElse
| .forLoop target iterable body span =>
    span.Encloses
        [target.span, iterable.span, body.span] ∧
      iterable.Nested ∧ body.Nested
| .whileLoop test body span =>
    span.Encloses [test.span, body.span] ∧
      test.Nested ∧ body.Nested
| .define name params body span =>
    span.Encloses
        (name.span :: params.map Ident.span ++
          [body.span]) ∧
      body.Nested
| .returnValue value span =>
    span.Encloses (value.toList.map Expr.span) ∧
      Expr.ListNested value.toList
| .breakLoop span => span.Encloses []
| .continueLoop span => span.Encloses []
| .pass span => span.Encloses []
| .expr expr span => span.Encloses [expr.span] ∧ expr.Nested

def Stmt.ListNested :
    List Stmt → Prop
| [] => True
| stmt :: stmts => stmt.Nested ∧ Stmt.ListNested stmts

def Block.Nested :
    Block → Prop
| .mk stmts span =>
    span.Encloses (stmts.map Stmt.span) ∧
      Stmt.ListNested stmts

def Block.ElseNested :
    Option Block → Prop
| some body => body.Nested
| none => True

def Elif.Nested :
    Elif → Prop
| .mk test body span =>
    span.Encloses [test.span, body.span] ∧
      test.Nested ∧ body.Nested

def Elif.ListNested :
    List Elif → Prop
| [] => True
| clause :: clauses =>
    clause.Nested ∧ Elif.ListNested clauses

end

/- The spans of a script and of all parts of it nest. -/
def Program.Nested
    (program : Program) : Prop :=
  program.span.Encloses (program.body.map Stmt.span) ∧
    Stmt.ListNested program.body

end Gantry
