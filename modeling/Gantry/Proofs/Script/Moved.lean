import Gantry.Fault
import Gantry.Script

/-
  This file moves what was read from a text further down:
  places, spans, tokens, issues and trees keep their columns
  and have their lines counted from somewhere else.

  Key definitions include:
    * `Gantry.Span.down`
    * `Gantry.Span.On`
    * `Gantry.Token.down`
    * `Gantry.Issue.down`
    * `Gantry.Diagnostic.down`
    * `Gantry.Expr.down`
    * `Gantry.Stmt.down`
    * `Gantry.lineByLine`

  Main statements:
    * `Gantry.Span.down_merge`
    * `Gantry.Expr.span_down`
-/

------------------------------------------------------------
-- Places
------------------------------------------------------------

namespace Gantry

/- The place so many lines further down. -/
def Position.down
    (lines : Nat)
    (p : Position) : Position :=
  { p with line := p.line + lines }

theorem Position.down_le_iff
    (lines : Nat)
    (p q : Position) :
    p.down lines ≤ q.down lines ↔ p ≤ q := by
  change AtMost _ _ ↔ AtMost _ _
  simp [AtMost, down]

namespace Span

/- The span so many lines further down. -/
def down
    (lines : Nat)
    (s : Span) : Span :=
  ⟨s.start.down lines, s.stop.down lines⟩

/- A span moves as its parts do. -/
theorem down_merge
    (lines : Nat)
    (s t : Span) :
    (s.merge t).down lines =
      (s.down lines).merge (t.down lines) := by
  unfold merge down Position.first Position.last
  simp only [Position.down_le_iff,
    apply_ite (Position.down lines)]

/- A span that lies on one line. -/
def On
    (line : Nat)
    (s : Span) : Prop :=
  s.start.line = line ∧ s.stop.line = line

theorem on_point
    (line column : Nat) :
    (point line column).On line :=
  ⟨rfl, rfl⟩

theorem On.merge
    {line : Nat}
    {s t : Span}
    (hS : s.On line)
    (hT : t.On line) :
    (s.merge t).On line := by
  unfold Span.merge Position.first Position.last
  constructor
  · dsimp only
    split
    · exact hS.1
    · exact hT.1
  · dsimp only
    split
    · exact hT.2
    · exact hS.2

end Span

/- The token so many lines further down. -/
def Token.down
    (lines : Nat)
    (token : Token) : Token :=
  { token with span := token.span.down lines }

/- The issue so many lines further down. -/
def Issue.down
    (lines : Nat)
    (issue : Issue) : Issue :=
  { issue with span := issue.span.down lines }

/- The diagnostic so many lines further down. -/
def Diagnostic.down
    (lines : Nat)
    (diagnostic : Diagnostic) : Diagnostic :=
  { diagnostic with span := diagnostic.span.down lines }

end Gantry

------------------------------------------------------------
-- Trees
------------------------------------------------------------

namespace Gantry

/- The name so many lines further down. -/
def Ident.down
    (lines : Nat)
    (ident : Ident) : Ident :=
  { ident with span := ident.span.down lines }

mutual

/- The expression so many lines further down. -/
def Expr.down
    (lines : Nat) :
    Expr → Expr
| .literal value span => .literal value (span.down lines)
| .name word span => .name word (span.down lines)
| .list items span =>
    .list (Expr.listDown lines items) (span.down lines)
| .unary op operand span =>
    .unary op (operand.down lines) (span.down lines)
| .binary op left right span =>
    .binary op (left.down lines) (right.down lines)
      (span.down lines)
| .call callee args span =>
    .call (callee.down lines) (Expr.listDown lines args)
      (span.down lines)
| .index object key span =>
    .index (object.down lines) (key.down lines)
      (span.down lines)
| .attr object field span =>
    .attr (object.down lines) (field.down lines)
      (span.down lines)

def Expr.listDown
    (lines : Nat) :
    List Expr → List Expr
| [] => []
| item :: items =>
    item.down lines :: Expr.listDown lines items

end

mutual

/- The statement so many lines further down. -/
def Stmt.down
    (lines : Nat) :
    Stmt → Stmt
| .assign target value span =>
    .assign (target.down lines) (value.down lines)
      (span.down lines)
| .setIndex object key value span =>
    .setIndex (object.down lines) (key.down lines)
      (value.down lines) (span.down lines)
| .branch test body elifs orElse span =>
    .branch (test.down lines) (body.down lines)
      (Elif.listDown lines elifs)
      (Block.elseDown lines orElse) (span.down lines)
| .forLoop target iterable body span =>
    .forLoop (target.down lines) (iterable.down lines)
      (body.down lines) (span.down lines)
| .whileLoop test body span =>
    .whileLoop (test.down lines) (body.down lines)
      (span.down lines)
| .define name params body span =>
    .define (name.down lines)
      (params.map (Ident.down lines)) (body.down lines)
      (span.down lines)
| .returnValue value span =>
    .returnValue (value.map (Expr.down lines))
      (span.down lines)
| .breakLoop span => .breakLoop (span.down lines)
| .continueLoop span => .continueLoop (span.down lines)
| .pass span => .pass (span.down lines)
| .expr expr span =>
    .expr (expr.down lines) (span.down lines)

def Stmt.listDown
    (lines : Nat) :
    List Stmt → List Stmt
| [] => []
| stmt :: stmts =>
    stmt.down lines :: Stmt.listDown lines stmts

def Block.down
    (lines : Nat) :
    Block → Block
| .mk stmts span =>
    .mk (Stmt.listDown lines stmts) (span.down lines)

def Block.elseDown
    (lines : Nat) :
    Option Block → Option Block
| some body => some (body.down lines)
| none => none

def Elif.down
    (lines : Nat) :
    Elif → Elif
| .mk test body span =>
    .mk (test.down lines) (body.down lines)
      (span.down lines)

def Elif.listDown
    (lines : Nat) :
    List Elif → List Elif
| [] => []
| clause :: clauses =>
    clause.down lines :: Elif.listDown lines clauses

end

namespace Expr

theorem span_down
    (lines : Nat)
    (expr : Expr) :
    (expr.down lines).span = expr.span.down lines := by
  cases expr <;> rfl

theorem span_withSpan
    (expr : Expr)
    (span : Span) :
    (expr.withSpan span).span = span := by
  cases expr <;> rfl

theorem down_withSpan
    (lines : Nat)
    (expr : Expr)
    (span : Span) :
    (expr.withSpan span).down lines =
      (expr.down lines).withSpan (span.down lines) := by
  cases expr <;> rfl

end Expr

end Gantry

------------------------------------------------------------
-- Line By Line
------------------------------------------------------------

namespace Gantry

variable {κ α : Type}

/-
  What each line gives on its own, one after the other and
  moved down to its line.
-/
def lineByLine
    (give : κ → List α)
    (move : Nat → α → α)
    (start : Nat)
    (lines : List κ) : List α :=
  (lines.zipIdx start).flatMap fun (line, index) =>
    (give line).map (move index)

theorem lineByLine_cons
    (give : κ → List α)
    (move : Nat → α → α)
    (start : Nat)
    (line : κ)
    (lines : List κ) :
    lineByLine give move start (line :: lines) =
      (give line).map (move start) ++
        lineByLine give move (start + 1) lines := rfl

/- Only what the lines give makes a difference. -/
theorem lineByLine_eq_map
    (give : κ → List α)
    (move : Nat → α → α)
    (start : Nat)
    (lines : List κ) :
    lineByLine give move start lines =
      lineByLine id move start (lines.map give) := by
  induction lines generalizing start with
  | nil => rfl
  | cons line lines ih =>
      rw [List.map_cons, lineByLine_cons, lineByLine_cons, ih]
      rfl

end Gantry
