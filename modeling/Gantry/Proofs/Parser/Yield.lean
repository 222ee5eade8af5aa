import Gantry.Proofs.Parser.Running
import Gantry.Proofs.Script.Shape

/-
  This file follows what holds of every value that a parser
  yields, wherever it is run. A property of the expressions
  that are read is handed on to every expression that stands
  in the script.

  Key definitions include:
    * `Gantry.Parser.Yields`
    * `Gantry.Parser.YieldsBounded`

  Main statements:
    * `Gantry.Parser.Yields.bind`
    * `Gantry.Parser.yieldsBounded`
    * `Gantry.Parser.forall_expressions_of_parse`
-/

------------------------------------------------------------
-- Yielded Values
------------------------------------------------------------

namespace Gantry

namespace Parser

variable
    {α β : Type}
    {parser : Parser α}
    {post : α → Prop}

/- What a parser yields at any cursor is as stated. -/
def Yields
    (parser : Parser α)
    (post : α → Prop) : Prop :=
  ∀ (cursor : Cursor) (value : α),
    (exec parser cursor).1 = some value → post value

theorem yields_pure
    {value : α}
    (hPost : post value) :
    Yields (pure value) post := by
  intro cursor found hFound
  cases hFound
  exact hPost

theorem Yields.bind
    {next : α → Parser β}
    {middle : α → Prop}
    {post : β → Prop}
    (hParser : Yields parser middle)
    (hNext : ∀ value, middle value → Yields (next value) post) :
    Yields (parser >>= next) post := by
  intro cursor found hFound
  rw [exec_bind] at hFound
  cases hExec : exec parser cursor with
  | mk value? after =>
      rw [hExec] at hFound
      cases value? with
      | none => contradiction
      | some value =>
          have hValue := hParser cursor value (by rw [hExec])
          exact hNext value hValue after found hFound

/- A step of which nothing has to be known. -/
theorem Yields.after
    {next : α → Parser β}
    {post : β → Prop}
    (hNext : ∀ value, Yields (next value) post) :
    Yields (parser >>= next) post := by
  have hAny : Yields parser fun _ => True :=
    fun _ _ _ => trivial
  exact hAny.bind fun value _ => hNext value

/- A fault yields nothing. -/
theorem yields_reject
    (fault : Fault)
    (span : Span) :
    Yields (reject fault span) post := by
  intro cursor value hValue
  contradiction

theorem yields_rejectHere
    (fault : Fault) :
    Yields (rejectHere fault) post := by
  intro cursor value hValue
  contradiction

theorem yields_tooDeep :
    Yields tooDeep post :=
  yields_rejectHere _

theorem yields_failure :
    Yields failure post := by
  intro cursor value hValue
  contradiction

end Parser

end Gantry

------------------------------------------------------------
-- Simple Statements
------------------------------------------------------------

namespace Gantry

namespace Parser

section Simple

/-
  A property that every expression has as it is read, and
  keeps whatever text it is said to stand in.
-/
variable
    {holds : Expr → Prop}
    (hExpression : Yields expression holds)
    (hSpan :
      ∀ expr span, holds expr → holds (expr.withSpan span))

theorem yields_passStatement :
    Yields passStatement fun stmt =>
      ∀ expr ∈ stmt.expressions, holds expr := by
  refine Yields.after fun _ => Yields.after fun _ => ?_
  exact yields_pure (by simp [Stmt.expressions])

theorem yields_loopJump
    (context : Context)
    (word : Keyword)
    {make : Span → Stmt}
    (hMake : ∀ span, (make span).expressions = []) :
    Yields (loopJump context word make) fun stmt =>
      ∀ expr ∈ stmt.expressions, holds expr := by
  have hPure :
      ∀ span,
        Yields (pure (make span)) fun stmt =>
          ∀ expr ∈ stmt.expressions, holds expr := by
    intro span
    exact yields_pure (by simp [hMake])
  refine Yields.after fun span => ?_
  dsimp only
  split
  · refine Yields.after fun _ => ?_
    exact Yields.after fun _ => hPure span
  · exact Yields.after fun _ => hPure span

include hSpan in
/-
  What is assigned to is an expression that was read, with
  the text of the whole assignment in place of its own.
-/
theorem forall_expressions_assignment?
    {target value : Expr}
    {stmt : Stmt}
    (hTarget : holds target)
    (hValue : holds value)
    (hStmt : assignment? target value = some stmt) :
    ∀ expr ∈ stmt.expressions, holds expr := by
  unfold assignment? at hStmt
  dsimp only at hStmt
  split at hStmt
  · cases hStmt
    simpa [Stmt.expressions] using hValue
  · cases hStmt
    rw [Stmt.expressions, List.forall_mem_cons,
      List.forall_mem_singleton]
    exact ⟨hSpan _ _ hTarget, hValue⟩
  · contradiction

include hExpression

theorem yields_condition :
    Yields condition holds := by
  refine hExpression.bind fun test hTest => ?_
  exact Yields.after fun _ => yields_pure hTest

theorem yields_returnedValue :
    Yields returnedValue fun value =>
      ∀ expr ∈ value.toList, holds expr := by
  refine Yields.after fun found => ?_
  split
  · exact yields_pure (by simp)
  · exact yields_pure (by simp)
  · exact yields_pure (by simp)
  · refine hExpression.bind fun value hValue => ?_
    exact yields_pure (by simpa using hValue)

theorem yields_returnStatement
    (context : Context) :
    Yields (returnStatement context) fun stmt =>
      ∀ expr ∈ stmt.expressions, holds expr := by
  have hValue := yields_returnedValue hExpression
  refine Yields.after fun start => ?_
  dsimp only
  split
  · refine Yields.after fun _ => ?_
    refine hValue.bind fun value hHolds => ?_
    exact Yields.after fun _ => yields_pure hHolds
  · refine hValue.bind fun value hHolds => ?_
    exact Yields.after fun _ => yields_pure hHolds

include hSpan

theorem yields_exprStatement :
    Yields exprStatement fun stmt =>
      ∀ expr ∈ stmt.expressions, holds expr := by
  refine hExpression.bind fun target hTarget => ?_
  refine Yields.after fun _ => ?_
  split
  · refine Yields.after fun mark => ?_
    refine hExpression.bind fun value hValue => ?_
    split
    · rename_i stmt hStmt
      refine Yields.after fun _ => ?_
      exact yields_pure
        (forall_expressions_assignment? hSpan hTarget hValue
          hStmt)
    · exact yields_reject _ _
  · refine Yields.after fun _ => ?_
    exact yields_pure (by simpa [Stmt.expressions])

end Simple

end Parser

end Gantry

------------------------------------------------------------
-- Blocks
------------------------------------------------------------

namespace Gantry

namespace Parser

/-
  What the five parsers of statements and blocks yield below
  a bound: the property holds of every expression in it.
-/
structure YieldsBounded
    (holds : Expr → Prop)
    (bound : Nat)
    (context : Context) : Prop where
  statement :
    Yields (statement bound context) fun stmt =>
      ∀ expr ∈ stmt.expressions, holds expr
  block :
    Yields (block bound context) fun body =>
      ∀ expr ∈ body.expressions, holds expr
  elifClauses :
    Yields (elifClauses bound context) fun elifs =>
      ∀ expr ∈ Elif.listExpressions elifs, holds expr
  elseClause :
    Yields (elseClause bound context) fun orElse =>
      ∀ expr ∈ Block.elseExpressions orElse, holds expr
  statements :
    ∀ cursor : Cursor,
      ∀ expr ∈ Stmt.listExpressions
        ((statements bound context).run cursor).1,
        holds expr

/- A statement that was read, and those behind it. -/
theorem forall_expressions_goOn
    {holds : Expr → Prop}
    {parser : Parser Stmt}
    {rest : StateM Cursor (List Stmt)}
    (hParser :
      Yields parser fun stmt =>
        ∀ expr ∈ stmt.expressions, holds expr)
    (hRest :
      ∀ cursor : Cursor,
        ∀ expr ∈ Stmt.listExpressions (rest.run cursor).1,
          holds expr)
    (cursor : Cursor) :
    ∀ expr ∈ Stmt.listExpressions
      (goOn rest (exec parser cursor)).1, holds expr := by
  cases hExec : exec parser cursor with
  | mk stmt? after =>
      cases stmt? with
      | none => exact hRest after.synchronized
      | some stmt =>
          have hStmt := hParser cursor stmt (by rw [hExec])
          intro expr hExpr
          rw [goOn, Stmt.listExpressions, List.mem_append]
            at hExpr
          rcases hExpr with hFirst | hLater
          · exact hStmt expr hFirst
          · exact hRest after expr hLater

section Compound

variable
    {holds : Expr → Prop}
    (hExpression : Yields expression holds)
    (hSpan :
      ∀ expr span, holds expr → holds (expr.withSpan span))
    {bound : Nat}
    {context : Context}

include hExpression

theorem yields_elifClauses
    (hBelow : YieldsBounded holds bound context) :
    Yields (elifClauses (bound + 1) context) fun elifs =>
      ∀ expr ∈ Elif.listExpressions elifs, holds expr := by
  unfold elifClauses
  refine Yields.after fun _ => ?_
  split
  · refine Yields.after fun start => ?_
    refine (yields_condition hExpression).bind
      fun test hTest => ?_
    refine hBelow.block.bind fun body hBody => ?_
    refine hBelow.elifClauses.bind fun others hOthers => ?_
    apply yields_pure
    simp only [Elif.listExpressions, Elif.expressions,
      List.cons_append, List.forall_mem_cons,
      List.forall_mem_append]
    exact ⟨hTest, hBody, hOthers⟩
  · exact yields_pure (by simp [Elif.listExpressions])

include hSpan

/- Each kind of statement, by the word it begins with. -/
theorem yields_statement
    (hBlock :
      ∀ context,
        Yields (block bound context) fun body =>
          ∀ expr ∈ body.expressions, holds expr)
    (hBelow : YieldsBounded holds bound context) :
    Yields (statement (bound + 1) context) fun stmt =>
      ∀ expr ∈ stmt.expressions, holds expr := by
  have hCondition := yields_condition hExpression
  unfold statement
  refine Yields.after fun _ => ?_
  split
  · refine Yields.after fun start => ?_
    refine Yields.after fun _ => ?_
    refine Yields.after fun _ => ?_
    exact (hBlock _).bind fun body hBody =>
      yields_pure hBody
  · refine Yields.after fun start => ?_
    refine hCondition.bind fun test hTest => ?_
    refine hBelow.block.bind fun body hBody => ?_
    refine hBelow.elifClauses.bind fun elifs hElifs => ?_
    refine hBelow.elseClause.bind fun orElse hElse => ?_
    apply yields_pure
    simp only [Stmt.expressions, List.forall_mem_cons,
      List.forall_mem_append]
    exact ⟨hTest, hBody, hElifs, hElse⟩
  · refine Yields.after fun start => ?_
    refine Yields.after fun target => ?_
    refine Yields.after fun _ => ?_
    refine hCondition.bind fun iterable hIterable => ?_
    refine (hBlock _).bind fun body hBody => ?_
    apply yields_pure
    rw [Stmt.expressions, List.forall_mem_cons]
    exact ⟨hIterable, hBody⟩
  · refine Yields.after fun start => ?_
    refine hCondition.bind fun test hTest => ?_
    refine (hBlock _).bind fun body hBody => ?_
    apply yields_pure
    rw [Stmt.expressions, List.forall_mem_cons]
    exact ⟨hTest, hBody⟩
  · exact yields_returnStatement hExpression context
  · exact yields_loopJump context _ fun _ => rfl
  · exact yields_loopJump context _ fun _ => rfl
  · exact yields_passStatement
  · exact yields_exprStatement hExpression hSpan

/-
  The parsers of statements and blocks, by induction on the
  bound that they hand to one another.
-/
theorem yieldsBounded
    (bound : Nat)
    (context : Context) :
    YieldsBounded holds bound context := by
  induction bound generalizing context with
  | zero =>
      exact
        { statement := yields_failure
          block := yields_failure
          elifClauses :=
            yields_pure (by simp [Elif.listExpressions])
          elseClause :=
            yields_pure (by simp [Block.elseExpressions])
          statements := by
            intro cursor expr hExpr
            exact absurd hExpr List.not_mem_nil }
  | succ bound ih =>
      refine ⟨?_, ?_, ?_, ?_, ?_⟩
      · exact yields_statement hExpression hSpan
          (fun context => (ih context).block) (ih context)
      · unfold block
        refine Yields.after fun start => ?_
        intro cursor body hBody
        cases hBody
        exact (ih context).statements cursor
      · exact yields_elifClauses hExpression (ih context)
      · unfold elseClause
        refine Yields.after fun _ => ?_
        split
        · refine Yields.after fun _ => ?_
          exact (ih context).block.bind fun body hBody =>
            yields_pure hBody
        · exact yields_pure (by simp [Block.elseExpressions])
      · intro cursor
        rw [run_statements]
        dsimp only
        split
        · simp [Stmt.listExpressions]
        · split
          · simp [Stmt.listExpressions]
          · exact (ih context).statements _
          · exact forall_expressions_goOn
              (ih context).statement
              (ih context).statements _

theorem forall_expressions_topLevel
    (bound : Nat)
    (cursor : Cursor) :
    ∀ expr ∈ Stmt.listExpressions
      ((topLevel bound).run cursor).1, holds expr := by
  induction bound generalizing cursor with
  | zero =>
      intro expr hExpr
      exact absurd hExpr List.not_mem_nil
  | succ bound ih =>
      rw [run_topLevel]
      dsimp only
      split
      · simp [Stmt.listExpressions]
      · split
        · exact ih _
        · exact ih _
        · exact forall_expressions_goOn
            (yieldsBounded hExpression hSpan bound {}).statement
            ih _

/-
  What holds of every expression as it is read holds of every
  expression in a script.
-/
theorem forall_expressions_of_parse
    {tokens : List Token}
    {program : Program}
    (hParse : (parse tokens).program? = some program) :
    ∀ expr ∈ program.expressions, holds expr := by
  rw [parse_eq] at hParse
  dsimp only at hParse
  split at hParse
  · cases hParse
    exact forall_expressions_topLevel hExpression hSpan _ _
  · contradiction

end Compound

end Parser

end Gantry
