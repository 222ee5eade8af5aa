import Gantry.Proofs.Parser.ReadingStatements

/-
  This file shows that every well-formed script is read back
  from its tokens. What comes back is the same tree apart
  from its spans, or else the first thing reported is that
  an expression is nested too deep. The latter needs an
  expression with as many tokens as levels may nest.

  Key definitions include:
    * `Gantry.Parser.EndsBranch`
    * `Gantry.Parser.ReadsStmt`
    * `Gantry.Parser.ReadsBounded`

  Main statements:
    * `Gantry.Parser.readsStmt`
    * `Gantry.Parser.readsBounded`
    * `Gantry.Parser.reads_topLevel`
    * `Gantry.Parser.parse_render`
-/

------------------------------------------------------------
-- Statements And Blocks
------------------------------------------------------------

namespace Gantry

namespace Parser

variable {roomy : Prop}

/- No clause of the branch before goes on with the tokens. -/
def EndsBranch
    (kinds : List TokenKind) : Prop :=
  kinds.headD .endOfFile ≠ .keyword .elifWord ∧
    kinds.headD .endOfFile ≠ .keyword .elseWord

/-
  A statement is read back where it fits, if the bound covers
  the tokens at hand.
-/
def ReadsStmt
    (roomy : Prop)
    (bound : Nat)
    (context : Context)
    (stmt : Stmt)
    (follow : List TokenKind) : Prop :=
  stmt.WellFormed context → EndsBranch follow →
    (roomy → Small stmt.expressions) →
    2 * (stmt.render ++ follow).length < bound →
      Reads roomy (statement bound context) stmt.render
        follow fun found => found.erase = stmt.erase

/-
  The five parsers of statements and blocks read what was
  rendered, if their bound covers the tokens at hand.
-/
structure ReadsBounded
    (roomy : Prop)
    (bound : Nat) : Prop where
  statement :
    ∀ (context : Context) (stmt : Stmt)
      (follow : List TokenKind),
      ReadsStmt roomy bound context stmt follow
  block :
    ∀ (context : Context) (body : Block)
      (follow : List TokenKind),
      body.WellFormed context →
      (roomy → Small body.expressions) →
      2 * (body.render ++ follow).length < bound →
        Reads roomy (block bound context) body.render
          follow fun found => found.erase = body.erase
  elifClauses :
    ∀ (context : Context) (elifs : List Elif)
      (follow : List TokenKind),
      Elif.ListWellFormed context elifs →
      follow.headD .endOfFile ≠ .keyword .elifWord →
      (roomy → Small (Elif.listExpressions elifs)) →
      2 * (Elif.listRender elifs ++ follow).length < bound →
        Reads roomy (elifClauses bound context)
          (Elif.listRender elifs) follow fun found =>
            Elif.listErase found = Elif.listErase elifs
  elseClause :
    ∀ (context : Context) (orElse : Option Block)
      (follow : List TokenKind),
      Block.ElseWellFormed context orElse →
      follow.headD .endOfFile ≠ .keyword .elseWord →
      (roomy → Small (Block.elseExpressions orElse)) →
      2 * (Block.elseRender orElse ++ follow).length <
        bound →
        Reads roomy (elseClause bound context)
          (Block.elseRender orElse) follow fun found =>
            Block.elseErase found = Block.elseErase orElse
  statements :
    ∀ (context : Context) (stmts : List Stmt)
      (follow : List TokenKind),
      Stmt.ListWellFormed context stmts →
      (roomy → Small (Stmt.listExpressions stmts)) →
      2 * (Stmt.listRender stmts ++ .dedent :: follow).length
          + 1 < bound →
        Reads roomy (liftM (statements bound context))
          (Stmt.listRender stmts ++ [.dedent]) follow
          fun found =>
            Stmt.listErase found = Stmt.listErase stmts

variable
    {bound : Nat}
    {context : Context}
    {follow : List TokenKind}

theorem reads_block
    (hBelow : ReadsBounded roomy bound)
    (body : Block)
    (hForm : body.WellFormed context)
    (hRoom : roomy → Small body.expressions)
    (hBound :
      2 * (body.render ++ follow).length < bound + 1) :
    Reads roomy (block (bound + 1) context) body.render
      follow fun found => found.erase = body.erase := by
  rcases body with ⟨stmts, span⟩
  rw [Block.render] at hBound ⊢
  simp only [List.length_append, List.length_cons,
    List.length_nil] at hBound
  unfold block
  apply Reads.blockStart_bind
  intro start
  apply Reads.map
    (hBelow.statements context stmts follow hForm.2 hRoom ?_)
  · intro found hFound
    rw [Block.erase, Block.erase, hFound]
  · simp only [List.length_append, List.length_cons]
    omega

theorem reads_elifClauses
    (hBelow : ReadsBounded roomy bound)
    (elifs : List Elif)
    (hForm : Elif.ListWellFormed context elifs)
    (hFollow :
      follow.headD .endOfFile ≠ .keyword .elifWord)
    (hRoom : roomy → Small (Elif.listExpressions elifs))
    (hBound :
      2 * (Elif.listRender elifs ++ follow).length <
        bound + 1) :
    Reads roomy (elifClauses (bound + 1) context)
      (Elif.listRender elifs) follow fun found =>
        Elif.listErase found = Elif.listErase elifs := by
  have gBlock := (grows_bounded bound context).2.1
  have gElifs := (grows_bounded bound context).2.2.1
  unfold elifClauses
  cases elifs with
  | nil =>
      rw [Elif.listRender]
      apply Reads.check_bind _ rfl
      rw [List.nil_append, beq_eq_false_iff_ne.mpr hFollow]
      exact reads_pure rfl
  | cons clause elifs =>
      rcases clause with ⟨test, body, span⟩
      rcases hForm with ⟨hBody, hElifs⟩
      have hTokens :
          Elif.listRender (.mk test body span :: elifs) =
            .keyword .elifWord ::
              (test.render ++
                .symbol .colon ::
                  (body.render ++
                    Elif.listRender elifs)) := by
        simp [Elif.listRender, Elif.render]
      rw [hTokens] at hBound ⊢
      simp only [List.length_append, List.length_cons]
        at hBound
      simp only [Elif.listExpressions, Elif.expressions,
        small_append, small_cons] at hRoom
      apply Reads.check_bind _ rfl
      apply Reads.advance_bind
      intro start
      apply Reads.condition_bind
      · intro hRoomy
        exact (hRoom hRoomy).1.1
      · intro found
        refine gBlock.bind fun _ => ?_
        exact gElifs.bind fun _ => grows_pure _
      · intro test' hTest
        refine Reads.bind
          (hBelow.block context body _ hBody ?_ ?_) ?_ ?_
        · intro hRoomy
          exact (hRoom hRoomy).1.2
        · simp only [List.length_append]
          omega
        · intro _
          exact gElifs.bind fun _ => grows_pure _
        · intro body' hBody'
          apply Reads.map
            (hBelow.elifClauses context elifs follow hElifs
              hFollow ?_ ?_)
          · intro others hOthers
            simp [Elif.listErase, Elif.erase, hTest, hBody',
              hOthers]
          · intro hRoomy
            exact (hRoom hRoomy).2
          · simp only [List.length_append]
            omega

theorem reads_elseClause
    (hBelow : ReadsBounded roomy bound)
    (orElse : Option Block)
    (hForm : Block.ElseWellFormed context orElse)
    (hFollow :
      follow.headD .endOfFile ≠ .keyword .elseWord)
    (hRoom : roomy → Small (Block.elseExpressions orElse))
    (hBound :
      2 * (Block.elseRender orElse ++ follow).length <
        bound + 1) :
    Reads roomy (elseClause (bound + 1) context)
      (Block.elseRender orElse) follow fun found =>
        Block.elseErase found = Block.elseErase orElse := by
  have gBlock := (grows_bounded bound context).2.1
  unfold elseClause
  cases orElse with
  | none =>
      rw [Block.elseRender]
      apply Reads.eat_bind_other
      · exact hFollow
      · exact reads_pure rfl
  | some body =>
      rw [Block.elseRender] at hBound ⊢
      simp only [List.length_append, List.length_cons]
        at hBound
      apply Reads.eat_bind
      apply Reads.expect_bind
      intro _
      apply Reads.map
        (hBelow.block context body follow hForm hRoom ?_)
      · intro found hFound
        rw [Block.elseErase, Block.elseErase, hFound]
      · simp only [List.length_append]
        omega

/- The next statement is no clause of the one before. -/
theorem endsBranch_listRender
    {kind : TokenKind}
    (hKind : EndsBranch (kind :: follow))
    (stmts : List Stmt) :
    EndsBranch (Stmt.listRender stmts ++ kind :: follow) := by
  cases stmts with
  | nil => exact hKind
  | cons stmt stmts =>
      rcases stmt.starts_render with
        ⟨first, rest, hTokens, hStarts⟩
      rw [Stmt.listRender, hTokens]
      constructor
      · rintro rfl
        contradiction
      · rintro rfl
        contradiction

/- A token at which neither a list nor a block ends. -/
def GoesOn
    (kind : TokenKind) : Prop :=
  kind ≠ .newline ∧ kind ≠ .endOfFile ∧
    kind ≠ .dedent ∧ kind ≠ .indent

theorem goesOn_of_startsStmt
    {kind : TokenKind}
    (hStarts : kind.startsStmt = true) :
    GoesOn kind := by
  refine ⟨?_, ?_, ?_, ?_⟩
  all_goals
    rintro rfl
    contradiction

theorem run_statements_goOn
    {cursor : Cursor}
    (hLog : cursor.log = Log.empty)
    (hKind : GoesOn cursor.kind) :
    (statements (bound + 1) context).run cursor =
      goOn (statements bound context)
        (exec (statement bound context) cursor) := by
  rcases hKind with ⟨hNewline, hEnd, hDedent, hIndent⟩
  rw [run_statements, Cursor.pastNewlines_of_kind hNewline]
  dsimp only
  rw [hLog, Log.isFull_empty, Bool.false_or, Cursor.atEnd,
    beq_eq_false_iff_ne.mpr hEnd, if_neg Bool.false_ne_true]
  split
  · contradiction
  · contradiction
  · rfl

theorem run_topLevel_goOn
    {cursor : Cursor}
    (hLog : cursor.log = Log.empty)
    (hKind : GoesOn cursor.kind) :
    (topLevel (bound + 1)).run cursor =
      goOn (topLevel bound)
        (exec (statement bound {}) cursor) := by
  rcases hKind with ⟨hNewline, hEnd, hDedent, hIndent⟩
  rw [run_topLevel, Cursor.pastNewlines_of_kind hNewline]
  dsimp only
  rw [hLog, Log.isFull_empty, Bool.false_or, Cursor.atEnd,
    beq_eq_false_iff_ne.mpr hEnd, if_neg Bool.false_ne_true]
  split
  · contradiction
  · contradiction
  · rfl

theorem reads_statements
    (hBelow : ReadsBounded roomy bound)
    (stmts : List Stmt)
    (hForm : Stmt.ListWellFormed context stmts)
    (hRoom : roomy → Small (Stmt.listExpressions stmts))
    (hBound :
      2 * (Stmt.listRender stmts ++ .dedent :: follow).length
        < bound) :
    Reads roomy (liftM (statements (bound + 1) context))
      (Stmt.listRender stmts ++ [.dedent]) follow
      fun found =>
        Stmt.listErase found = Stmt.listErase stmts := by
  intro cursor hLog hKinds
  rw [List.append_assoc] at hKinds
  have hFirst := cursor.kind_eq_headD
  rw [hKinds] at hFirst
  rw [exec_lift]
  cases stmts with
  | nil =>
      have hDedent : cursor.kind = .dedent := hFirst
      rw [run_statements,
        Cursor.pastNewlines_of_kind (by rw [hDedent]; simp)]
      dsimp only
      rw [hLog, Log.isFull_empty, Bool.false_or,
        Cursor.atEnd, hDedent]
      exact gives_some (by simpa using hLog)
        ⟨rfl, Cursor.kinds_next hKinds⟩
  | cons stmt stmts =>
      rcases hForm with ⟨hStmt, hStmts⟩
      rcases stmt.starts_render with
        ⟨kind, rest, hTokens, hStarts⟩
      have hKind : cursor.kind = kind := by
        rw [hFirst, Stmt.listRender, hTokens]
        rfl
      have hPos : 0 < stmt.render.length := by
        rw [hTokens]
        exact Nat.succ_pos _
      rw [Stmt.listRender, List.append_assoc] at hKinds hBound
      simp only [Stmt.listExpressions, small_append] at hRoom
      rw [run_statements_goOn hLog
        (by rw [hKind]; exact goesOn_of_startsStmt hStarts)]
      refine gives_goOn lasting_crowded
        (grows_bounded bound context).2.2.2.2
        (hBelow.statement context stmt _ hStmt ?_ ?_ hBound
          cursor hLog hKinds) ?_
      · exact endsBranch_listRender
          ⟨by simp, by simp⟩ stmts
      · intro hRoomy
        exact (hRoom hRoomy).1
      · rintro found after hAfter ⟨hFound, hRest⟩
        rw [List.length_append] at hBound
        refine (hBelow.statements context stmts follow hStmts
          ?_ (by omega) after hAfter ?_).imp ?_
        · intro hRoomy
          exact (hRoom hRoomy).2
        · rw [hRest, List.append_assoc]
          rfl
        · rintro others last ⟨hOthers, hLast⟩
          refine ⟨?_, hLast⟩
          simp only [Stmt.listErase, hFound, hOthers]

/- A line that begins with an expression. -/
theorem reads_statement_expr
    {kind : TokenKind}
    {kinds : List TokenKind}
    {post : Stmt → Prop}
    (hHead : (kinds ++ follow).headD .endOfFile = kind)
    (hStarts : kind.startsExpr = true)
    (hRead : Reads roomy exprStatement kinds follow post) :
    Reads roomy (statement (bound + 1) context) kinds follow
      post := by
  unfold statement
  apply Reads.peek_bind hHead
  split
  all_goals first | contradiction | exact hRead

theorem readsStmt_branch
    (hBelow : ReadsBounded roomy bound)
    (test : Expr)
    (body : Block)
    (elifs : List Elif)
    (orElse : Option Block)
    (span : Span) :
    ReadsStmt roomy (bound + 1) context
      (.branch test body elifs orElse span) follow := by
  intro hForm hFollow hRoom hBound
  rcases hForm with ⟨hBody, hElifs, hElse⟩
  have gBlock := (grows_bounded bound context).2.1
  have gElifs := (grows_bounded bound context).2.2.1
  have gElse := (grows_bounded bound context).2.2.2.1
  rw [Stmt.render] at hBound ⊢
  simp only [List.length_append, List.length_cons] at hBound
  simp only [Stmt.expressions, small_append, small_cons]
    at hRoom
  have hBehind :
      (Block.elseRender orElse ++ follow).headD .endOfFile ≠
        .keyword .elifWord := by
    cases orElse with
    | none => exact hFollow.1
    | some other => simp [Block.elseRender]
  unfold statement
  apply Reads.peek_bind rfl
  apply Reads.advance_bind
  intro start
  apply Reads.condition_bind
  · intro hRoomy
    exact (hRoom hRoomy).1
  · intro _
    refine gBlock.bind fun _ => gElifs.bind fun _ => ?_
    exact gElse.bind fun _ => grows_pure _
  · intro test' hTest
    refine Reads.bind
      (hBelow.block context body _ hBody ?_ ?_) ?_ ?_
    · intro hRoomy
      exact (hRoom hRoomy).2.1
    · simp only [List.length_append]
      omega
    · intro _
      refine gElifs.bind fun _ => ?_
      exact gElse.bind fun _ => grows_pure _
    · intro body' hBody'
      refine Reads.bind
        (hBelow.elifClauses context elifs _ hElifs hBehind
          ?_ ?_) ?_ ?_
      · intro hRoomy
        exact (hRoom hRoomy).2.2.1
      · simp only [List.length_append]
        omega
      · intro _
        exact gElse.bind fun _ => grows_pure _
      · intro elifs' hElifs'
        apply Reads.map
          (hBelow.elseClause context orElse follow hElse
            hFollow.2 ?_ ?_)
        · intro orElse' hElse'
          simp only [Stmt.erase, hTest, hBody', hElifs',
            hElse']
        · intro hRoomy
          exact (hRoom hRoomy).2.2.2
        · simp only [List.length_append]
          omega

theorem readsStmt_forLoop
    (hBelow : ReadsBounded roomy bound)
    (target : Ident)
    (iterable : Expr)
    (body : Block)
    (span : Span) :
    ReadsStmt roomy (bound + 1) context
      (.forLoop target iterable body span) follow := by
  intro hForm hFollow hRoom hBound
  have gBlock :=
    fun context => (grows_bounded bound context).2.1
  rw [Stmt.render] at hBound ⊢
  rw [Stmt.expressions, small_cons] at hRoom
  simp only [List.length_append, List.length_cons]
    at hBound
  unfold statement
  apply Reads.peek_bind rfl
  apply Reads.advance_bind
  intro start
  apply Reads.identifier_bind
  intro place
  apply Reads.expect_bind
  intro _
  apply Reads.condition_bind
  · intro hRoomy
    exact (hRoom hRoomy).1
  · intro _
    exact (gBlock _).bind fun _ => grows_pure _
  · intro iterable' hIterable
    apply Reads.map
      (hBelow.block _ body follow hForm ?_ ?_)
    · intro body' hBody
      simp only [Stmt.erase, hIterable, hBody]
      rfl
    · intro hRoomy
      exact (hRoom hRoomy).2
    · simp only [List.length_append]
      omega

theorem readsStmt_whileLoop
    (hBelow : ReadsBounded roomy bound)
    (test : Expr)
    (body : Block)
    (span : Span) :
    ReadsStmt roomy (bound + 1) context
      (.whileLoop test body span) follow := by
  intro hForm hFollow hRoom hBound
  have gBlock :=
    fun context => (grows_bounded bound context).2.1
  rw [Stmt.render] at hBound ⊢
  rw [Stmt.expressions, small_cons] at hRoom
  simp only [List.length_append, List.length_cons]
    at hBound
  unfold statement
  apply Reads.peek_bind rfl
  apply Reads.advance_bind
  intro start
  apply Reads.condition_bind
  · intro hRoomy
    exact (hRoom hRoomy).1
  · intro _
    exact (gBlock _).bind fun _ => grows_pure _
  · intro test' hTest
    apply Reads.map
      (hBelow.block _ body follow hForm ?_ ?_)
    · intro body' hBody
      simp only [Stmt.erase, hTest, hBody]
    · intro hRoomy
      exact (hRoom hRoomy).2
    · simp only [List.length_append]
      omega

/- A function's body stands in no loop but in a function. -/
theorem readsStmt_define
    (hBelow : ReadsBounded roomy bound)
    (name : Ident)
    (params : List Ident)
    (body : Block)
    (span : Span) :
    ReadsStmt roomy (bound + 1) context
      (.define name params body span) follow := by
  intro hForm hFollow hRoom hBound
  have gBlock :=
    fun context => (grows_bounded bound context).2.1
  rcases hForm with ⟨hNames, hForm⟩
  rw [Stmt.render] at hBound ⊢
  simp only [List.length_append, List.length_cons]
    at hBound
  unfold statement
  apply Reads.peek_bind rfl
  apply Reads.advance_bind
  intro start
  apply Reads.signature_bind name params hNames
  · intro _
    refine (grows_expect _).bind fun _ => ?_
    exact (gBlock _).bind fun _ => grows_pure _
  · rintro ⟨name', params'⟩ hName hParams
    apply Reads.expect_bind
    intro _
    apply Reads.map
      (hBelow.block _ body follow hForm hRoom ?_)
    · intro body' hBody
      simp only [Stmt.erase, hName, hParams, hBody]
    · simp only [List.length_append]
      omega

theorem readsStmt
    (hBelow : ReadsBounded roomy bound)
    (stmt : Stmt) :
    ReadsStmt roomy (bound + 1) context stmt follow := by
  intro hForm hFollow hRoom hBound
  cases stmt with
  | assign target value span =>
      rw [Stmt.render, Stmt.erase]
      apply reads_statement_expr rfl rfl
      apply reads_exprStatement_assign
      intro hRoomy
      exact hRoom hRoomy value List.mem_cons_self
  | setIndex object key value span =>
      rcases (Expr.index object key span).opens_render with
        ⟨kind, rest, hTokens, hStarts, _⟩
      rw [Stmt.render, Stmt.erase]
      rw [Stmt.expressions, small_cons, small_cons] at hRoom
      refine reads_statement_expr (by rw [hTokens]; rfl)
        hStarts ?_
      apply reads_exprStatement_setIndex
      · intro hRoomy
        exact (hRoom hRoomy).1
      · intro hRoomy
        exact (hRoom hRoomy).2.1
  | branch test body elifs orElse span =>
      exact readsStmt_branch hBelow test body elifs orElse
        span hForm hFollow hRoom hBound
  | forLoop target iterable body span =>
      exact readsStmt_forLoop hBelow target iterable body
        span hForm hFollow hRoom hBound
  | whileLoop test body span =>
      exact readsStmt_whileLoop hBelow test body span hForm
        hFollow hRoom hBound
  | define name params body span =>
      exact readsStmt_define hBelow name params body span
        hForm hFollow hRoom hBound
  | returnValue value span =>
      have hTokens :
          (Stmt.returnValue value span).render =
            .keyword .returnWord ::
              ((value.map Expr.render).getD [] ++
                [.newline]) := by
        cases value <;> rfl
      rw [hTokens, Stmt.erase]
      unfold statement
      apply Reads.peek_bind rfl
      exact reads_returnStatement hForm value hRoom
  | breakLoop span =>
      rw [Stmt.render, Stmt.erase]
      unfold statement
      apply Reads.peek_bind rfl
      apply (reads_loopJump hForm .breakWord
        .breakLoop).imp
      rintro found ⟨span, rfl⟩
      rfl
  | continueLoop span =>
      rw [Stmt.render, Stmt.erase]
      unfold statement
      apply Reads.peek_bind rfl
      apply (reads_loopJump hForm .continueWord
        .continueLoop).imp
      rintro found ⟨span, rfl⟩
      rfl
  | pass span =>
      rw [Stmt.render, Stmt.erase]
      unfold statement
      apply Reads.peek_bind rfl
      exact reads_passStatement
  | expr expr span =>
      rcases expr.opens_render with
        ⟨kind, rest, hTokens, hStarts, _⟩
      rw [Stmt.render, Stmt.erase]
      refine reads_statement_expr (by rw [hTokens]; rfl)
        hStarts ?_
      apply reads_exprStatement_expr
      intro hRoomy
      exact hRoom hRoomy expr List.mem_cons_self

/-
  Each of the five parsers hands a smaller bound to the ones
  it calls, by induction on the bound.
-/
theorem readsBounded
    (bound : Nat) :
    ReadsBounded roomy bound := by
  induction bound with
  | zero =>
      constructor
      · intro context stmt follow _ _ _ hBound
        omega
      all_goals
        intros
        omega
  | succ bound ih =>
      constructor
      · intro context stmt follow
        exact readsStmt ih stmt
      · intro context body follow hForm hRoom hBound
        exact reads_block ih body hForm hRoom hBound
      · intro context elifs follow hForm hFollow hRoom hBound
        exact reads_elifClauses ih elifs hForm hFollow hRoom
          hBound
      · intro context orElse follow hForm hFollow hRoom
          hBound
        exact reads_elseClause ih orElse hForm hFollow hRoom
          hBound
      · intro context stmts follow hForm hRoom hBound
        exact reads_statements ih stmts hForm hRoom
          (by omega)

end Parser

end Gantry

------------------------------------------------------------
-- Scripts
------------------------------------------------------------

namespace Gantry

namespace Parser

variable {roomy : Prop}

theorem reads_topLevel
    (bound : Nat)
    (stmts : List Stmt)
    (hForm : Stmt.ListWellFormed {} stmts)
    (hRoom : roomy → Small (Stmt.listExpressions stmts))
    (hBound :
      2 * (Stmt.listRender stmts ++ [TokenKind.endOfFile]).length
        + 1 < bound) :
    Reads roomy (liftM (topLevel bound))
      (Stmt.listRender stmts) [.endOfFile]
      fun found =>
        Stmt.listErase found = Stmt.listErase stmts := by
  induction stmts generalizing bound with
  | nil =>
      intro cursor hLog hKinds
      have hEnd : cursor.kind = .endOfFile := by
        rw [cursor.kind_eq_headD, hKinds]
        rfl
      cases bound with
      | zero => omega
      | succ bound =>
          rw [exec_lift, run_topLevel,
            Cursor.pastNewlines_of_kind (by rw [hEnd]; simp)]
          dsimp only
          rw [Cursor.atEnd, hEnd, beq_self_eq_true,
            Bool.or_true, if_pos rfl]
          exact gives_some hLog ⟨rfl, hKinds⟩
  | cons stmt stmts ih =>
      intro cursor hLog hKinds
      rcases hForm with ⟨hStmt, hStmts⟩
      rcases stmt.starts_render with
        ⟨kind, rest, hTokens, hStarts⟩
      have hKind : cursor.kind = kind := by
        rw [cursor.kind_eq_headD, hKinds, Stmt.listRender,
          hTokens]
        rfl
      have hPos : 0 < stmt.render.length := by
        rw [hTokens]
        exact Nat.succ_pos _
      rw [Stmt.listRender, List.append_assoc] at hKinds hBound
      simp only [Stmt.listExpressions, small_append] at hRoom
      cases bound with
      | zero => omega
      | succ bound =>
          rw [exec_lift, run_topLevel_goOn hLog
            (by rw [hKind]; exact
                  goesOn_of_startsStmt hStarts)]
          refine gives_goOn lasting_crowded
            (extends_topLevel bound)
            ((readsBounded bound).statement {} stmt _ hStmt
              ?_ ?_ (by omega) cursor hLog hKinds) ?_
          · exact endsBranch_listRender
              ⟨by simp, by simp⟩ stmts
          · intro hRoomy
            exact (hRoom hRoomy).1
          · rintro found after hAfter ⟨hFound, hRest⟩
            rw [List.length_append] at hBound
            refine (ih bound hStmts ?_ (by omega) after
              hAfter hRest).imp ?_
            · intro hRoomy
              exact (hRoom hRoomy).2
            · rintro others last ⟨hOthers, hLast⟩
              refine ⟨?_, hLast⟩
              simp only [Stmt.listErase, hFound, hOthers]

/-
  A well-formed script is read back from its tokens, or the
  first thing reported is that an expression is nested too
  deep. It is read back for sure if no expression has more
  than 63 tokens.
-/
theorem parse_render
    (program : Program)
    (hForm : program.WellFormed)
    (tokens : List Token)
    (hTokens : tokens.map (·.kind) = program.render) :
    ((∃ found,
        (parse tokens).program? = some found ∧
          found.erase = program.erase ∧
          (parse tokens).log = Log.empty) ∨
      ((parse tokens).program? = none ∧
        (parse tokens).log.first?.map (·.fault) =
          some .nestingTooDeep)) ∧
      ((∀ expr ∈ program.expressions,
          expr.render.length ≤ 63) →
        ∃ found,
          (parse tokens).program? = some found ∧
            found.erase = program.erase ∧
            (parse tokens).log = Log.empty) := by
  have hRead :
      Reads
        (∀ expr ∈ program.expressions,
          expr.render.length ≤ 63)
        (liftM (topLevel (boundFor tokens)))
        (Stmt.listRender program.body) [.endOfFile]
        fun found =>
          Stmt.listErase found =
            Stmt.listErase program.body := by
    apply reads_topLevel _ _ hForm
    · intro hSmall expr hExpr
      exact Nat.lt_succ_of_le (hSmall expr hExpr)
    · have hLength := congrArg List.length hTokens
      rw [List.length_map, Program.render] at hLength
      unfold boundFor
      omega
  have hExtends :=
    extends_topLevel (boundFor tokens) { rest := tokens }
  rw [parse_eq]
  rcases hRead { rest := tokens } rfl hTokens with
    ⟨hLarge, hFault⟩ | ⟨stmts, hStmts, hLog, hErase, _⟩
  · -- Something was reported, so that nothing is given.
    have hNone :
        ((topLevel (boundFor tokens)).run
          { rest := tokens }).2.log.isEmpty = false := by
      rw [← Bool.not_eq_true, hExtends.isEmpty_iff]
      intro hFirst
      rw [exec_lift, hFirst] at hFault
      contradiction
    dsimp only
    rw [hNone]
    exact ⟨Or.inr ⟨rfl, hFault⟩,
      fun hSmall => absurd hSmall hLarge⟩
  · cases hStmts
    have hLog :
        ((topLevel (boundFor tokens)).run
          { rest := tokens }).2.log = Log.empty := hLog
    have hFound :
        ∃ found,
          (parse tokens).program? = some found ∧
            found.erase = program.erase ∧
            (parse tokens).log = Log.empty := by
      rw [parse_eq]
      dsimp only
      rw [hLog]
      refine ⟨_, rfl, ?_, rfl⟩
      unfold Program.erase
      rw [← hErase]
      rfl
    rw [parse_eq] at hFound
    exact ⟨Or.inl hFound, fun _ => hFound⟩

/- A sum as a factor is the one that needs parentheses. -/
theorem parse_render_product :
    let word := fun text => Expr.name text Span.unset
    let sum :=
      Expr.binary .add (word "b") (word "c") Span.unset
    let product :=
      Expr.binary .mul (word "a") sum Span.unset
    let program : Program :=
      ⟨[.whileLoop (word "busy")
          (.mk
            [.assign ⟨"x", Span.unset⟩ product Span.unset,
              .breakLoop Span.unset] Span.unset)
          Span.unset], Span.unset⟩
    let kinds :=
      [.keyword .whileWord, .name "busy", .symbol .colon,
        .newline, .indent,
        .name "x", .symbol .eq, .name "a", .symbol .star,
        .symbol .leftParen, .name "b", .symbol .plus,
        .name "c", .symbol .rightParen, .newline,
        .keyword .breakWord, .newline,
        .dedent, .endOfFile]
    let tokens :=
      kinds.map fun kind => Token.mk kind (Span.point 1 1)
    program.WellFormed ∧
      program.render = kinds ∧
      ∃ found,
        (parse tokens).program? = some found ∧
          found.erase = program.erase ∧
          (parse tokens).log = Log.empty := by
  intro word sum product program kinds tokens
  have hForm : program.WellFormed := by
    simp [program, Program.WellFormed, Stmt.ListWellFormed,
      Stmt.WellFormed, Block.WellFormed]
  refine ⟨hForm, rfl, ?_⟩
  exact (parse_render program hForm tokens rfl).2 (by decide)

end Parser

end Gantry
