import Gantry.Proofs.Parser.Faithful

/-
  This file shows that reading a script loses nothing. The
  words of the tree are the words among the tokens up to the
  end of the file, each of them once and in order, for any
  token stream in which nothing is at fault.

  Statements are read with a bound on the recursion. A bound
  that has run out fails without an issue, so that a faithful
  reading also needs a bound that is large enough for the
  tokens at hand.

  Key definitions include:
    * `Gantry.Parser.FaithfulWithin`

  Main statements:
    * `Gantry.Parser.faithful_bounded`
    * `Gantry.Parser.gives_topLevel`
    * `Gantry.Parser.words_of_parse`
-/

------------------------------------------------------------
-- Simple Statements
------------------------------------------------------------

namespace Gantry

namespace Parser

variable {α : Type}

/- What was reported is not undone by reading on. -/
theorem gives_of_reported
    {parser : Parser α}
    {cursor : Cursor}
    {post : α → Cursor → Prop}
    (hGrows : Grows parser)
    (hReported : Reported cursor.log) :
    Gives Reported (exec parser cursor) post :=
  Or.inl (lasting_reported _ _ (hGrows cursor) hReported)

theorem reported_report
    (cursor : Cursor)
    (fault : Fault)
    (span : Span) :
    Reported (cursor.report fault span).log :=
  Nat.succ_pos _

/- Only a name or an element is assigned to. -/
theorem words_of_assignment?
    {target value : Expr}
    {stmt : Stmt}
    (hStmt : assignment? target value = some stmt) :
    stmt.words =
      target.words ++ .symbol .eq :: value.words := by
  unfold assignment? at hStmt
  dsimp only at hStmt
  split at hStmt
  · cases hStmt
    rfl
  · cases hStmt
    simp [Stmt.words, Expr.words]
  · contradiction

variable
    {cursor : Cursor}
    (hLog : cursor.log = Log.empty)

include hLog

theorem gives_passStatement
    (hKind : cursor.kind = .keyword .passWord) :
    Gives Reported (exec passStatement cursor)
      fun stmt after => cursor.Took stmt.words after := by
  have hTook := Cursor.took_word hKind (by simp) rfl
  rw [passStatement, exec_advance_bind]
  refine faithful_lineEnd.gives_bind (fun _ => grows_pure _)
    (by simpa using hLog) ?_
  intro _ after hAfter hEnd
  exact gives_some hAfter (hTook.trans hEnd)

theorem gives_loopJump
    (context : Context)
    {word : Keyword}
    {make : Span → Stmt}
    (hKind : cursor.kind = .keyword word)
    (hMake :
      ∀ span, (make span).words = [.keyword word]) :
    Gives Reported (exec (loopJump context word make) cursor)
      fun stmt after => cursor.Took stmt.words after := by
  have hTook := Cursor.took_word hKind (by simp) rfl
  have hGrows :
      Grows (do lineEnd; return make cursor.here) :=
    grows_lineEnd.bind fun _ => grows_pure _
  rw [loopJump, exec_advance_bind]
  dsimp only
  split
  · rw [exec_report_bind]
    exact gives_of_reported hGrows (reported_report _ _ _)
  · refine faithful_lineEnd.gives_bind
      (fun _ => grows_pure _) (by simpa using hLog) ?_
    intro _ after hAfter hEnd
    apply gives_some hAfter
    rw [hMake]
    exact hTook.trans hEnd

theorem gives_returnedValue :
    Gives Reported (exec returnedValue cursor)
      fun value after => ∀ span : Span,
        ∃ words, cursor.Took words after ∧
          (Stmt.returnValue value span).words =
            .keyword .returnWord :: words := by
  rw [returnedValue, exec_peek_bind]
  have hNone :
      Gives Reported (exec (pure none) cursor)
        fun value after => ∀ span : Span,
          ∃ words, cursor.Took words after ∧
            (Stmt.returnValue value span).words =
              .keyword .returnWord :: words :=
    gives_some hLog fun span => ⟨[], .refl cursor, rfl⟩
  split
  · exact hNone
  · exact hNone
  · exact hNone
  · refine faithful_expression.gives_bind
      (fun _ => grows_pure _) hLog ?_
    intro value after hAfter hValue
    exact gives_some hAfter fun span => ⟨_, hValue, rfl⟩

theorem gives_returnStatement
    (context : Context)
    (hKind : cursor.kind = .keyword .returnWord) :
    Gives Reported (exec (returnStatement context) cursor)
      fun stmt after => cursor.Took stmt.words after := by
  have hTook := Cursor.took_word hKind (by simp) rfl
  rw [returnStatement, exec_advance_bind]
  dsimp only
  split
  · rw [exec_report_bind]
    refine gives_of_reported ?_ (reported_report _ _ _)
    refine grows_returnedValue.bind fun _ => ?_
    exact grows_lineEnd.bind fun _ => grows_pure _
  · refine Gives.bind lasting_reported
      (fun _ => grows_lineEnd.bind fun _ => grows_pure _)
      (gives_returnedValue (by simpa using hLog)) ?_
    intro value middle hMiddle hValue
    refine faithful_lineEnd.gives_bind
      (fun _ => grows_pure _) hMiddle ?_
    intro _ after hAfter hEnd
    apply gives_some hAfter
    rcases hValue _ with ⟨words, hWords, hStmt⟩
    rw [hStmt]
    simpa using (hTook.trans hWords).trans hEnd

theorem gives_exprStatement :
    Gives Reported (exec exprStatement cursor)
      fun stmt after => cursor.Took stmt.words after := by
  refine faithful_expression.gives_bind
    grows_afterExpression hLog ?_
  intro target middle hMiddle hTarget
  rw [exec_check_branch]
  by_cases hEq : middle.kind = .symbol .eq
  · have hTook := Cursor.took_word hEq (by simp) rfl
    rw [if_pos hEq, exec_advance_bind]
    refine faithful_expression.gives_bind ?_
      (by simpa using hMiddle) ?_
    · intro value
      split
      · exact grows_lineEnd.bind fun _ => grows_pure _
      · exact grows_reject _ _
    · intro value later hLater hValue
      split
      · rename_i stmt hStmt
        refine faithful_lineEnd.gives_bind
          (fun _ => grows_pure _) hLater ?_
        intro _ after hAfter hEnd
        apply gives_some hAfter
        rw [words_of_assignment? hStmt]
        simpa using
          ((hTarget.trans hTook).trans hValue).trans hEnd
      · exact gives_report later _ _ rfl
  · rw [if_neg hEq]
    refine faithful_lineEnd.gives_bind
      (fun _ => grows_pure _) hMiddle ?_
    intro _ after hAfter hEnd
    apply gives_some hAfter
    simpa [Stmt.words] using hTarget.trans hEnd

end Parser

end Gantry

------------------------------------------------------------
-- Headers
------------------------------------------------------------

namespace Gantry

namespace Parser

theorem gives_parameters
    (rounds : List Token)
    (seen : List Ident)
    (cursor : Cursor)
    (hLog : cursor.log = Log.empty) :
    Gives Reported (exec (parameters rounds seen) cursor)
      fun params after =>
        ∃ words, cursor.Took words after ∧
          Ident.words params = Ident.words seen ++ words := by
  induction rounds generalizing seen cursor with
  | nil =>
      refine faithful_identifier.gives_bind
        (fun _ => grows_pure _) hLog ?_
      intro last after hAfter hLast
      apply gives_some hAfter
      exact ⟨_, hLast, by simp [Ident.words]⟩
  | cons token rounds ih =>
      rw [parameters, exec_check_branch]
      by_cases hClose : cursor.kind = .symbol .rightParen
      · rw [if_pos hClose]
        apply gives_some hLog
        exact ⟨[], .refl cursor, by simp⟩
      · rw [if_neg hClose]
        refine faithful_identifier.gives_bind
          (grows_checkedParameter (grows_parameters rounds) seen)
          hLog ?_
        intro param middle hMiddle hParam
        dsimp only
        split
        · rw [exec_report_bind]
          refine gives_of_reported ?_
            (reported_report _ _ _)
          exact grows_furtherParameters
            (grows_parameters rounds) seen param
        · rw [exec_eat_bind]
          by_cases hComma : middle.kind = .symbol .comma
          · rw [if_pos hComma]
            have hTook :=
              Cursor.took_group hComma (by simp) rfl
            refine (ih (seen ++ [param]) middle.next
              (by simpa using hMiddle)).imp ?_
            rintro params after ⟨words, hWords, hParams⟩
            refine ⟨_, (hParam.trans hTook).trans hWords, ?_⟩
            rw [hParams]
            simp [Ident.words]
          · rw [if_neg hComma]
            apply gives_some hMiddle
            exact ⟨_, hParam, by simp [Ident.words]⟩

theorem faithful_signature :
    Faithful signature fun found =>
      .name found.1.name :: Ident.words found.2 := by
  intro cursor hLog
  refine faithful_identifier.gives_bind ?_ hLog ?_
  · intro name
    refine (grows_expect _).bind fun _ => ?_
    refine grows_get.bind fun _ => ?_
    refine (grows_parameters _ _).bind fun _ => ?_
    exact (grows_expect _).bind fun _ => grows_pure _
  · intro name first hFirst hName
    have hOpen :
        Faithful (expect (.symbol .leftParen)) fun _ => [] :=
      faithful_expectGroup (by simp) rfl
    refine hOpen.gives_bind ?_ hFirst ?_
    · intro _
      refine grows_get.bind fun _ => ?_
      refine (grows_parameters _ _).bind fun _ => ?_
      exact (grows_expect _).bind fun _ => grows_pure _
    · intro _ second hSecond hParen
      rw [exec_get_bind]
      refine Gives.bind lasting_reported
        (fun _ => (grows_expect _).bind fun _ =>
          grows_pure _)
        (gives_parameters _ [] second hSecond) ?_
      rintro params third hThird ⟨words, hWords, hParams⟩
      refine faithful_closeParen.gives_bind
        (fun _ => grows_pure _) hThird ?_
      intro _ after hAfter hClose
      apply gives_some hAfter
      have hSeen : Ident.words params = words := hParams
      simpa [hSeen] using
        ((hName.trans hParen).trans hWords).trans hClose

theorem faithful_colon :
    Faithful (expect (.symbol .colon)) fun _ =>
      [.symbol .colon] :=
  faithful_expectWord (by simp) rfl

theorem faithful_condition :
    Faithful condition fun test =>
      test.words ++ [.symbol .colon] := by
  intro cursor hLog
  refine faithful_expression.gives_bind
    (fun _ => (grows_expect _).bind fun _ => grows_pure _)
    hLog ?_
  intro test middle hMiddle hTest
  refine faithful_colon.gives_bind (fun _ => grows_pure _)
    hMiddle ?_
  intro _ after hAfter hColon
  exact gives_some hAfter (hTest.trans hColon)

theorem gives_blockStart
    {cursor : Cursor}
    (hLog : cursor.log = Log.empty) :
    Gives Reported (exec blockStart cursor)
      fun _ after =>
        cursor.Took [] after ∧
          after.rest.length + 2 ≤ cursor.rest.length := by
  rw [blockStart, exec_peek_bind]
  by_cases hNewline : cursor.kind = .newline
  · have hLine := Cursor.took_group hNewline (by simp) rfl
    rw [beq_iff_eq.mpr hNewline, if_pos rfl,
      exec_advance_bind, exec_check_branch]
    by_cases hIndent : cursor.next.kind = .indent
    · have hTook := Cursor.took_group hIndent (by simp) rfl
      have hFirst :=
        Cursor.length_next_lt (by rw [hNewline]; simp)
      have hSecond :=
        Cursor.length_next_lt (by rw [hIndent]; simp)
      rw [if_pos hIndent, exec_advance]
      refine gives_some (by simpa using hLog) ?_
      exact ⟨hLine.trans hTook, by omega⟩
    · rw [if_neg hIndent]
      exact gives_report cursor.next _ _ rfl
  · rw [beq_eq_false_iff_ne.mpr hNewline]
    exact gives_report cursor _ _ rfl

end Parser

end Gantry

------------------------------------------------------------
-- Statements And Blocks
------------------------------------------------------------

namespace Gantry

/- An expression is read from at least one word. -/
theorem Expr.words_ne_nil :
    (expr : Expr) →
    expr.words ≠ []
| literal _ _ => by simp [words]
| name _ _ => by simp [words]
| list _ _ => by simp [words]
| unary _ _ _ => by simp [words]
| binary _ _ _ _ => by simp [words]
| call callee _ _ => by
    have hCallee := callee.words_ne_nil
    simp [words, hCallee]
| index _ _ _ => by simp [words]
| attr _ _ _ => by simp [words]

theorem Stmt.words_ne_nil
    (stmt : Stmt) :
    stmt.words ≠ [] := by
  cases stmt with
  | expr expr span => exact expr.words_ne_nil
  | returnValue value span =>
      cases value <;> simp [words]
  | _ => simp [words]

namespace Cursor

/- Words are taken with their tokens. -/
theorem Took.length_lt
    {cursor after : Cursor}
    {words : List TokenKind}
    (hTook : cursor.Took words after)
    (hWords : words ≠ []) :
    after.rest.length < cursor.rest.length := by
  rcases hTook with ⟨used, hUsed, _, rfl⟩
  cases used with
  | nil => simp at hWords
  | cons token used =>
      rw [hUsed, List.length_append, List.length_cons]
      omega

theorem took_dropNewlines
    (tokens : List Token)
    (previous : Span) :
    ∃ used,
      tokens =
          used ++
            (Parser.dropNewlines previous tokens).2 ∧
        ∀ token ∈ used, token.kind = .newline := by
  induction tokens generalizing previous with
  | nil => exact ⟨[], rfl, by simp⟩
  | cons token rest ih =>
      rw [Parser.dropNewlines]
      by_cases hNewline : token.kind = .newline
      · rw [if_pos hNewline]
        rcases ih token.span with ⟨used, hRest, hUsed⟩
        refine ⟨token :: used, ?_, ?_⟩
        · rw [List.cons_append, ← hRest]
        · simpa [hNewline] using hUsed
      · rw [if_neg hNewline]
        exact ⟨[], rfl, by simp⟩

theorem took_pastNewlines
    (cursor : Cursor) :
    cursor.Took [] cursor.pastNewlines := by
  rcases took_dropNewlines cursor.rest cursor.previous with
    ⟨used, hRest, hUsed⟩
  refine ⟨used, hRest, ?_, ?_⟩
  · intro token hToken
    simp [hUsed token hToken]
  · unfold content
    rw [List.filter_eq_nil_iff]
    intro kind hKind
    rcases List.mem_map.mp hKind with ⟨token, hToken, rfl⟩
    simp [hUsed token hToken, TokenKind.groups]

end Cursor

namespace Parser

variable {α : Type}

/-
  A parser is faithful on few enough tokens. A round of
  statements and the statement in it each take one from the
  bound, so that every token needs two.
-/
def FaithfulWithin
    (bound : Nat)
    (parser : Parser α)
    (words : α → List TokenKind) : Prop :=
  ∀ cursor : Cursor, cursor.log = Log.empty →
    2 * cursor.rest.length < bound →
      Gives Reported (exec parser cursor) fun value after =>
        cursor.Took (words value) after

variable {bound : Nat}

theorem faithfulWithin_block
    {context : Context}
    (hGrows : Grows (liftM (statements bound context)))
    (hStatements :
      FaithfulWithin (bound - 1)
        (liftM (statements bound context))
        Stmt.listWords) :
    FaithfulWithin (bound + 1) (block (bound + 1) context)
      Block.words := by
  intro cursor hLog hBound
  unfold block
  refine Gives.bind lasting_reported
    (fun _ => hGrows.bind fun _ => grows_pure _)
    (gives_blockStart hLog) ?_
  rintro start middle hMiddle ⟨hStart, hShort⟩
  refine Gives.bind lasting_reported (fun _ => grows_pure _)
    (hStatements middle hMiddle (by omega)) ?_
  intro stmts after hAfter hStmts
  exact gives_some hAfter (hStart.trans hStmts)

theorem faithfulWithin_elifClauses
    {context : Context}
    (hGrows : Grows (block bound context))
    (hGrowsElifs : Grows (elifClauses bound context))
    (hBlock :
      FaithfulWithin bound (block bound context)
        Block.words)
    (hElifs :
      FaithfulWithin bound (elifClauses bound context)
        Elif.listWords) :
    FaithfulWithin (bound + 1)
      (elifClauses (bound + 1) context)
      Elif.listWords := by
  intro cursor hLog hBound
  rw [elifClauses, exec_check_branch]
  by_cases hKind : cursor.kind = .keyword .elifWord
  · have hTook := Cursor.took_word hKind (by simp) rfl
    have hShort := hTook.length_lt (by simp)
    rw [if_pos hKind, exec_advance_bind]
    refine faithful_condition.gives_bind
      (fun _ => hGrows.bind fun _ =>
        hGrowsElifs.bind fun _ => grows_pure _)
      (by simpa using hLog) ?_
    intro test second hSecond hTest
    have hSecondLength := hTest.length_le
    refine Gives.bind lasting_reported
      (fun _ => hGrowsElifs.bind fun _ => grows_pure _)
      (hBlock second hSecond (by omega)) ?_
    intro body third hThird hBody
    have hThirdLength := hBody.length_le
    refine Gives.bind lasting_reported
      (fun _ => grows_pure _)
      (hElifs third hThird (by omega)) ?_
    intro others after hAfter hOthers
    apply gives_some hAfter
    simpa [Elif.listWords, Elif.words] using
      ((hTook.trans hTest).trans hBody).trans hOthers
  · rw [if_neg hKind]
    exact gives_some hLog (.refl cursor)

theorem faithfulWithin_elseClause
    {context : Context}
    (hGrows : Grows (block bound context))
    (hBlock :
      FaithfulWithin bound (block bound context)
        Block.words) :
    FaithfulWithin (bound + 1)
      (elseClause (bound + 1) context)
      Block.elseWords := by
  intro cursor hLog hBound
  rw [elseClause, exec_eat_bind]
  by_cases hKind : cursor.kind = .keyword .elseWord
  · have hTook := Cursor.took_word hKind (by simp) rfl
    have hShort := hTook.length_lt (by simp)
    rw [if_pos hKind]
    refine faithful_colon.gives_bind
      (fun _ => hGrows.bind fun _ => grows_pure _)
      (by simpa using hLog) ?_
    intro _ middle hMiddle hColon
    have hMiddleLength := hColon.length_le
    refine Gives.bind lasting_reported
      (fun _ => grows_pure _)
      (hBlock middle hMiddle (by omega)) ?_
    intro body after hAfter hBody
    apply gives_some hAfter
    simpa [Block.elseWords] using
      (hTook.trans hColon).trans hBody
  · rw [if_neg hKind]
    exact gives_some hLog (.refl cursor)

theorem faithfulWithin_statements
    {context : Context}
    (hGrows :
      Grows (liftM (statements bound context)))
    (hStatement :
      FaithfulWithin bound (statement bound context)
        Stmt.words)
    (hStatements :
      FaithfulWithin (bound - 1)
        (liftM (statements bound context))
        Stmt.listWords) :
    FaithfulWithin bound
      (liftM (statements (bound + 1) context))
      Stmt.listWords := by
  intro cursor hLog hBound
  have hStart := cursor.took_pastNewlines
  have hStartLog : cursor.pastNewlines.log = Log.empty := by
    simpa using hLog
  have hStartLength := hStart.length_le
  rw [exec_lift, run_statements]
  generalize cursor.pastNewlines = start at *
  dsimp only
  rw [hStartLog, Log.isFull_empty, Bool.false_or]
  split
  · exact gives_some hStartLog hStart
  · split
    · rename_i hKind
      have hTook := Cursor.took_group hKind (by simp) rfl
      exact gives_some (by simpa using hStartLog)
        (hStart.trans hTook)
    · left
      refine lasting_reported _ _ (hGrows _) ?_
      refine lasting_reported _ _ (hGrows _) ?_
      exact reported_report _ _ _
    · refine gives_goOn lasting_reported hGrows
        (hStatement start hStartLog (by omega)) ?_
      intro stmt after hAfter hTook
      have hShort := hTook.length_lt stmt.words_ne_nil
      refine (hStatements after hAfter (by omega)).imp ?_
      intro others last hOthers
      exact (hStart.trans hTook).trans hOthers

section Compound

/-
  The statements that hold further ones, with what the parts
  of them are known to do below the bound.
-/
variable
    {context : Context}
    {cursor : Cursor}
    (hBlock :
      ∀ context,
        FaithfulWithin bound (block bound context)
          Block.words)
    (hLog : cursor.log = Log.empty)
    (hBound : 2 * cursor.rest.length < bound + 1)

include hBlock hLog hBound

theorem gives_define
    (hKind : cursor.kind = .keyword .defWord) :
    Gives Reported
      (exec (statement (bound + 1) context) cursor)
      fun stmt after => cursor.Took stmt.words after := by
  have gBlock := fun context =>
    (grows_bounded bound context).2.1
  have hTook := Cursor.took_word hKind (by simp) rfl
  have hShort := hTook.length_lt (by simp)
  unfold statement
  rw [exec_peek_bind, hKind]
  dsimp only
  rw [exec_advance_bind]
  refine faithful_signature.gives_bind ?_
    (by simpa using hLog) ?_
  · intro found
    refine (grows_expect _).bind fun _ => ?_
    exact (gBlock _).bind fun _ => grows_pure _
  · rintro ⟨name, params⟩ second hSecond hSignature
    have hSecondLength := hSignature.length_le
    refine faithful_colon.gives_bind
      (fun _ => (gBlock _).bind fun _ => grows_pure _)
      hSecond ?_
    intro _ third hThird hColon
    have hThirdLength := hColon.length_le
    refine Gives.bind lasting_reported
      (fun _ => grows_pure _)
      (hBlock _ third hThird (by omega)) ?_
    intro body after hAfter hBody
    apply gives_some hAfter
    simpa [Stmt.words] using
      ((hTook.trans hSignature).trans hColon).trans hBody

theorem gives_forLoop
    (hKind : cursor.kind = .keyword .forWord) :
    Gives Reported
      (exec (statement (bound + 1) context) cursor)
      fun stmt after => cursor.Took stmt.words after := by
  have gBlock := fun context =>
    (grows_bounded bound context).2.1
  have hTook := Cursor.took_word hKind (by simp) rfl
  have hShort := hTook.length_lt (by simp)
  have hIn :
      Faithful (expect (.keyword .inWord)) fun _ =>
        [.keyword .inWord] :=
    faithful_expectWord (by simp) rfl
  unfold statement
  rw [exec_peek_bind, hKind]
  dsimp only
  rw [exec_advance_bind]
  refine faithful_identifier.gives_bind ?_
    (by simpa using hLog) ?_
  · intro target
    refine (grows_expect _).bind fun _ => ?_
    refine grows_condition.bind fun _ => ?_
    exact (gBlock _).bind fun _ => grows_pure _
  · intro target second hSecond hTarget
    have hSecondLength := hTarget.length_le
    refine hIn.gives_bind ?_ hSecond ?_
    · intro _
      refine grows_condition.bind fun _ => ?_
      exact (gBlock _).bind fun _ => grows_pure _
    · intro _ third hThird hWord
      have hThirdLength := hWord.length_le
      refine faithful_condition.gives_bind
        (fun _ => (gBlock _).bind fun _ => grows_pure _)
        hThird ?_
      intro iterable fourth hFourth hIterable
      have hFourthLength := hIterable.length_le
      refine Gives.bind lasting_reported
        (fun _ => grows_pure _)
        (hBlock _ fourth hFourth (by omega)) ?_
      intro body after hAfter hBody
      apply gives_some hAfter
      simpa [Stmt.words] using
        (((hTook.trans hTarget).trans hWord).trans
          hIterable).trans hBody

theorem gives_whileLoop
    (hKind : cursor.kind = .keyword .whileWord) :
    Gives Reported
      (exec (statement (bound + 1) context) cursor)
      fun stmt after => cursor.Took stmt.words after := by
  have gBlock := fun context =>
    (grows_bounded bound context).2.1
  have hTook := Cursor.took_word hKind (by simp) rfl
  have hShort := hTook.length_lt (by simp)
  unfold statement
  rw [exec_peek_bind, hKind]
  dsimp only
  rw [exec_advance_bind]
  refine faithful_condition.gives_bind
    (fun _ => (gBlock _).bind fun _ => grows_pure _)
    (by simpa using hLog) ?_
  intro test second hSecond hTest
  have hSecondLength := hTest.length_le
  refine Gives.bind lasting_reported
    (fun _ => grows_pure _)
    (hBlock _ second hSecond (by omega)) ?_
  intro body after hAfter hBody
  apply gives_some hAfter
  simpa [Stmt.words] using (hTook.trans hTest).trans hBody

theorem gives_branch
    (hElifs :
      FaithfulWithin bound (elifClauses bound context)
        Elif.listWords)
    (hElse :
      FaithfulWithin bound (elseClause bound context)
        Block.elseWords)
    (hKind : cursor.kind = .keyword .ifWord) :
    Gives Reported
      (exec (statement (bound + 1) context) cursor)
      fun stmt after => cursor.Took stmt.words after := by
  have gBlock := (grows_bounded bound context).2.1
  have gElifs := (grows_bounded bound context).2.2.1
  have gElse := (grows_bounded bound context).2.2.2.1
  have hTook := Cursor.took_word hKind (by simp) rfl
  have hShort := hTook.length_lt (by simp)
  unfold statement
  rw [exec_peek_bind, hKind]
  dsimp only
  rw [exec_advance_bind]
  refine faithful_condition.gives_bind ?_
    (by simpa using hLog) ?_
  · intro test
    refine gBlock.bind fun _ => gElifs.bind fun _ => ?_
    exact gElse.bind fun _ => grows_pure _
  · intro test second hSecond hTest
    have hSecondLength := hTest.length_le
    refine Gives.bind lasting_reported
      (fun _ => gElifs.bind fun _ =>
        gElse.bind fun _ => grows_pure _)
      (hBlock _ second hSecond (by omega)) ?_
    intro body third hThird hBody
    have hThirdLength := hBody.length_le
    refine Gives.bind lasting_reported
      (fun _ => gElse.bind fun _ => grows_pure _)
      (hElifs third hThird (by omega)) ?_
    intro elifs fourth hFourth hClauses
    have hFourthLength := hClauses.length_le
    refine Gives.bind lasting_reported
      (fun _ => grows_pure _)
      (hElse fourth hFourth (by omega)) ?_
    intro orElse after hAfter hOtherwise
    apply gives_some hAfter
    simpa [Stmt.words] using
      (((hTook.trans hTest).trans hBody).trans
        hClauses).trans hOtherwise

end Compound

theorem faithfulWithin_statement
    {context : Context}
    (hBlock :
      ∀ context,
        FaithfulWithin bound (block bound context)
          Block.words)
    (hElifs :
      FaithfulWithin bound (elifClauses bound context)
        Elif.listWords)
    (hElse :
      FaithfulWithin bound (elseClause bound context)
        Block.elseWords) :
    FaithfulWithin (bound + 1) (statement (bound + 1) context)
      Stmt.words := by
  intro cursor hLog hBound
  cases hKind : cursor.kind with
  | keyword word =>
      cases word with
      | defWord =>
          exact gives_define hBlock hLog hBound hKind
      | ifWord =>
          exact gives_branch hBlock hLog hBound hElifs hElse
            hKind
      | forWord =>
          exact gives_forLoop hBlock hLog hBound hKind
      | whileWord =>
          exact gives_whileLoop hBlock hLog hBound hKind
      | returnWord =>
          rw [statement, exec_peek_bind, hKind]
          exact gives_returnStatement hLog context hKind
      | breakWord =>
          rw [statement, exec_peek_bind, hKind]
          exact gives_loopJump hLog context hKind fun _ => rfl
      | continueWord =>
          rw [statement, exec_peek_bind, hKind]
          exact gives_loopJump hLog context hKind fun _ => rfl
      | passWord =>
          rw [statement, exec_peek_bind, hKind]
          exact gives_passStatement hLog hKind
      | _ =>
          rw [statement, exec_peek_bind, hKind]
          exact gives_exprStatement hLog
  | _ =>
      rw [statement, exec_peek_bind, hKind]
      exact gives_exprStatement hLog

/-
  The five parsers of statements and blocks, by induction on
  the bound that they hand to one another.
-/
theorem faithful_bounded
    (bound : Nat)
    (context : Context) :
    FaithfulWithin bound (statement bound context)
        Stmt.words ∧
      FaithfulWithin bound (block bound context)
        Block.words ∧
      FaithfulWithin bound (elifClauses bound context)
        Elif.listWords ∧
      FaithfulWithin bound (elseClause bound context)
        Block.elseWords ∧
      FaithfulWithin (bound - 1)
        (liftM (statements bound context))
        Stmt.listWords := by
  induction bound generalizing context with
  | zero =>
      refine ⟨?_, ?_, ?_, ?_, ?_⟩
      all_goals
        intro cursor hLog hBound
        omega
  | succ bound ih =>
      rcases ih context with
        ⟨hStatement, hBlock, hElifs, hElse, hStatements⟩
      rcases grows_bounded bound context with
        ⟨_, gBlock, gElifs, _, gStatements⟩
      refine ⟨?_, ?_, ?_, ?_, ?_⟩
      · exact faithfulWithin_statement
          (fun context => (ih context).2.1) hElifs hElse
      · exact faithfulWithin_block (grows_lift gStatements)
          hStatements
      · exact faithfulWithin_elifClauses gBlock gElifs hBlock
          hElifs
      · exact faithfulWithin_elseClause gBlock hBlock
      · exact faithfulWithin_statements
          (grows_lift gStatements) hStatement hStatements

end Parser

end Gantry

------------------------------------------------------------
-- Scripts
------------------------------------------------------------

namespace Gantry

namespace Parser

/-
  A script is read to the end of the file, since its bound
  covers all of its tokens.
-/
theorem gives_topLevel
    (bound : Nat)
    (cursor : Cursor)
    (hLog : cursor.log = Log.empty)
    (hBound : 2 * cursor.rest.length + 1 < bound) :
    Gives Reported (exec (liftM (topLevel bound)) cursor)
      fun stmts after =>
        cursor.Took (Stmt.listWords stmts) after ∧
          after.kind = .endOfFile := by
  induction bound generalizing cursor with
  | zero => omega
  | succ bound ih =>
      have gTop :=
        grows_lift (extends_topLevel bound)
      have gInside :=
        grows_lift (grows_bounded bound {}).2.2.2.2
      have hStart := cursor.took_pastNewlines
      have hStartLog :
          cursor.pastNewlines.log = Log.empty := by
        simpa using hLog
      have hStartLength := hStart.length_le
      rw [exec_lift, run_topLevel]
      generalize cursor.pastNewlines = start at *
      dsimp only
      rw [hStartLog, Log.isFull_empty, Bool.false_or]
      split
      · rename_i hEnd
        refine gives_some hStartLog ⟨hStart, ?_⟩
        simpa [Cursor.atEnd] using hEnd
      · split
        · rename_i hKind
          have hTook := Cursor.took_group hKind (by simp) rfl
          have hShort :=
            Cursor.length_next_lt (by rw [hKind]; simp)
          refine (ih start.next (by simpa using hStartLog)
            (by omega)).imp ?_
          rintro stmts after ⟨hStmts, hEnd⟩
          exact ⟨(hStart.trans hTook).trans hStmts, hEnd⟩
        · left
          refine lasting_reported _ _ (gTop _) ?_
          refine lasting_reported _ _ (gInside _) ?_
          exact reported_report _ _ _
        · refine gives_goOn lasting_reported
            (extends_topLevel bound)
            ((faithful_bounded bound {}).1 start hStartLog
              (by omega)) ?_
          intro stmt after hAfter hTook
          have hShort := hTook.length_lt stmt.words_ne_nil
          refine (ih after hAfter (by omega)).imp ?_
          rintro others last ⟨hOthers, hEnd⟩
          exact ⟨(hStart.trans hTook).trans hOthers, hEnd⟩

/- What was taken ends where the file ends. -/
theorem takeWhile_of_took
    {cursor after : Cursor}
    {words : List TokenKind}
    (hTook : cursor.Took words after)
    (hEnd : after.kind = .endOfFile) :
    content
        (cursor.rest.takeWhile (·.kind ≠ .endOfFile)) =
      words := by
  rcases hTook with ⟨used, hUsed, hInside, rfl⟩
  have hTail :
      after.rest.takeWhile (·.kind ≠ .endOfFile) = [] := by
    unfold Cursor.kind at hEnd
    split at hEnd
    · rename_i hRest
      rw [hRest, List.takeWhile_nil]
    · rename_i token rest hRest
      rw [hRest, List.takeWhile_cons_of_neg]
      simp [hEnd]
  rw [hUsed, List.takeWhile_append_of_pos, hTail,
    List.append_nil]
  simpa using hInside

/-
  The words of a script that was read are the words of its
  token stream: none is dropped, repeated or moved.
-/
theorem words_of_parse
    (tokens : List Token)
    (program : Program)
    (hParse : (parse tokens).program? = some program) :
    content (tokens.takeWhile (·.kind ≠ .endOfFile)) =
      program.words := by
  rw [parse_eq] at hParse
  dsimp only at hParse
  split at hParse
  · rename_i hClean
    cases hParse
    rcases gives_topLevel (boundFor tokens)
        { rest := tokens } rfl (by simp [boundFor]) with
      hReported | ⟨stmts, hStmts, _, hTook, hEnd⟩
    · have hTotal := beq_iff_eq.mp hClean
      exact absurd hTotal (Nat.pos_iff_ne_zero.mp hReported)
    · cases hStmts
      exact takeWhile_of_took hTook hEnd
  · contradiction

/- Two lines, the second of them under the first. -/
theorem words_of_parse_loop :
    let token := fun kind => Token.mk kind (Span.point 1 1)
    let tokens :=
      [token (.keyword .whileWord), token (.name "busy"),
        token (.symbol .colon), token .newline,
        token .indent, token (.keyword .passWord),
        token .newline, token .dedent, token .endOfFile]
    let program : Program :=
      ⟨[.whileLoop (.name "busy" (Span.point 1 1))
          (.mk [.pass (Span.point 1 1)] (Span.point 1 1))
          (Span.point 1 1)],
        Span.point 1 1⟩
    (parse tokens).program? = some program ∧
      content (tokens.takeWhile (·.kind ≠ .endOfFile)) =
        program.words := by
  intro token tokens program
  have hParse : (parse tokens).program? = some program := by
    rfl
  exact ⟨hParse, words_of_parse tokens program hParse⟩

end Parser

end Gantry
