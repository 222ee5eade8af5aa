import Gantry.Proofs.Parser.SimpleLines
import Gantry.Proofs.Parser.Trail
import Gantry.Proofs.Session.Reports

/-
  This file follows the spans that are passed through
  statements and blocks. So the issues of a script come in
  the order in which they stand in it, however many of its
  statements are skipped, and the spans of the tree of a
  script nest.

  An issue can be about a place that was passed before: the
  target of an assignment is looked at only when its value
  has been read. Up to there nothing else was reported.

  Key definitions include:
    * `Gantry.Parser.PassesBounded`

  Main statements:
    * `Gantry.Parser.passesBounded`
    * `Gantry.Parser.trail_topLevel`
    * `Gantry.Source.errors_in_source_order`
    * `Gantry.Source.nested_of_parse`
-/

------------------------------------------------------------
-- Simple Statements
------------------------------------------------------------

namespace Gantry

namespace Cursor

/-
  An issue may be about a span that was passed, as long as
  nothing was reported on the way.
-/
theorem Trail.reportPassed
    {origin cursor : Cursor}
    {passed : List Span}
    {span : Span}
    (hTrail : Trail origin passed cursor)
    (hOrigin : origin.InOrder)
    (hLog : cursor.log = origin.log)
    (hSpan : span ∈ passed)
    (fault : Fault) :
    Trail origin passed (cursor.report fault span) := by
  apply hTrail.report
  · intro issue hIssue
    rw [hLog] at hIssue
    exact Position.le_trans (hOrigin.passed issue hIssue)
      (hTrail.starts span hSpan)
  · exact Position.le_trans (hTrail.proper span hSpan)
      (Position.le_of_lt (hTrail.clear span hSpan))

end Cursor

namespace Parser

open Cursor (Trail)

/- A nested statement was passed. -/
def StmtPassed
    (origin : Cursor)
    (stmt : Stmt)
    (after : Cursor) : Prop :=
  stmt.Nested ∧ Trail origin [stmt.span] after

variable {cursor : Cursor}

/- A quiet parser leaves the log as well. -/
theorem Passes.onward_quiet
    {α : Type}
    {parser : Parser α}
    {good : α → Prop}
    {spans : α → List Span}
    (hParser : Passes parser good spans)
    (hQuiet : Quiet parser)
    (hOrder : cursor.InOrder) :
    Onward cursor (exec parser cursor) fun value after =>
      good value ∧ Trail cursor (spans value) after ∧
        after.log = cursor.log := by
  have hPasses := hParser cursor hOrder
  refine ⟨hPasses.1, fun value hValue => ?_⟩
  rcases hPasses.2 value hValue with ⟨hGood, hTrail⟩
  exact ⟨hGood, hTrail,
    hQuiet cursor _ value (Prod.ext hValue rfl)⟩

theorem passes_lineEnd :
    Passes lineEnd Anything fun _ => [] := by
  intro cursor hOrder
  have hTrail := hOrder.trail
  rw [lineEnd, exec_peek_bind]
  split
  · rename_i hKind
    have hNext := hTrail.next (by simp [hKind])
    exact onward_pure hNext ⟨trivial, hNext⟩
  · exact onward_pure hTrail ⟨trivial, hTrail⟩
  · exact onward_pure hTrail ⟨trivial, hTrail⟩
  · exact onward_rejectHere hTrail _

/- A statement whose line ends behind it. -/
theorem onward_ended
    {origin : Cursor}
    {stmt : Stmt}
    (hNested : stmt.Nested)
    (hTrail : Trail origin [stmt.span] cursor) :
    Onward origin
      (exec (do lineEnd; return stmt) cursor)
      (StmtPassed origin) := by
  refine passes_lineEnd.bind hTrail fun _ after _ hAfter => ?_
  exact onward_pure hAfter ⟨hNested, hAfter⟩

theorem onward_passStatement
    (hOrder : cursor.InOrder)
    (hKind : cursor.kind = .keyword .passWord) :
    Onward cursor (exec passStatement cursor)
      (StmtPassed cursor) := by
  have hWord := hOrder.word hKind rfl
  rw [passStatement, exec_advance_bind]
  exact onward_ended
    (Span.encloses_nil.mpr hOrder.proper_here) hWord

theorem onward_loopJump
    (hOrder : cursor.InOrder)
    (context : Context)
    {word : Keyword}
    {make : Span → Stmt}
    (hKind : cursor.kind = .keyword word)
    (hSpan : ∀ span, (make span).span = span)
    (hNested : ∀ span, span.Proper → (make span).Nested) :
    Onward cursor (exec (loopJump context word make) cursor)
      (StmtPassed cursor) := by
  have hWord := hOrder.word hKind rfl
  have hMake := hNested _ hOrder.proper_here
  rw [← hSpan cursor.here] at hWord
  rw [loopJump, exec_advance_bind]
  dsimp only
  split
  · rw [exec_report_bind]
    refine onward_ended hMake
      (hWord.reportPassed hOrder cursor.log_next ?_ _)
    rw [hSpan]
    exact List.mem_singleton_self _
  · exact onward_ended hMake hWord

theorem passes_returnedValue :
    Passes returnedValue
      (fun value => Expr.ListNested value.toList)
      fun value => value.toList.map Expr.span := by
  intro cursor hOrder
  have hTrail := hOrder.trail
  rw [returnedValue, exec_peek_bind]
  split
  · exact onward_pure hTrail ⟨trivial, hTrail⟩
  · exact onward_pure hTrail ⟨trivial, hTrail⟩
  · exact onward_pure hTrail ⟨trivial, hTrail⟩
  · refine passes_expression.bind hTrail
      fun value after hValue hAfter => ?_
    exact onward_pure hAfter ⟨⟨hValue, trivial⟩, hAfter⟩

/- What follows the word that returns. -/
theorem onward_returned
    {origin : Cursor}
    {start : Span}
    (hTrail : Trail origin [start] cursor) :
    Onward origin
      (exec
        (do
          let value ← returnedValue
          let span :=
            match value with
            | some expr => start.merge expr.span
            | none => start
          lineEnd
          return Stmt.returnValue value span)
        cursor)
      (StmtPassed origin) := by
  refine passes_returnedValue.bind hTrail
    fun value middle hValue hMiddle => ?_
  cases value with
  | none =>
      have hProper :=
        hMiddle.proper start List.mem_cons_self
      exact onward_ended
        ⟨Span.encloses_nil.mpr hProper, trivial⟩ hMiddle
  | some expr =>
      rcases hMiddle.merge rfl with ⟨hEncloses, hWhole⟩
      exact onward_ended ⟨hEncloses.tail, hValue⟩ hWhole

theorem onward_returnStatement
    (hOrder : cursor.InOrder)
    (context : Context)
    (hKind : cursor.kind = .keyword .returnWord) :
    Onward cursor (exec (returnStatement context) cursor)
      (StmtPassed cursor) := by
  have hWord := hOrder.word hKind rfl
  rw [returnStatement, exec_advance_bind]
  dsimp only
  split
  · rw [exec_report_bind]
    exact onward_returned
      (hWord.reportPassed hOrder cursor.log_next
        (List.mem_singleton_self _) _)
  · exact onward_returned hWord

/- An assignment covers its target and its value. -/
theorem nested_assignment?
    {origin : Cursor}
    {target value : Expr}
    {stmt : Stmt}
    (hStmt : assignment? target value = some stmt)
    (hTarget : target.Nested)
    (hValue : value.Nested)
    (hTrail :
      Trail origin [target.span, value.span] cursor) :
    StmtPassed origin stmt cursor := by
  rcases hTrail.merge rfl with ⟨hEncloses, hWhole⟩
  unfold assignment? at hStmt
  dsimp only at hStmt
  split at hStmt
  · cases hStmt
    exact ⟨⟨hEncloses, hValue⟩, hWhole⟩
  · cases hStmt
    exact ⟨⟨hEncloses.refine hTarget.1, hTarget.2.1,
      hTarget.2.2, hValue⟩, hWhole⟩
  · contradiction

theorem onward_exprStatement
    (hOrder : cursor.InOrder) :
    Onward cursor (exec exprStatement cursor)
      (StmtPassed cursor) := by
  refine (passes_expression.onward_quiet quiet_expression
    hOrder).bind
    fun target middle ⟨hTarget, hMiddle, hLog⟩ => ?_
  rw [exec_check_branch]
  by_cases hEq : middle.kind = .symbol .eq
  · have hMark := hMiddle.word_of_kind hEq rfl
    rw [if_pos hEq, exec_advance_bind]
    have hRight :=
      (passes_expression.onward_quiet quiet_expression
        hMark.order).after hMark fun _ _ hValue => hValue
    refine hRight.bind
      fun value later ⟨hValue, hLater, hSilent⟩ => ?_
    split
    · rename_i stmt hStmt
      have hBoth :
          Trail cursor [target.span, value.span] later :=
        (hMark.append hLater).sublist (by simp)
      rcases nested_assignment? hStmt hTarget hValue hBoth
        with ⟨hNested, hAfter⟩
      exact onward_ended hNested hAfter
    · have hLeft :
          Trail cursor [target.span, middle.here]
            middle.next := hMark
      have hAll := (hLeft.merge rfl).2.append hLater
      have hReported :=
        hAll.reportPassed hOrder
          (hSilent.trans (middle.log_next.trans hLog))
          List.mem_cons_self .invalidTarget
      exact ⟨hReported.sublist (List.nil_sublist _), nofun⟩
  · rw [if_neg hEq]
    have hProper := hMiddle.proper _ List.mem_cons_self
    exact onward_ended
      ⟨Span.encloses_self hProper, hTarget⟩ hMiddle

end Parser

end Gantry

------------------------------------------------------------
-- Headers
------------------------------------------------------------

namespace Gantry

namespace Parser

open Cursor (Trail)

variable {cursor : Cursor}

/- Further parameters stand behind the ones before them. -/
theorem onward_parameters
    (rounds : List Token)
    (seen : List Ident)
    (hOrder : cursor.InOrder) :
    Onward cursor (exec (parameters rounds seen) cursor)
      fun params after =>
        ∃ more, params = seen ++ more ∧
          Trail cursor (more.map Ident.span) after := by
  induction rounds generalizing seen cursor with
  | nil =>
      refine passes_identifier.bind hOrder.trail
        fun last after _ hAfter => ?_
      exact onward_pure hAfter ⟨[last], rfl, hAfter⟩
  | cons token rounds ih =>
      rw [parameters, exec_check_branch]
      by_cases hClose : cursor.kind = .symbol .rightParen
      · rw [if_pos hClose]
        exact onward_pure hOrder.trail
          ⟨[], (List.append_nil seen).symm, hOrder.trail⟩
      · rw [if_neg hClose]
        refine (passes_identifier.onward_quiet
          quiet_identifier hOrder).bind
          fun param middle ⟨_, hParam, hLog⟩ => ?_
        have hFurther (reached : Cursor)
            (hTrail : Trail cursor [param.span] reached) :
            Onward cursor
              (exec
                (do
                  if ← eat (.symbol .comma) then
                    parameters rounds (seen ++ [param])
                  else
                    return seen ++ [param])
                reached)
              fun params after =>
                ∃ more, params = seen ++ more ∧
                  Trail cursor (more.map Ident.span)
                    after := by
          rw [exec_eat_bind]
          by_cases hComma : reached.kind = .symbol .comma
          · rw [if_pos hComma]
            have hNext := hTrail.next (by simp [hComma])
            refine (ih (seen ++ [param]) hNext.order).after
              hNext ?_
            rintro params after ⟨more, hMore, hAfter⟩
            refine ⟨param :: more, ?_, hNext.append hAfter⟩
            rw [hMore, List.append_assoc]
            rfl
          · rw [if_neg hComma]
            exact onward_pure hTrail ⟨[param], rfl, hTrail⟩
        dsimp only
        split
        · rw [exec_report_bind]
          exact hFurther _
            (hParam.reportPassed hOrder hLog
              (List.mem_singleton_self _) _)
        · exact hFurther middle hParam

theorem passes_signature :
    Passes signature Anything fun found =>
      found.1.span :: found.2.map Ident.span := by
  intro cursor hOrder
  refine passes_identifier.bind hOrder.trail
    fun name first _ hName => ?_
  refine (passes_expect rfl).bind hName
    fun _ second _ hOpen => ?_
  rw [exec_get_bind]
  refine ((onward_parameters _ [] hOpen.order).after hOpen
    fun _ _ hParams => hParams).bind ?_
  rintro params third ⟨more, rfl, hMore⟩
  have hParams := hOpen.append hMore
  refine (passes_expect rfl).bind hParams
    fun _ after _ hClose => ?_
  refine onward_pure hClose ⟨trivial, hClose.sublist ?_⟩
  simp

theorem passes_condition :
    PassesExpr condition := by
  intro cursor hOrder
  refine passes_expression.bind hOrder.trail
    fun test middle hTest hMiddle => ?_
  refine (passes_expect rfl).bind hMiddle
    fun _ after _ hAfter => ?_
  exact onward_pure hAfter
    ⟨hTest, hAfter.sublist (List.sublist_append_left _ _)⟩

theorem passes_blockStart :
    Passes blockStart Anything fun start => [start] := by
  intro cursor hOrder
  have hTrail := hOrder.trail
  rw [blockStart, exec_peek_bind]
  split
  · rename_i hNewline
    have hNext := hTrail.next
      (by simp [beq_iff_eq.mp hNewline])
    rw [exec_advance_bind, exec_check_branch]
    by_cases hIndent : cursor.next.kind = .indent
    · have hWord := hNext.word_of_kind hIndent rfl
      rw [if_pos hIndent]
      exact ⟨hWord.sublist (List.nil_sublist _),
        fun _ hSpan => ⟨trivial, by cases hSpan; exact hWord⟩⟩
    · rw [if_neg hIndent]
      exact onward_rejectHere hNext _
  · exact onward_rejectHere hTrail _

end Parser

end Gantry

------------------------------------------------------------
-- Blocks
------------------------------------------------------------

namespace Gantry

namespace Parser

open Cursor (Trail)

/- Nested statements were passed, one behind the other. -/
def StmtsPassed
    (origin : Cursor)
    (result : List Stmt × Cursor) : Prop :=
  Stmt.ListNested result.1 ∧
    Trail origin (result.1.map Stmt.span) result.2

/- What the parsers below a bound pass. -/
structure PassesBounded
    (bound : Nat)
    (context : Context) : Prop where
  statement :
    Passes (statement bound context) Stmt.Nested fun stmt =>
      [stmt.span]
  block :
    Passes (block bound context) Block.Nested fun body =>
      [body.span]
  elifClauses :
    Passes (elifClauses bound context) Elif.ListNested
      fun elifs => elifs.map Elif.span
  elseClause :
    Passes (elseClause bound context) Block.ElseNested
      fun orElse => orElse.toList.map Block.span
  statements :
    ∀ cursor : Cursor, cursor.InOrder →
      StmtsPassed cursor
        ((statements bound context).run cursor)

variable
    {origin cursor : Cursor}
    {bound : Nat}
    {context : Context}

theorem stmtsPassed_nil
    (hTrail : Trail origin [] cursor) :
    StmtsPassed origin ([], cursor) :=
  ⟨trivial, hTrail⟩

/- The same statements, seen from an earlier cursor. -/
theorem StmtsPassed.after
    {result : List Stmt × Cursor}
    (hPassed : StmtsPassed cursor result)
    (hTrail : Trail origin [] cursor) :
    StmtsPassed origin result :=
  ⟨hPassed.1, hTrail.append hPassed.2⟩

/- A statement that cannot be read leaves no span. -/
theorem StmtsPassed.goOn
    {rest : StateM Cursor (List Stmt)}
    {result : Option Stmt × Cursor}
    (hRest :
      ∀ cursor : Cursor, cursor.InOrder →
        StmtsPassed cursor (rest.run cursor))
    (hResult : Onward origin result (StmtPassed origin)) :
    StmtsPassed origin (goOn rest result) := by
  rcases result with ⟨stmt?, after⟩
  cases stmt? with
  | none =>
      have hSkipped := hResult.1.synchronized
      exact (hRest _ hSkipped.order).after hSkipped
  | some stmt =>
      rcases hResult.2 stmt rfl with ⟨hStmt, hTrail⟩
      rcases hRest after hTrail.order with ⟨hOthers, hLater⟩
      exact ⟨⟨hStmt, hOthers⟩, hTrail.append hLater⟩

/- An indentation that nothing opened is reported. -/
theorem trail_unexpectedIndent
    (hOrder : cursor.InOrder)
    (hKind : cursor.kind = .indent) :
    Trail cursor []
      (cursor.next.report .unexpectedIndent cursor.here) := by
  have hWord := hOrder.word hKind rfl
  exact (hWord.reportPassed hOrder cursor.log_next
    (List.mem_singleton_self _) _).sublist
      (List.nil_sublist _)

theorem passes_block
    (hBelow : PassesBounded bound context) :
    Passes (block (bound + 1) context) Block.Nested
      fun body => [body.span] := by
  intro cursor hOrder
  unfold block
  refine passes_blockStart.bind hOrder.trail
    fun start middle _ hStart => ?_
  rcases hBelow.statements middle hStart.order with
    ⟨hStmts, hTrail⟩
  have hAll :
      Trail cursor
        (start ::
          ((statements bound context).run middle).1.map
            Stmt.span)
        ((statements bound context).run middle).2 :=
    hStart.append hTrail
  rw [exec_bind, exec_lift]
  generalize (statements bound context).run middle = result
    at *
  rcases result with ⟨stmts, after⟩
  dsimp only at *
  unfold blockSpan
  cases hLast : stmts.getLast? with
  | none =>
      rw [List.getLast?_eq_none_iff] at hLast
      subst hLast
      have hProper := hAll.proper start List.mem_cons_self
      exact onward_pure hAll
        ⟨⟨Span.encloses_nil.mpr hProper, trivial⟩, hAll⟩
  | some last =>
      rcases hAll.merge (by rw [List.getLast?_map, hLast]; rfl)
        with ⟨hEncloses, hWhole⟩
      exact onward_pure hWhole
        ⟨⟨hEncloses.tail, hStmts⟩, hWhole⟩

theorem passes_elifClauses
    (hBelow : PassesBounded bound context) :
    Passes (elifClauses (bound + 1) context) Elif.ListNested
      fun elifs => elifs.map Elif.span := by
  intro cursor hOrder
  rw [elifClauses, exec_check_branch]
  by_cases hKind : cursor.kind = .keyword .elifWord
  · have hStart := hOrder.word hKind rfl
    rw [if_pos hKind, exec_advance_bind]
    refine passes_condition.bind hStart
      fun test first hTest hFirst => ?_
    refine hBelow.block.bind hFirst
      fun body second hBody hSecond => ?_
    rcases hSecond.merge rfl with ⟨hEncloses, hClause⟩
    refine hBelow.elifClauses.bind hClause
      fun others after hOthers hAfter => ?_
    exact onward_pure hAfter
      ⟨⟨⟨hEncloses.tail, hTest, hBody⟩, hOthers⟩, hAfter⟩
  · rw [if_neg hKind]
    exact onward_pure hOrder.trail ⟨trivial, hOrder.trail⟩

theorem passes_elseClause
    (hBelow : PassesBounded bound context) :
    Passes (elseClause (bound + 1) context)
      Block.ElseNested
      fun orElse => orElse.toList.map Block.span := by
  intro cursor hOrder
  rw [elseClause, exec_eat_bind]
  by_cases hKind : cursor.kind = .keyword .elseWord
  · have hNext := hOrder.trail.next (by simp [hKind])
    rw [if_pos hKind]
    refine (passes_expect rfl).bind hNext
      fun _ middle _ hMiddle => ?_
    refine hBelow.block.bind
      (hMiddle.sublist (List.nil_sublist _))
      fun body after hBody hAfter => ?_
    exact onward_pure hAfter ⟨hBody, hAfter⟩
  · rw [if_neg hKind]
    exact onward_pure hOrder.trail ⟨trivial, hOrder.trail⟩

/- The last part of a branch is where it ends. -/
theorem getLast?_branch
    (test : Expr)
    (body : Block)
    (elifs : List Elif)
    (orElse : Option Block) :
    (test.span :: body.span :: elifs.map Elif.span ++
        orElse.toList.map Block.span).getLast? =
      some
        (match orElse, elifs.getLast? with
          | some last, _ => last.span
          | none, some last => last.span
          | none, none => body.span) := by
  cases orElse with
  | some last => exact List.getLast?_concat
  | none =>
      cases hLast : elifs.getLast? with
      | none => simp_all
      | some last => simp [List.getLast?_cons, hLast]

/- Each kind of statement, by the word it begins with. -/
theorem passes_statement
    (hBlock :
      ∀ context,
        Passes (block bound context) Block.Nested
          fun body => [body.span])
    (hBelow : PassesBounded bound context) :
    Passes (statement (bound + 1) context) Stmt.Nested
      fun stmt => [stmt.span] := by
  intro cursor hOrder
  unfold statement
  rw [exec_peek_bind]
  split
  · rename_i hKind
    have hStart := hOrder.word hKind rfl
    rw [exec_advance_bind]
    refine passes_signature.bind hStart
      fun found first _ hFirst => ?_
    refine (passes_expect rfl).bind hFirst
      fun _ second _ hSecond => ?_
    refine (hBlock _).bind
      (hSecond.sublist (List.sublist_append_left _ _))
      fun body after hBody hAfter => ?_
    rcases hAfter.merge List.getLast?_concat with
      ⟨hEncloses, hWhole⟩
    exact onward_pure hWhole ⟨⟨hEncloses.tail, hBody⟩, hWhole⟩
  · rename_i hKind
    have hStart := hOrder.word hKind rfl
    rw [exec_advance_bind]
    refine passes_condition.bind hStart
      fun test first hTest hFirst => ?_
    refine hBelow.block.bind hFirst
      fun body second hBody hSecond => ?_
    refine hBelow.elifClauses.bind hSecond
      fun elifs third hElifs hThird => ?_
    refine hBelow.elseClause.bind hThird
      fun orElse after hElse hAfter => ?_
    rcases hAfter.merge
      (getLast?_branch test body elifs orElse) with
      ⟨hEncloses, hWhole⟩
    exact onward_pure hWhole
      ⟨⟨hEncloses.tail, hTest, hBody, hElifs, hElse⟩, hWhole⟩
  · rename_i hKind
    have hStart := hOrder.word hKind rfl
    rw [exec_advance_bind]
    refine passes_identifier.bind hStart
      fun target first _ hFirst => ?_
    refine (passes_expect rfl).bind hFirst
      fun _ second _ hSecond => ?_
    refine passes_condition.bind
      (hSecond.sublist (List.sublist_append_left _ _))
      fun iterable third hIterable hThird => ?_
    refine (hBlock _).bind hThird
      fun body after hBody hAfter => ?_
    rcases hAfter.merge rfl with ⟨hEncloses, hWhole⟩
    exact onward_pure hWhole
      ⟨⟨hEncloses.tail, hIterable, hBody⟩, hWhole⟩
  · rename_i hKind
    have hStart := hOrder.word hKind rfl
    rw [exec_advance_bind]
    refine passes_condition.bind hStart
      fun test first hTest hFirst => ?_
    refine (hBlock _).bind hFirst
      fun body after hBody hAfter => ?_
    rcases hAfter.merge rfl with ⟨hEncloses, hWhole⟩
    exact onward_pure hWhole
      ⟨⟨hEncloses.tail, hTest, hBody⟩, hWhole⟩
  · rename_i hKind
    exact onward_returnStatement hOrder context hKind
  · rename_i hKind
    exact onward_loopJump hOrder context hKind
      (fun _ => rfl) fun _ => Span.encloses_nil.mpr
  · rename_i hKind
    exact onward_loopJump hOrder context hKind
      (fun _ => rfl) fun _ => Span.encloses_nil.mpr
  · rename_i hKind
    exact onward_passStatement hOrder hKind
  · exact onward_exprStatement hOrder

theorem stmtsPassed_statements
    (hBelow : PassesBounded bound context)
    (hOrder : cursor.InOrder) :
    StmtsPassed cursor
      ((statements (bound + 1) context).run cursor) := by
  rw [run_statements]
  have hStart := hOrder.trail.pastNewlines
  generalize cursor.pastNewlines = start at *
  refine StmtsPassed.after ?_ hStart
  have hTrail := hStart.order.trail
  dsimp only
  split
  · exact stmtsPassed_nil hTrail
  · split
    · rename_i hKind
      exact stmtsPassed_nil
        (hTrail.next (by rw [hKind]; nofun))
    · rename_i hKind
      have hInside :=
        trail_unexpectedIndent hStart.order hKind
      have hRegion := hBelow.statements _ hInside.order
      have hBehind :=
        hInside.append
          (hRegion.2.sublist (List.nil_sublist _))
      exact (hBelow.statements _ hBehind.order).after
        hBehind
    · exact StmtsPassed.goOn hBelow.statements
        (hBelow.statement start hStart.order)

/-
  The parsers of statements and blocks, by induction on the
  bound that they hand to one another.
-/
theorem passesBounded
    (bound : Nat)
    (context : Context) :
    PassesBounded bound context := by
  induction bound generalizing context with
  | zero =>
      refine ⟨?_, ?_, ?_, ?_, ?_⟩
      · exact fun _ hOrder => ⟨hOrder.trail, nofun⟩
      · exact fun _ hOrder => ⟨hOrder.trail, nofun⟩
      · exact fun _ hOrder =>
          onward_pure hOrder.trail ⟨trivial, hOrder.trail⟩
      · exact fun _ hOrder =>
          onward_pure hOrder.trail ⟨trivial, hOrder.trail⟩
      · exact fun _ hOrder => stmtsPassed_nil hOrder.trail
  | succ bound ih =>
      exact
        { statement :=
            passes_statement (fun context => (ih context).block)
              (ih context)
          block := passes_block (ih context)
          elifClauses := passes_elifClauses (ih context)
          elseClause := passes_elseClause (ih context)
          statements := fun _ =>
            stmtsPassed_statements (ih context) }

theorem stmtsPassed_topLevel
    (bound : Nat)
    (hOrder : cursor.InOrder) :
    StmtsPassed cursor ((topLevel bound).run cursor) := by
  induction bound generalizing cursor with
  | zero => exact stmtsPassed_nil hOrder.trail
  | succ bound ih =>
      rw [run_topLevel]
      have hBelow := passesBounded bound {}
      have hStart := hOrder.trail.pastNewlines
      generalize cursor.pastNewlines = start at *
      refine StmtsPassed.after ?_ hStart
      have hTrail := hStart.order.trail
      dsimp only
      split
      · exact stmtsPassed_nil hTrail
      · split
        · rename_i hKind
          have hNext := hTrail.next (by rw [hKind]; nofun)
          exact (ih hNext.order).after hNext
        · rename_i hKind
          have hInside :=
            trail_unexpectedIndent hStart.order hKind
          have hRegion := hBelow.statements _ hInside.order
          have hBehind :=
            hInside.append
              (hRegion.2.sublist (List.nil_sublist _))
          exact (ih hBehind.order).after hBehind
        · exact StmtsPassed.goOn (fun _ => ih)
            (hBelow.statement start hStart.order)

end Parser

end Gantry

------------------------------------------------------------
-- Scripts
------------------------------------------------------------

namespace Gantry

namespace Source

/- A script is read from its first place on. -/
theorem inOrder_start
    {source : Source}
    (hLines : source.lines ≠ []) :
    Cursor.InOrder { rest := source.lex.tokens } := by
  have hEnd :
      ∃ token ∈ source.lex.tokens,
        token.kind = .endOfFile := by
    rw [lex_eq]
    refine ⟨⟨.endOfFile, source.finish⟩, ?_, rfl⟩
    simp [Lexer.closing]
  have hNone :
      ∀ issue ∈ (Log.empty : Log Issue).kept, False :=
    fun issue hIssue => List.not_mem_nil hIssue
  refine ⟨source.inOrder_lex, hEnd, ?_, .nil,
    fun issue hIssue => (hNone issue hIssue).elim⟩
  have hMarks := marks_lex hLines
  unfold Cursor.here
  cases hTokens : source.lex.tokens with
  | nil => simp [hTokens] at hEnd
  | cons token rest =>
      rw [hTokens] at hMarks
      rcases (hMarks token List.mem_cons_self).start with
        ⟨text, hLine, hColumn, _⟩
      have hNumber :=
        bounds_numberedFrom 0 source.lines _
          (mem_numbered.mpr hLine)
      change Position.mk 1 1 ≤ token.span.start
      rw [Position.le_iff]
      dsimp only at *
      omega

/- The issues of a script come in order. -/
theorem inOrder_parse
    {source : Source}
    (hLines : source.lines ≠ []) :
    Issue.InOrder source.parse.log.kept := by
  unfold parse
  dsimp only
  split
  · rw [Parser.parse_eq]
    exact (Parser.stmtsPassed_topLevel _
      (inOrder_start hLines)).2.order.issues
  · exact source.inOrder_issues

/- So do its diagnostics, which stand where its issues do. -/
theorem pairwise_errors
    {source : Source}
    (hLines : source.lines ≠ []) :
    source.errors.Pairwise fun error later =>
      error.span.start ≤ later.span.start :=
  List.pairwise_map.mpr (inOrder_parse hLines)

/- None of them starts before the one that is told. -/
theorem first_le_errors
    {source : Source}
    (hLines : source.lines ≠ []) :
    ∀ error ∈ source.errors,
      ∃ first ∈ source.errors,
        (source.parse.log.map source.diagnose).first? =
            some first ∧
          first.span.start ≤ error.span.start := by
  intro error hError
  have hOrdered := pairwise_errors hLines
  change
    ∃ first ∈ source.errors,
      source.errors.head? = some first ∧
        first.span.start ≤ error.span.start
  cases hErrors : source.errors with
  | nil => simp [hErrors] at hError
  | cons first rest =>
      rw [hErrors, List.pairwise_cons] at hOrdered
      rw [hErrors] at hError
      refine ⟨first, List.mem_cons_self, rfl, ?_⟩
      rcases List.mem_cons.mp hError with rfl | hLater
      · exact Position.le_refl _
      · exact hOrdered.1 error hLater

end Source

namespace Session

/- Only a script that cannot be read has diagnostics. -/
theorem diagnostics_run
    (session : Session)
    (text : String) :
    (session.run text).1.diagnostics = [] ∨
      (session.run text).1 =
        unreadable
          ((Source.ofText scriptName text).parse.log.map
            (Source.ofText scriptName text).diagnose) := by
  cases hRead :
      (Source.ofText scriptName text).parse.program? with
  | none =>
      right
      rw [run_of_unread session hRead]
  | some program =>
      left
      rw [run_of_read session hRead]
      unfold runProgram
      dsimp only
      split <;> rfl

/- The error that a run tells is the earliest of them. -/
theorem told_le_diagnostics
    (session : Session)
    (text : String) :
    ∀ error ∈ (session.run text).1.diagnostics,
      ∃ first ∈ (session.run text).1.diagnostics,
        (session.run text).1.error? = some first.text ∧
          first.span.start ≤ error.span.start := by
  have hFirst :=
    Source.first_le_errors
      (Source.lines_ne_nil scriptName text)
  rcases session.diagnostics_run text with hNone | hReport
  · simp [hNone]
  · rw [hReport]
    unfold Source.errors at hFirst
    generalize
      (Source.ofText scriptName text).parse.log.map _ = log
      at *
    intro error hError
    rcases hFirst error hError with
      ⟨first, hMem, hTold, hStart⟩
    exact ⟨first, hMem, (unreadable_of_first hTold).2,
      hStart⟩

end Session

namespace Source

/-
  The errors of a script are in the order in which they start
  in it. So the one that is reported first, which is the one
  that a run tells, is the earliest of them.
-/
theorem errors_in_source_order
    (name text : String) :
    let source := ofText name text
    source.errors.Pairwise (fun error later =>
        error.span.start ≤ later.span.start) ∧
      (∀ error ∈ source.errors,
        ∃ first ∈ source.errors,
          (source.parse.log.map source.diagnose).first? =
              some first ∧
            first.span.start ≤ error.span.start) ∧
      ∀ session : Session,
        let report := (session.run text).1
        ∀ error ∈ report.diagnostics,
          ∃ first ∈ report.diagnostics,
            report.error? = some first.text ∧
              first.span.start ≤ error.span.start := by
  exact ⟨pairwise_errors (lines_ne_nil name text),
    first_le_errors (lines_ne_nil name text),
    fun session => session.told_le_diagnostics text⟩

/- The target is looked at only behind the value. -/
example :
    (ofText "main.py" "f(x) = 1\nbreak\n").errors.map
        (·.span) =
      [⟨⟨1, 1⟩, ⟨1, 6⟩⟩, ⟨⟨2, 1⟩, ⟨2, 5⟩⟩] := by
  decide +kernel

end Source

end Gantry

------------------------------------------------------------
-- Spans Of A Script
------------------------------------------------------------

namespace Gantry

/- What was passed lies between the first place and the last. -/
theorem Cursor.Trail.encloses
    {origin cursor : Cursor}
    {passed : List Span}
    (hTrail : Trail origin passed cursor)
    (hOrigin : origin.InOrder) :
    (origin.here.merge cursor.previous).Encloses passed where
  proper :=
    Position.le_trans (Position.first_le_left _ _)
      (Position.le_trans hOrigin.proper_here
        (Position.left_le_last _ _))
  parts_proper := hTrail.proper
  covers span hSpan :=
    ⟨Position.le_trans (Position.first_le_left _ _)
        (hTrail.starts span hSpan),
      Position.le_trans (hTrail.stops span hSpan)
        (Position.right_le_last _ _)⟩
  ordered := hTrail.ordered

/-
  The spans of a script that can be read nest: every node
  covers its parts, and these stand one behind the other.
-/
theorem Source.nested_of_parse
    {name text : String}
    {program : Program}
    (hParse :
      (ofText name text).parse.program? = some program) :
    program.Nested := by
  have hOrder := inOrder_start (lines_ne_nil name text)
  unfold parse at hParse
  dsimp only at hParse
  split at hParse
  · rw [Parser.parse_eq] at hParse
    dsimp only at hParse
    have hPassed :=
      Parser.stmtsPassed_topLevel
        (Parser.boundFor (ofText name text).lex.tokens)
        hOrder
    generalize (Parser.topLevel _).run _ = result at *
    split at hParse
    · cases hParse
      exact ⟨hPassed.2.encloses hOrder, hPassed.1⟩
    · cases hParse
  · cases hParse

/- Parentheses and clauses, each covered by what it is in. -/
theorem Source.nested_of_parse_branch :
    ∃ program,
      (ofText "main.py"
            "if a:\n    b = (c)\nelse:\n    f(c, -d)\n"
          ).parse.program? = some program ∧
        program.body.length = 1 ∧ program.Nested := by
  have hRead :
      (ofText "main.py"
            "if a:\n    b = (c)\nelse:\n    f(c, -d)\n"
          ).parse.program?.any
          (fun program => program.body.length == 1) =
        true := by
    decide +kernel
  rcases (Option.any_eq_true _ _).mp hRead with
    ⟨program, hParse, hOne⟩
  exact ⟨program, hParse, beq_iff_eq.mp hOne,
    nested_of_parse hParse⟩

end Gantry
