import Gantry.Proofs.Parser.Soundness
import Gantry.Proofs.Script.Shape
import Gantry.Proofs.Token.Layout

/-
  This file shows that the tree of a script that was read is
  well formed. A jump that nothing encloses and a parameter
  that repeats another are reported, and a block that was
  opened holds the line that opened it.

  Key definitions include:
    * `Gantry.Cursor.Calm`
    * `Gantry.Parser.FitsWithin`
    * `Gantry.Parser.BodyFits`

  Main statements:
    * `Gantry.Parser.gives_distinct`
    * `Gantry.Parser.fits_bounded`
    * `Gantry.Source.wellFormed_of_parse`
-/

------------------------------------------------------------
-- Calm Cursors
------------------------------------------------------------

namespace Gantry

namespace Cursor

/-
  Nothing was reported, levels are opened only for lines with
  words on them, and the bound covers the tokens at hand.
-/
structure Calm
    (bound : Nat)
    (cursor : Cursor) : Prop where
  log : cursor.log = Log.empty
  filled : Token.Filled cursor.rest
  short : 2 * cursor.rest.length < bound

variable
    {bound : Nat}
    {cursor after : Cursor}
    {words : List TokenKind}

theorem Calm.took
    (hCalm : cursor.Calm bound)
    (hTook : cursor.Took words after)
    (hLog : after.log = Log.empty) :
    after.Calm bound where
  log := hLog
  filled := by
    rcases hTook with ⟨used, hUsed, _⟩
    have hFilled := hCalm.filled
    rw [hUsed] at hFilled
    exact hFilled.of_append
  short := by
    have hLength := hTook.length_le
    have hShort := hCalm.short
    omega

/- Behind a word, a smaller bound is enough. -/
theorem Calm.behind
    (hCalm : cursor.Calm bound)
    (hTook : cursor.Took words after)
    (hWords : words ≠ [])
    (hLog : after.log = Log.empty) :
    after.Calm (bound - 1) where
  log := hLog
  filled := (hCalm.took hTook hLog).filled
  short := by
    have hLength := hTook.length_lt hWords
    have hShort := hCalm.short
    omega

end Cursor

namespace Parser

variable {α : Type}

/- Two things that are known of one result. -/
theorem Gives.and
    {trouble : Log Issue → Prop}
    {result : Option α × Cursor}
    {first second : α → Cursor → Prop}
    (hFirst : Gives trouble result first)
    (hSecond : Gives trouble result second) :
    Gives trouble result fun value after =>
      first value after ∧ second value after := by
  rcases hFirst with hTrouble | ⟨value, hValue, hLog, hPost⟩
  · exact Or.inl hTrouble
  · rcases hSecond with hTrouble | ⟨other, hOther, _, hAlso⟩
    · exact Or.inl hTrouble
    · have hSame : value = other :=
        Option.some.inj (hValue.symm.trans hOther)
      subst hSame
      exact Or.inr ⟨value, hValue, hLog, hPost, hAlso⟩

end Parser

end Gantry

------------------------------------------------------------
-- Simple Statements
------------------------------------------------------------

namespace Gantry

namespace Parser

variable {cursor : Cursor}

/- A jump out of a loop stands in one. -/
theorem fits_loopJump
    {context : Context}
    {make : Span → Stmt}
    (word : Keyword)
    (hLog : cursor.log = Log.empty)
    (hMake :
      context.inLoop = true →
        ∀ span, (make span).WellFormed context) :
    Gives Reported (exec (loopJump context word make) cursor)
      fun stmt _ => stmt.WellFormed context := by
  rw [loopJump, exec_advance_bind]
  dsimp only
  split
  · rw [exec_report_bind]
    exact gives_of_reported
      (grows_lineEnd.bind fun _ => grows_pure _)
      (reported_report _ _ _)
  · rename_i hInside
    refine faithful_lineEnd.gives_bind
      (fun _ => grows_pure _) (by simpa using hLog) ?_
    intro _ after hAfter _
    exact gives_some hAfter
      (hMake (by simpa using hInside) _)

/- A return stands in a function. -/
theorem fits_returnStatement
    {context : Context}
    (hLog : cursor.log = Log.empty) :
    Gives Reported (exec (returnStatement context) cursor)
      fun stmt _ => stmt.WellFormed context := by
  rw [returnStatement, exec_advance_bind]
  dsimp only
  split
  · rw [exec_report_bind]
    refine gives_of_reported ?_ (reported_report _ _ _)
    refine grows_returnedValue.bind fun _ => ?_
    exact grows_lineEnd.bind fun _ => grows_pure _
  · rename_i hInside
    refine Gives.bind lasting_reported
      (fun _ => grows_lineEnd.bind fun _ => grows_pure _)
      (gives_returnedValue (by simpa using hLog)) ?_
    intro value middle hMiddle _
    refine faithful_lineEnd.gives_bind
      (fun _ => grows_pure _) hMiddle ?_
    intro _ after hAfter _
    exact gives_some hAfter (by
      simpa [Stmt.WellFormed] using hInside)

theorem fits_passStatement
    (context : Context)
    (hLog : cursor.log = Log.empty) :
    Gives Reported (exec passStatement cursor)
      fun stmt _ => stmt.WellFormed context := by
  rw [passStatement, exec_advance_bind]
  refine faithful_lineEnd.gives_bind (fun _ => grows_pure _)
    (by simpa using hLog) ?_
  intro _ after hAfter _
  exact gives_some hAfter (by simp [Stmt.WellFormed])

theorem wellFormed_of_assignment?
    {target value : Expr}
    {stmt : Stmt}
    (context : Context)
    (hStmt : assignment? target value = some stmt) :
    stmt.WellFormed context := by
  unfold assignment? at hStmt
  dsimp only at hStmt
  split at hStmt
  · cases hStmt
    simp [Stmt.WellFormed]
  · cases hStmt
    simp [Stmt.WellFormed]
  · contradiction

theorem fits_exprStatement
    (context : Context)
    (hLog : cursor.log = Log.empty) :
    Gives Reported (exec exprStatement cursor)
      fun stmt _ => stmt.WellFormed context := by
  refine faithful_expression.gives_bind
    grows_afterExpression hLog ?_
  intro target middle hMiddle _
  rw [exec_check_branch]
  by_cases hEq : middle.kind = .symbol .eq
  · rw [if_pos hEq, exec_advance_bind]
    refine faithful_expression.gives_bind ?_
      (by simpa using hMiddle) ?_
    · intro value
      split
      · exact grows_lineEnd.bind fun _ => grows_pure _
      · exact grows_reject _ _
    · intro value later hLater _
      split
      · rename_i stmt hStmt
        refine faithful_lineEnd.gives_bind
          (fun _ => grows_pure _) hLater ?_
        intro _ after hAfter _
        exact gives_some hAfter
          (wellFormed_of_assignment? context hStmt)
      · exact gives_report later _ _ rfl
  · rw [if_neg hEq]
    refine faithful_lineEnd.gives_bind
      (fun _ => grows_pure _) hMiddle ?_
    intro _ after hAfter _
    exact gives_some hAfter (by simp [Stmt.WellFormed])

end Parser

end Gantry

------------------------------------------------------------
-- Parameters
------------------------------------------------------------

namespace Gantry

namespace Parser

/- No name stands twice among some parameters. -/
def Distinct
    (params : List Ident) : Prop :=
  (params.map (·.name)).Nodup

theorem Distinct.concat
    {seen : List Ident}
    {param : Ident}
    (hSeen : Distinct seen)
    (hNew : seen.any (·.name == param.name) = false) :
    Distinct (seen ++ [param]) := by
  unfold Distinct at *
  rw [List.map_append, List.nodup_append]
  refine ⟨hSeen, by simp, ?_⟩
  simpa [List.any_eq_false] using hNew

/-
  A repeated parameter is reported. The rounds are as many
  as the tokens at hand, so that no name is read unchecked
  after the last of them.
-/
theorem gives_distinct
    (rounds : List Token)
    (seen : List Ident)
    (cursor : Cursor)
    (hLog : cursor.log = Log.empty)
    (hRounds : cursor.rest.length ≤ rounds.length)
    (hSeen : Distinct seen) :
    Gives Reported (exec (parameters rounds seen) cursor)
      fun params _ => Distinct params := by
  induction rounds generalizing seen cursor with
  | nil =>
      refine faithful_identifier.gives_bind
        (fun _ => grows_pure _) hLog ?_
      intro last after _ hLast
      have hShort := hLast.length_lt (by simp)
      simp only [List.length_nil] at hRounds
      omega
  | cons token rounds ih =>
      rw [parameters, exec_check_branch]
      by_cases hClose : cursor.kind = .symbol .rightParen
      · rw [if_pos hClose]
        exact gives_some hLog hSeen
      · rw [if_neg hClose]
        refine faithful_identifier.gives_bind
          (grows_checkedParameter (grows_parameters rounds) seen)
          hLog ?_
        intro param middle hMiddle hParam
        have hShort := hParam.length_lt (by simp)
        dsimp only
        split
        · rw [exec_report_bind]
          refine gives_of_reported ?_
            (reported_report _ _ _)
          exact grows_furtherParameters
            (grows_parameters rounds) seen param
        · rename_i hNew
          have hDistinct :=
            hSeen.concat (Bool.eq_false_iff.mpr hNew)
          rw [exec_eat_bind]
          by_cases hComma : middle.kind = .symbol .comma
          · rw [if_pos hComma]
            have hTook :=
              Cursor.took_group hComma (by simp) rfl
            have hLength := hTook.length_le
            simp only [List.length_cons] at hRounds
            exact ih (seen ++ [param]) middle.next
              (by simpa using hMiddle) (by omega) hDistinct
          · rw [if_neg hComma]
            exact gives_some hMiddle hDistinct

theorem gives_signature
    {cursor : Cursor}
    (hLog : cursor.log = Log.empty) :
    Gives Reported (exec signature cursor)
      fun found _ => Distinct found.2 := by
  refine faithful_identifier.gives_bind ?_ hLog ?_
  · intro name
    refine (grows_expect _).bind fun _ => ?_
    refine grows_get.bind fun _ => ?_
    refine (grows_parameters _ _).bind fun _ => ?_
    exact (grows_expect _).bind fun _ => grows_pure _
  · intro name first hFirst _
    have hOpen :
        Faithful (expect (.symbol .leftParen)) fun _ => [] :=
      faithful_expectGroup (by simp) rfl
    refine hOpen.gives_bind ?_ hFirst ?_
    · intro _
      refine grows_get.bind fun _ => ?_
      refine (grows_parameters _ _).bind fun _ => ?_
      exact (grows_expect _).bind fun _ => grows_pure _
    · intro _ second hSecond _
      rw [exec_get_bind]
      refine Gives.bind lasting_reported
        (fun _ => (grows_expect _).bind fun _ =>
          grows_pure _)
        (gives_distinct _ [] second hSecond (Nat.le_refl _)
          List.nodup_nil) ?_
      intro params third hThird hDistinct
      refine faithful_closeParen.gives_bind
        (fun _ => grows_pure _) hThird ?_
      intro _ after hAfter _
      exact gives_some hAfter hDistinct

end Parser

end Gantry

------------------------------------------------------------
-- Blocks
------------------------------------------------------------

namespace Gantry

namespace Parser

variable {α : Type}

/- A parser gives only what fits, on few enough tokens. -/
def FitsWithin
    (bound : Nat)
    (parser : Parser α)
    (fits : α → Prop) : Prop :=
  ∀ cursor : Cursor, cursor.Calm bound →
    Gives Reported (exec parser cursor)
      fun value _ => fits value

/-
  The statements of a body fit what encloses them, and there
  is one of them if the body begins with a word.
-/
def BodyFits
    (bound : Nat)
    (context : Context) : Prop :=
  ∀ cursor : Cursor, cursor.Calm (bound - 1) →
    Gives Reported
      (exec (liftM (statements bound context)) cursor)
      fun stmts _ =>
        Stmt.ListWellFormed context stmts ∧
          (Token.Leads cursor.rest → stmts ≠ [])

variable {bound : Nat}

/- A block is opened in front of a word. -/
theorem leads_blockStart
    {cursor : Cursor}
    (hCalm : cursor.Calm (bound + 1)) :
    Gives Reported (exec blockStart cursor)
      fun _ after =>
        after.Calm (bound - 1) ∧
          Token.Leads after.rest := by
  rw [blockStart, exec_peek_bind]
  by_cases hNewline : cursor.kind = .newline
  · rw [beq_iff_eq.mpr hNewline, if_pos rfl,
      exec_advance_bind, exec_check_branch]
    by_cases hIndent : cursor.next.kind = .indent
    · rcases Cursor.rest_of_kind
        (by rw [hNewline]; simp) with ⟨_, hLine, _⟩
      rcases Cursor.rest_of_kind
        (by rw [hIndent]; simp) with ⟨opener, hRest, hKind⟩
      have hLog : cursor.next.next.log = Log.empty := by
        simpa using hCalm.log
      have hFilled := hCalm.filled
      have hShort := hCalm.short
      rw [hLine, hRest] at hFilled hShort
      simp only [List.length_cons] at hShort
      rw [if_pos hIndent, exec_advance]
      refine gives_some hLog ⟨⟨hLog, ?_, by omega⟩, ?_⟩
      · exact hFilled.2.2
      · exact hFilled.2.1 (hKind.trans hIndent)
    · rw [if_neg hIndent]
      exact gives_report cursor.next _ _ rfl
  · rw [beq_eq_false_iff_ne.mpr hNewline]
    exact gives_report cursor _ _ rfl

/- A cursor in front of a word. -/
theorem isLayout_kind
    {cursor : Cursor}
    (hLeads : Token.Leads cursor.rest) :
    cursor.kind.isLayout = false := by
  unfold Cursor.kind
  split
  · rename_i hRest
    rw [hRest] at hLeads
    exact hLeads.elim
  · rename_i token rest hRest
    rw [hRest] at hLeads
    exact hLeads

theorem fits_block
    {context : Context}
    (hGrows : Grows (liftM (statements bound context)))
    (hBody : BodyFits bound context) :
    FitsWithin (bound + 1) (block (bound + 1) context)
      (Block.WellFormed context) := by
  intro cursor hCalm
  unfold block
  refine Gives.bind lasting_reported
    (fun _ => hGrows.bind fun _ => grows_pure _)
    (leads_blockStart hCalm) ?_
  rintro start middle hMiddle ⟨hInside, hLeads⟩
  refine Gives.bind lasting_reported (fun _ => grows_pure _)
    (hBody middle hInside) ?_
  rintro stmts after hAfter ⟨hStmts, hSome⟩
  apply gives_some hAfter
  rw [Block.WellFormed]
  exact ⟨hSome hLeads, hStmts⟩

theorem fits_elifClauses
    {context : Context}
    (hBlock :
      FitsWithin bound (block bound context)
        (Block.WellFormed context))
    (hElifs :
      FitsWithin bound (elifClauses bound context)
        (Elif.ListWellFormed context)) :
    FitsWithin (bound + 1) (elifClauses (bound + 1) context)
      (Elif.ListWellFormed context) := by
  rcases grows_bounded bound context with
    ⟨_, gBlock, gElifs, _, _⟩
  intro cursor hCalm
  rw [elifClauses, exec_check_branch]
  by_cases hKind : cursor.kind = .keyword .elifWord
  · have hTook := Cursor.took_word hKind (by simp) rfl
    rw [if_pos hKind, exec_advance_bind]
    refine faithful_condition.gives_bind
      (fun _ => gBlock.bind fun _ =>
        gElifs.bind fun _ => grows_pure _)
      (by simpa using hCalm.log) ?_
    intro test second hSecond hTest
    have hInside : second.Calm bound :=
      hCalm.behind (hTook.trans hTest) (by simp) hSecond
    refine Gives.bind lasting_reported
      (fun _ => gElifs.bind fun _ => grows_pure _)
      (((faithful_bounded bound context).2.1 second hSecond
        hInside.short).and (hBlock second hInside)) ?_
    rintro body third hThird ⟨hTaken, hBody⟩
    refine Gives.bind lasting_reported
      (fun _ => grows_pure _)
      (hElifs third (hInside.took hTaken hThird)) ?_
    intro others after hAfter hOthers
    apply gives_some hAfter
    rw [Elif.ListWellFormed, Elif.WellFormed]
    exact ⟨hBody, hOthers⟩
  · rw [if_neg hKind]
    exact gives_some hCalm.log (by simp [Elif.ListWellFormed])

theorem fits_elseClause
    {context : Context}
    (hBlock :
      FitsWithin bound (block bound context)
        (Block.WellFormed context)) :
    FitsWithin (bound + 1) (elseClause (bound + 1) context)
      (Block.ElseWellFormed context) := by
  have gBlock := (grows_bounded bound context).2.1
  intro cursor hCalm
  rw [elseClause, exec_eat_bind]
  by_cases hKind : cursor.kind = .keyword .elseWord
  · have hTook := Cursor.took_word hKind (by simp) rfl
    rw [if_pos hKind]
    refine faithful_colon.gives_bind
      (fun _ => gBlock.bind fun _ => grows_pure _)
      (by simpa using hCalm.log) ?_
    intro _ middle hMiddle hColon
    have hInside : middle.Calm bound :=
      hCalm.behind (hTook.trans hColon) (by simp) hMiddle
    refine Gives.bind lasting_reported
      (fun _ => grows_pure _) (hBlock middle hInside) ?_
    intro body after hAfter hBody
    apply gives_some hAfter
    rw [Block.ElseWellFormed]
    exact hBody
  · rw [if_neg hKind]
    exact gives_some hCalm.log
      (by simp [Block.ElseWellFormed])

theorem fits_statements
    {context : Context}
    (hStatement :
      FitsWithin bound (statement bound context)
        (Stmt.WellFormed context))
    (hBody : BodyFits bound context) :
    BodyFits (bound + 1) context := by
  have gStatements :=
    grows_lift (grows_bounded bound context).2.2.2.2
  have tStatement := (faithful_bounded bound context).1
  intro cursor hCalm
  have hStart := cursor.took_pastNewlines
  have hStartCalm : cursor.pastNewlines.Calm bound :=
    hCalm.took hStart (by simpa using hCalm.log)
  have hWord :
      Token.Leads cursor.rest →
        cursor.pastNewlines.kind.isLayout = false := by
    intro hLeads
    have hKind := isLayout_kind hLeads
    rw [Cursor.pastNewlines_of_kind]
    · exact hKind
    · intro hNewline
      rw [hNewline] at hKind
      contradiction
  rw [exec_lift, run_statements]
  generalize cursor.pastNewlines = start at *
  dsimp only
  rw [hStartCalm.log, Log.isFull_empty, Bool.false_or]
  split
  · rename_i hEnd
    refine gives_some hStartCalm.log
      ⟨trivial, fun hLeads => ?_⟩
    have hKind := hWord hLeads
    rw [beq_iff_eq.mp hEnd] at hKind
    contradiction
  · split
    · rename_i hDedent
      refine gives_some (by simpa using hStartCalm.log)
        ⟨trivial, fun hLeads => ?_⟩
      have hKind := hWord hLeads
      rw [hDedent] at hKind
      contradiction
    · left
      refine lasting_reported _ _ (gStatements _) ?_
      refine lasting_reported _ _ (gStatements _) ?_
      exact reported_report _ _ _
    · refine gives_goOn lasting_reported gStatements
        ((tStatement start hStartCalm.log
          hStartCalm.short).and
          (hStatement start hStartCalm)) ?_
      rintro stmt after hAfter ⟨hTook, hStmt⟩
      have hBehind : after.Calm (bound - 1) :=
        hStartCalm.behind hTook stmt.words_ne_nil hAfter
      refine (hBody after hBehind).imp ?_
      rintro others last ⟨hOthers, _⟩
      rw [Stmt.ListWellFormed]
      exact ⟨⟨hStmt, hOthers⟩, fun _ => by simp⟩

end Parser

end Gantry

------------------------------------------------------------
-- Statements
------------------------------------------------------------

namespace Gantry

namespace Parser

section Compound

/-
  The statements that hold further ones, with what the parts
  of them are known to give below the bound.
-/
variable
    {bound : Nat}
    {context : Context}
    {cursor : Cursor}
    (hBlock :
      ∀ context,
        FitsWithin bound (block bound context)
          (Block.WellFormed context))
    (hCalm : cursor.Calm (bound + 1))

include hBlock hCalm

theorem fits_define
    (hKind : cursor.kind = .keyword .defWord) :
    Gives Reported
      (exec (statement (bound + 1) context) cursor)
      fun stmt _ => stmt.WellFormed context := by
  have gBlock := fun context =>
    (grows_bounded bound context).2.1
  have hTook := Cursor.took_word hKind (by simp) rfl
  have hLog : cursor.next.log = Log.empty := by
    simpa using hCalm.log
  unfold statement
  rw [exec_peek_bind, hKind]
  dsimp only
  rw [exec_advance_bind]
  refine Gives.bind lasting_reported ?_
    ((faithful_signature cursor.next hLog).and
      (gives_signature hLog)) ?_
  · intro found
    refine (grows_expect _).bind fun _ => ?_
    exact (gBlock _).bind fun _ => grows_pure _
  · rintro ⟨name, params⟩ second hSecond
      ⟨hSignature, hDistinct⟩
    refine faithful_colon.gives_bind
      (fun _ => (gBlock _).bind fun _ => grows_pure _)
      hSecond ?_
    intro _ third hThird hColon
    have hInside : third.Calm bound :=
      hCalm.behind ((hTook.trans hSignature).trans hColon)
        (by simp) hThird
    refine Gives.bind lasting_reported
      (fun _ => grows_pure _) (hBlock _ third hInside) ?_
    intro body after hAfter hBody
    apply gives_some hAfter
    rw [Stmt.WellFormed]
    exact ⟨hDistinct, hBody⟩

theorem fits_forLoop
    (hKind : cursor.kind = .keyword .forWord) :
    Gives Reported
      (exec (statement (bound + 1) context) cursor)
      fun stmt _ => stmt.WellFormed context := by
  have gBlock := fun context =>
    (grows_bounded bound context).2.1
  have hTook := Cursor.took_word hKind (by simp) rfl
  have hIn :
      Faithful (expect (.keyword .inWord)) fun _ =>
        [.keyword .inWord] :=
    faithful_expectWord (by simp) rfl
  unfold statement
  rw [exec_peek_bind, hKind]
  dsimp only
  rw [exec_advance_bind]
  refine faithful_identifier.gives_bind ?_
    (by simpa using hCalm.log) ?_
  · intro target
    refine (grows_expect _).bind fun _ => ?_
    refine grows_condition.bind fun _ => ?_
    exact (gBlock _).bind fun _ => grows_pure _
  · intro target second hSecond hTarget
    refine hIn.gives_bind ?_ hSecond ?_
    · intro _
      refine grows_condition.bind fun _ => ?_
      exact (gBlock _).bind fun _ => grows_pure _
    · intro _ third hThird hWord
      refine faithful_condition.gives_bind
        (fun _ => (gBlock _).bind fun _ => grows_pure _)
        hThird ?_
      intro iterable fourth hFourth hIterable
      have hInside : fourth.Calm bound :=
        hCalm.behind
          (((hTook.trans hTarget).trans hWord).trans
            hIterable) (by simp) hFourth
      refine Gives.bind lasting_reported
        (fun _ => grows_pure _) (hBlock _ fourth hInside) ?_
      intro body after hAfter hBody
      apply gives_some hAfter
      rw [Stmt.WellFormed]
      exact hBody

theorem fits_whileLoop
    (hKind : cursor.kind = .keyword .whileWord) :
    Gives Reported
      (exec (statement (bound + 1) context) cursor)
      fun stmt _ => stmt.WellFormed context := by
  have gBlock := fun context =>
    (grows_bounded bound context).2.1
  have hTook := Cursor.took_word hKind (by simp) rfl
  unfold statement
  rw [exec_peek_bind, hKind]
  dsimp only
  rw [exec_advance_bind]
  refine faithful_condition.gives_bind
    (fun _ => (gBlock _).bind fun _ => grows_pure _)
    (by simpa using hCalm.log) ?_
  intro test second hSecond hTest
  have hInside : second.Calm bound :=
    hCalm.behind (hTook.trans hTest) (by simp) hSecond
  refine Gives.bind lasting_reported
    (fun _ => grows_pure _) (hBlock _ second hInside) ?_
  intro body after hAfter hBody
  apply gives_some hAfter
  rw [Stmt.WellFormed]
  exact hBody

theorem fits_branch
    (hElifs :
      FitsWithin bound (elifClauses bound context)
        (Elif.ListWellFormed context))
    (hElse :
      FitsWithin bound (elseClause bound context)
        (Block.ElseWellFormed context))
    (hKind : cursor.kind = .keyword .ifWord) :
    Gives Reported
      (exec (statement (bound + 1) context) cursor)
      fun stmt _ => stmt.WellFormed context := by
  rcases grows_bounded bound context with
    ⟨_, gBlock, gElifs, gElse, _⟩
  rcases faithful_bounded bound context with
    ⟨_, tBlock, tElifs, _, _⟩
  have hTook := Cursor.took_word hKind (by simp) rfl
  unfold statement
  rw [exec_peek_bind, hKind]
  dsimp only
  rw [exec_advance_bind]
  refine faithful_condition.gives_bind ?_
    (by simpa using hCalm.log) ?_
  · intro test
    refine gBlock.bind fun _ => gElifs.bind fun _ => ?_
    exact gElse.bind fun _ => grows_pure _
  · intro test second hSecond hTest
    have hInside : second.Calm bound :=
      hCalm.behind (hTook.trans hTest) (by simp) hSecond
    refine Gives.bind lasting_reported
      (fun _ => gElifs.bind fun _ =>
        gElse.bind fun _ => grows_pure _)
      ((tBlock second hSecond hInside.short).and
        (hBlock _ second hInside)) ?_
    rintro body third hThird ⟨hTaken, hBody⟩
    have hBehind := hInside.took hTaken hThird
    refine Gives.bind lasting_reported
      (fun _ => gElse.bind fun _ => grows_pure _)
      ((tElifs third hThird hBehind.short).and
        (hElifs third hBehind)) ?_
    rintro elifs fourth hFourth ⟨hMore, hClauses⟩
    refine Gives.bind lasting_reported
      (fun _ => grows_pure _)
      (hElse fourth (hBehind.took hMore hFourth)) ?_
    intro orElse after hAfter hOtherwise
    apply gives_some hAfter
    rw [Stmt.WellFormed]
    exact ⟨hBody, hClauses, hOtherwise⟩

end Compound

variable {bound : Nat}

theorem fits_statement
    {context : Context}
    (hBlock :
      ∀ context,
        FitsWithin bound (block bound context)
          (Block.WellFormed context))
    (hElifs :
      FitsWithin bound (elifClauses bound context)
        (Elif.ListWellFormed context))
    (hElse :
      FitsWithin bound (elseClause bound context)
        (Block.ElseWellFormed context)) :
    FitsWithin (bound + 1) (statement (bound + 1) context)
      (Stmt.WellFormed context) := by
  intro cursor hCalm
  cases hKind : cursor.kind with
  | keyword word =>
      cases word with
      | defWord => exact fits_define hBlock hCalm hKind
      | ifWord =>
          exact fits_branch hBlock hCalm hElifs hElse hKind
      | forWord => exact fits_forLoop hBlock hCalm hKind
      | whileWord => exact fits_whileLoop hBlock hCalm hKind
      | returnWord =>
          rw [statement, exec_peek_bind, hKind]
          exact fits_returnStatement hCalm.log
      | breakWord =>
          rw [statement, exec_peek_bind, hKind]
          exact fits_loopJump .breakWord hCalm.log
            fun hLoop _ => by simpa [Stmt.WellFormed]
      | continueWord =>
          rw [statement, exec_peek_bind, hKind]
          exact fits_loopJump .continueWord hCalm.log
            fun hLoop _ => by simpa [Stmt.WellFormed]
      | passWord =>
          rw [statement, exec_peek_bind, hKind]
          exact fits_passStatement context hCalm.log
      | _ =>
          rw [statement, exec_peek_bind, hKind]
          exact fits_exprStatement context hCalm.log
  | _ =>
      rw [statement, exec_peek_bind, hKind]
      exact fits_exprStatement context hCalm.log

/-
  The five parsers of statements and blocks, by induction on
  the bound that they hand to one another.
-/
theorem fits_bounded
    (bound : Nat)
    (context : Context) :
    FitsWithin bound (statement bound context)
        (Stmt.WellFormed context) ∧
      FitsWithin bound (block bound context)
        (Block.WellFormed context) ∧
      FitsWithin bound (elifClauses bound context)
        (Elif.ListWellFormed context) ∧
      FitsWithin bound (elseClause bound context)
        (Block.ElseWellFormed context) ∧
      BodyFits bound context := by
  induction bound generalizing context with
  | zero =>
      refine ⟨?_, ?_, ?_, ?_, ?_⟩
      all_goals
        intro cursor hCalm
        exact absurd hCalm.short (Nat.not_lt_zero _)
  | succ bound ih =>
      rcases ih context with
        ⟨hStatement, hBlock, hElifs, hElse, hBody⟩
      have gStatements :=
        (grows_bounded bound context).2.2.2.2
      refine ⟨?_, ?_, ?_, ?_, ?_⟩
      · exact fits_statement
          (fun context => (ih context).2.1) hElifs hElse
      · exact fits_block (grows_lift gStatements) hBody
      · exact fits_elifClauses hBlock hElifs
      · exact fits_elseClause hBlock
      · exact fits_statements hStatement hBody

end Parser

end Gantry

------------------------------------------------------------
-- Scripts
------------------------------------------------------------

namespace Gantry

namespace Parser

/- Nothing encloses the statements of a script. -/
theorem fits_topLevel
    (bound : Nat)
    (cursor : Cursor)
    (hCalm : cursor.Calm (bound - 1)) :
    Gives Reported (exec (liftM (topLevel bound)) cursor)
      fun stmts _ => Stmt.ListWellFormed {} stmts := by
  induction bound generalizing cursor with
  | zero => exact absurd hCalm.short (Nat.not_lt_zero _)
  | succ bound ih =>
      have gTop :=
        grows_lift (extends_topLevel bound)
      have gInside :=
        grows_lift (grows_bounded bound {}).2.2.2.2
      have hStart := cursor.took_pastNewlines
      have hStartCalm : cursor.pastNewlines.Calm bound :=
        hCalm.took hStart (by simpa using hCalm.log)
      rw [exec_lift, run_topLevel]
      generalize cursor.pastNewlines = start at *
      dsimp only
      rw [hStartCalm.log, Log.isFull_empty, Bool.false_or]
      split
      · exact gives_some hStartCalm.log trivial
      · split
        · rename_i hKind
          have hTook := Cursor.took_group hKind (by simp) rfl
          have hLess :=
            Cursor.length_next_lt (by rw [hKind]; simp)
          have hShort := hStartCalm.short
          have hNext :=
            hStartCalm.took hTook
              (by simpa using hStartCalm.log)
          exact ih start.next
            ⟨hNext.log, hNext.filled, by omega⟩
        · left
          refine lasting_reported _ _ (gTop _) ?_
          refine lasting_reported _ _ (gInside _) ?_
          exact reported_report _ _ _
        · refine gives_goOn lasting_reported
            (extends_topLevel bound)
            (((faithful_bounded bound {}).1 start
              hStartCalm.log hStartCalm.short).and
              ((fits_bounded bound {}).1 start
                hStartCalm)) ?_
          rintro stmt after hAfter ⟨hTook, hStmt⟩
          have hBehind : after.Calm (bound - 1) :=
            hStartCalm.behind hTook stmt.words_ne_nil hAfter
          refine (ih after hBehind).imp ?_
          intro others last hOthers
          rw [Stmt.ListWellFormed]
          exact ⟨hStmt, hOthers⟩

end Parser

/- The tree of a script that was read is well formed. -/
theorem Source.wellFormed_of_parse
    {source : Source}
    {program : Program}
    (hParse : source.parse.program? = some program) :
    program.WellFormed := by
  unfold parse at hParse
  dsimp only at hParse
  split at hParse
  · rename_i hClean
    rw [Parser.parse_eq] at hParse
    dsimp only at hParse
    split at hParse
    · rename_i hSilent
      cases hParse
      rcases Parser.fits_topLevel
          (Parser.boundFor source.lex.tokens)
          { rest := source.lex.tokens }
          ⟨rfl, source.filled_lex hClean, by
            simp [Parser.boundFor]⟩ with
        hReported | ⟨stmts, hStmts, _, hFits⟩
      · have hTotal := beq_iff_eq.mp hSilent
        exact absurd hTotal
          (Nat.pos_iff_ne_zero.mp hReported)
      · cases hStmts
        exact hFits
    · contradiction
  · contradiction

end Gantry
