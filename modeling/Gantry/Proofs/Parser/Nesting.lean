import Gantry.Proofs.Parser.Completeness

/-
  This file measures how deep lists may be nested. An
  expression of literals and lists is read back exactly when
  it is no deeper than the room there is: each bracket takes
  one level, and nothing else takes any.

  Key definitions include:
    * `Gantry.Expr.Plain`
    * `Gantry.Expr.nesting`

  Main statements:
    * `Gantry.Parser.reads_plain`
    * `Gantry.Parser.parse_line`
    * `Gantry.Parser.parse_plain`
-/

------------------------------------------------------------
-- Plain Expressions
------------------------------------------------------------

namespace Gantry

namespace Expr

mutual

/- An expression of literals and lists only. -/
def Plain :
    Expr → Prop
| literal _ _ => True
| list items _ => ListPlain items
| _ => False

def ListPlain :
    List Expr → Prop
| [] => True
| item :: items => item.Plain ∧ ListPlain items

end

mutual

/-
  How deep lists are nested. Whatever is no list, and a list
  without items, is one level.
-/
def nesting :
    Expr → Nat
| list items _ => listNesting items + 1
| _ => 1

/- The nesting of the deepest of several expressions. -/
def listNesting :
    List Expr → Nat
| [] => 0
| item :: items => max item.nesting (listNesting items)

end

theorem nesting_pos
    (expr : Expr) :
    0 < expr.nesting := by
  cases expr <;> simp [nesting]

/- A plain expression does not begin with an operator. -/
theorem Plain.headD_render
    {expr : Expr}
    (hPlain : expr.Plain)
    (follow : List TokenKind)
    (op : UnaryOp) :
    (expr.render ++ follow).headD .endOfFile ≠ op.kind := by
  have hLevel : expr.level = 8 := by
    cases expr <;> first | rfl | contradiction
  rcases expr.opens_render with ⟨kind, rest, hTokens, _, hMark⟩
  rw [hTokens, List.cons_append, List.headD_cons]
  apply hMark
  rw [hLevel]
  exact op.level_lt

theorem listPlain_iff
    (items : List Expr) :
    ListPlain items ↔ ∀ item ∈ items, item.Plain := by
  induction items with
  | nil => simp [ListPlain]
  | cons item items ih => simp [ListPlain, ih]

theorem listNesting_le_iff
    (items : List Expr)
    (room : Nat) :
    listNesting items ≤ room ↔
      ∀ item ∈ items, item.nesting ≤ room := by
  induction items with
  | nil => simp [listNesting]
  | cons item items ih =>
      rw [listNesting, Nat.max_le, ih, List.forall_mem_cons]

end Expr

end Gantry

------------------------------------------------------------
-- Reading Plain Expressions
------------------------------------------------------------

namespace Gantry

namespace Parser

variable
    {roomy : Prop}
    {inner operand : Nat → Parser Expr}
    {room : Nat}
    {kinds follow : List TokenKind}
    {post : Expr → Prop}

/- A chain of one operand. -/
theorem reads_level_single
    {op? : TokenKind → Option BinaryOp}
    {least : Nat}
    (hOps : Recognizes op? least)
    (hGrows : ∀ room, Grows (operand room))
    (hStops : Stops least follow)
    (hOperand : Reads roomy (operand room) kinds follow post) :
    Reads roomy (level op? operand room) kinds follow
      post := by
  rw [← List.append_nil kinds]
  apply Reads.bind hOperand
  · intro left
    exact grows_chain op? hGrows room left
  · intro left hLeft
    apply (reads_chain_end hOps hStops room left).imp
    rintro found rfl
    exact hLeft

/- No operator in front of an operand. -/
theorem reads_prefixed_single
    (op : UnaryOp)
    (hHead : (kinds ++ follow).headD .endOfFile ≠ op.kind)
    (hOperand : Reads roomy (operand room) kinds follow post) :
    Reads roomy (prefixed op op.kind operand room) kinds
      follow post := by
  have hMark := beq_eq_false_iff_ne.mpr hHead
  cases room with
  | zero =>
      rw [prefixed]
      apply Reads.check_bind op.kind rfl
      rw [hMark]
      exact hOperand
  | succ room =>
      rw [prefixed]
      apply Reads.check_bind op.kind rfl
      rw [hMark]
      exact hOperand

/- An expression without operators. -/
theorem reads_disjunction_single
    (hGrows : ∀ room, Grows (inner room))
    (hStops : Stops 1 follow)
    (hHead :
      ∀ op : UnaryOp,
        (kinds ++ follow).headD .endOfFile ≠ op.kind)
    (hOperand :
      Reads roomy (Parser.operand inner room) kinds follow
        post) :
    Reads roomy (disjunction inner room) kinds follow
      post := by
  have gOperand := grows_operand hGrows
  have gSigned :=
    grows_prefixed .neg (.symbol .minus) gOperand
  have gProduct := grows_level productOp? gSigned
  have gSum := grows_level sumOp? gProduct
  have gComparison := grows_level comparisonOp? gSum
  have gNegation :=
    grows_prefixed .not (.keyword .notWord) gComparison
  have gConjunction := grows_level andOp? gNegation
  apply reads_level_single recognizes_or gConjunction hStops
  apply reads_level_single recognizes_and gNegation
    (hStops.mono (by decide))
  apply reads_prefixed_single .not (hHead .not)
  apply reads_level_single recognizes_comparison gSum
    (hStops.mono (by decide))
  apply reads_level_single recognizes_sum gProduct
    (hStops.mono (by decide))
  apply reads_level_single recognizes_product gSigned
    (hStops.mono (by decide))
  exact reads_prefixed_single .neg (hHead .neg)
    hOperand

/- A primary without suffixes. -/
theorem reads_operand_single
    (hGrows : ∀ room, Grows (inner room))
    (hStops : Stops 8 follow)
    (hPrimary :
      Reads roomy (primary (inner room)) kinds follow post) :
    Reads roomy (Parser.operand inner room) kinds follow
      post := by
  rw [← List.append_nil kinds]
  apply Reads.bind hPrimary
  · intro object
    exact grows_suffixes hGrows room object
  · intro object hObject
    apply (reads_suffixes_end hStops room object).imp
    rintro found rfl
    exact hObject

/- A list of which every item fits the room inside it. -/
theorem reads_primary_list
    {item : Parser Expr}
    {fits : Expr → Prop}
    (hGrows : Grows item)
    (items : List Expr)
    (hItem :
      ∀ expr ∈ items, ∀ behind, Stops 1 behind →
        Reads roomy item expr.render behind
          fun found =>
            found.erase = expr.erase ∧ fits expr)
    (span : Span) :
    Reads roomy (primary item)
      (Expr.list items span).render follow
      fun found =>
        found.erase = (Expr.list items span).erase ∧
          ∀ expr ∈ items, fits expr := by
  unfold primary
  apply Reads.here_bind
  intro start
  apply Reads.peek_bind rfl
  apply Reads.advance_bind
  intro _
  apply Reads.map
    (reads_enclosed closes_bracket hGrows items hItem)
  rintro ⟨found, stop⟩ ⟨hErase, hFits⟩
  constructor
  · rw [Expr.erase, Expr.erase, hErase]
  · exact hFits

/-
  A plain expression is read exactly when it fits, by
  induction on the brackets.
-/
theorem reads_plain
    (brackets : Nat)
    {expr : Expr}
    (hPlain : expr.Plain)
    (hBrackets : room ≤ brackets)
    (hStops : Stops 1 follow)
    (hRoom : roomy → expr.nesting ≤ room) :
    Reads roomy (expressionWithin brackets room) expr.render
      follow fun found =>
        found.erase = expr.erase ∧ expr.nesting ≤ room := by
  have hPos := expr.nesting_pos
  induction brackets generalizing room expr follow with
  | zero =>
      apply reads_tooDeep
      intro hRoomy
      have := hRoom hRoomy
      omega
  | succ brackets ih =>
      cases room with
      | zero =>
          apply reads_tooDeep
          intro hRoomy
          have := hRoom hRoomy
          omega
      | succ room =>
          have hGrows := grows_expressionWithin brackets
          rw [expressionWithin]
          apply reads_disjunction_single hGrows hStops
            (hPlain.headD_render follow)
          apply reads_operand_single hGrows
            (hStops.mono (by decide))
          cases expr with
          | literal value span =>
              apply (reads_literal value).imp
              intro found hFound
              exact ⟨hFound, Nat.succ_pos room⟩
          | list items span =>
              rw [Expr.Plain, Expr.listPlain_iff] at hPlain
              rw [Expr.nesting, Nat.add_le_add_iff_right,
                Expr.listNesting_le_iff] at hRoom ⊢
              apply reads_primary_list (hGrows room)
              intro item hItem behind hBehind
              exact ih (hPlain item hItem) (by omega) hBehind
                (fun hRoomy => hRoom hRoomy item hItem)
                item.nesting_pos
          | _ => contradiction

/- A script of one line with an expression on it. -/
theorem reads_topLevel_line
    (bound : Nat)
    {kind : TokenKind}
    {rest : List TokenKind}
    (hTokens : kinds = kind :: rest)
    (hStarts : kind.startsExpr = true)
    (hBound : 4 < bound)
    (hExpr :
      Reads roomy expression kinds [.newline, .endOfFile]
        post) :
    Reads roomy (liftM (topLevel bound))
      (kinds ++ [.newline]) [.endOfFile]
      fun found =>
        ∃ expr span,
          found = [.expr expr span] ∧ post expr := by
  intro cursor hLog hKinds
  rcases bound with _ | _ | bound
  · contradiction
  · contradiction
  · have hKind : cursor.kind = kind := by
      rw [cursor.kind_eq_headD, hKinds, hTokens]
      rfl
    have hGoesOn : GoesOn cursor.kind := by
      rw [hKind]
      refine ⟨?_, ?_, ?_, ?_⟩
      all_goals
        rintro rfl
        contradiction
    have hStmt :
        Reads roomy (statement (bound + 1) {})
          (kinds ++ [.newline]) [.endOfFile] _ :=
      reads_statement_expr (by rw [hTokens]; rfl) hStarts
        (reads_exprStatement_line hExpr)
    have hEnd :
        Reads roomy (liftM (topLevel (bound + 1))) []
          [.endOfFile] fun found =>
            Stmt.listErase found = Stmt.listErase [] :=
      reads_topLevel (bound + 1) [] trivial
        (fun _ => by simp [Stmt.listExpressions, Small])
        (by simp [Stmt.listRender]; omega)
    rw [exec_lift, run_topLevel_goOn hLog hGoesOn]
    refine gives_goOn lasting_crowded
      (extends_topLevel (bound + 1))
      (hStmt cursor hLog hKinds) ?_
    rintro _ after hAfter ⟨⟨expr, span, rfl, hPost⟩, hRest⟩
    refine (hEnd after hAfter hRest).imp ?_
    rintro others last ⟨hOthers, hLast⟩
    cases others with
    | nil => exact ⟨⟨expr, span, rfl, hPost⟩, hLast⟩
    | cons other others => contradiction

/- Nothing is given where the nesting is too deep. -/
theorem program?_of_crowded
    {tokens : List Token}
    (hCrowded :
      Crowded roomy
        ((topLevel (boundFor tokens)).run
          { rest := tokens }).2.log) :
    (parse tokens).program? = none := by
  have hExtends :=
    extends_topLevel (boundFor tokens) { rest := tokens }
  have hSome :
      ((topLevel (boundFor tokens)).run
        { rest := tokens }).2.log.isEmpty = false := by
    rw [← Bool.not_eq_true, hExtends.isEmpty_iff]
    intro hFirst
    have hFault := hCrowded.2
    rw [hFirst] at hFault
    contradiction
  rw [parse_eq]
  dsimp only
  rw [hSome]
  rfl

/-
  A line with an expression on it is a script of just this
  expression, or it is nested too deep.
-/
theorem parse_line
    {tokens : List Token}
    {kind : TokenKind}
    {rest : List TokenKind}
    (hOpens : kinds = kind :: rest)
    (hStarts : kind.startsExpr = true)
    (hTokens :
      tokens.map (·.kind) = kinds ++ [.newline, .endOfFile])
    (hExpr :
      Reads roomy expression kinds [.newline, .endOfFile]
        post) :
    (∃ found span whole,
      (parse tokens).program? =
          some ⟨[.expr found span], whole⟩ ∧
        post found) ∨
    (¬ roomy ∧ (parse tokens).program? = none) := by
  have hBound : 4 < boundFor tokens := by
    have hLength := congrArg List.length hTokens
    rw [List.length_map, List.length_append] at hLength
    unfold boundFor
    rw [List.length_cons] at hLength
    omega
  have hRead :=
    reads_topLevel_line (boundFor tokens) hOpens hStarts
      hBound hExpr
  have hKinds :
      (Cursor.kinds { rest := tokens }) =
        (kinds ++ [.newline]) ++ [.endOfFile] := by
    rw [List.append_assoc]
    exact hTokens
  rcases hRead { rest := tokens } rfl hKinds with
    hCrowded | ⟨stmts, hStmts, hLog, hFound, _⟩
  · right
    exact ⟨hCrowded.1, program?_of_crowded hCrowded⟩
  · left
    rcases hFound with ⟨found, span, hOne, hPost⟩
    rw [exec_lift] at hStmts hLog
    dsimp only at hStmts hLog
    rw [hOne, Option.some.injEq] at hStmts
    refine ⟨found, span, ?_⟩
    rw [parse_eq]
    dsimp only
    rw [hLog, hStmts]
    exact ⟨_, rfl, hPost⟩

/-
  The line of a plain expression is a script of just this
  expression, or it is nested too deep.
-/
theorem parse_plain
    {expr : Expr}
    (hPlain : expr.Plain)
    {tokens : List Token}
    (hTokens :
      tokens.map (·.kind) =
        expr.render ++ [.newline, .endOfFile]) :
    (expr.nesting ≤ maxNesting ∧
      ∃ found span whole,
        (parse tokens).program? =
            some ⟨[.expr found span], whole⟩ ∧
          found.erase = expr.erase) ∨
    (maxNesting < expr.nesting ∧
      (parse tokens).program? = none) := by
  rcases expr.opens_render with
    ⟨kind, rest, hRender, hStarts, _⟩
  have hStops : Stops 1 [.newline, .endOfFile] :=
    stops_one rfl
  have hExpr :=
    reads_plain maxNesting hPlain (Nat.le_refl maxNesting)
      hStops fun hRoomy : expr.nesting ≤ maxNesting => hRoomy
  rcases parse_line hRender hStarts hTokens hExpr with
    ⟨found, span, whole, hParse, hErase, hFits⟩ |
    ⟨hDeep, hNone⟩
  · left
    exact ⟨hFits, found, span, whole, hParse, hErase⟩
  · right
    exact ⟨Nat.lt_of_not_le hDeep, hNone⟩

end Parser

end Gantry
