import Gantry.Proofs.Parser.ReadingExpressions

/-
  This file reads rendered statements that hold no others,
  and the headers of those that do. A statement that stands
  where it may and parameters with different names give no
  cause to report anything.

  Key definitions include:
    * `Gantry.Parser.Small`

  Main statements:
    * `Gantry.Parser.reads_returnStatement`
    * `Gantry.Parser.reads_exprStatement_assignment`
    * `Gantry.Parser.Reads.signature_bind`
    * `Gantry.Parser.Reads.condition_bind`
-/

------------------------------------------------------------
-- Simple Statements
------------------------------------------------------------

namespace Gantry

namespace Parser

variable
    {β : Type}
    {roomy : Prop}
    {kinds follow : List TokenKind}

/- Expressions that have room for each of their tokens. -/
def Small
    (exprs : List Expr) : Prop :=
  ∀ expr ∈ exprs, expr.render.length < maxNesting

@[simp] theorem small_cons
    (expr : Expr)
    (exprs : List Expr) :
    Small (expr :: exprs) ↔
      expr.render.length < maxNesting ∧ Small exprs :=
  List.forall_mem_cons

@[simp] theorem small_append
    (exprs others : List Expr) :
    Small (exprs ++ others) ↔
      Small exprs ∧ Small others :=
  List.forall_mem_append

theorem Reads.lineEnd_bind
    {next : Unit → Parser β}
    {post : β → Prop}
    (hNext : Reads roomy (next ()) kinds follow post) :
    Reads roomy (lineEnd >>= next) (.newline :: kinds) follow
      post := by
  unfold lineEnd
  intro cursor hLog hKinds
  have hKind : cursor.kind = .newline := by
    rw [cursor.kind_eq_headD, hKinds]
    rfl
  rw [exec_bind, exec_peek_bind, hKind]
  exact hNext _ (by simpa using hLog)
    (Cursor.kinds_next hKinds)

theorem reads_passStatement :
    Reads roomy passStatement
      [.keyword .passWord, .newline] follow
      fun found => found.erase = .pass Span.unset := by
  unfold passStatement
  apply Reads.advance_bind
  intro span
  apply Reads.lineEnd_bind
  exact reads_pure rfl

/- Inside a loop, leaving it is in order. -/
theorem reads_loopJump
    {context : Context}
    (hLoop : context.inLoop = true)
    (word : Keyword)
    (make : Span → Stmt) :
    Reads roomy (loopJump context word make)
      [.keyword word, .newline] follow
      fun found => ∃ span, found = make span := by
  unfold loopJump
  apply Reads.advance_bind
  intro span
  rw [hLoop]
  apply Reads.lineEnd_bind
  exact reads_pure ⟨span, rfl⟩

theorem reads_returnedValue
    (value : Option Expr)
    (hRoom : roomy → Small value.toList) :
    Reads roomy returnedValue
      ((value.map Expr.render).getD []) (.newline :: follow)
      fun found =>
        found.map Expr.erase = value.map Expr.erase := by
  unfold returnedValue
  cases value with
  | none =>
      apply Reads.peek_bind rfl
      exact reads_pure rfl
  | some expr =>
      rcases expr.opens_render with
        ⟨kind, rest, hTokens, hStarts, _⟩
      have hHead :
          (expr.render ++ .newline :: follow).headD
              .endOfFile = kind := by
        rw [hTokens]
        rfl
      apply Reads.peek_bind hHead
      have hRead :
          Reads roomy
            (expression >>= fun found => pure (some found))
            expr.render (.newline :: follow)
            fun found =>
              found.map Expr.erase = some expr.erase := by
        apply Reads.map
          (reads_expression expr (stops_one rfl) ?_)
        · intro found hFound
          rw [Option.map_some, hFound]
        · intro hRoomy
          exact hRoom hRoomy expr (by simp)
      split
      · contradiction
      · contradiction
      · contradiction
      · exact hRead

/- Inside a function, leaving it is in order. -/
theorem reads_returnStatement
    {context : Context}
    (hFunction : context.inFunction = true)
    (value : Option Expr)
    (hRoom : roomy → Small value.toList) :
    Reads roomy (returnStatement context)
      (.keyword .returnWord ::
        ((value.map Expr.render).getD [] ++ [.newline]))
      follow
      fun found =>
        found.erase =
          .returnValue (value.map Expr.erase)
            Span.unset := by
  unfold returnStatement
  apply Reads.advance_bind
  intro start
  rw [hFunction]
  apply Reads.bind (reads_returnedValue value hRoom)
  · intro found
    exact grows_lineEnd.bind fun _ => grows_pure _
  · intro found hFound
    apply Reads.lineEnd_bind
    apply reads_pure
    rw [Stmt.erase, hFound]

theorem name_of_erase
    {found : Expr}
    {word : String}
    (hFound : found.erase = .name word Span.unset) :
    ∃ span, found = .name word span := by
  cases found with
  | name other span =>
      cases hFound
      exact ⟨span, rfl⟩
  | _ => cases hFound

theorem index_of_erase
    {found object key : Expr}
    (hFound :
      found.erase =
        .index object.erase key.erase Span.unset) :
    ∃ object' key' span,
      found = .index object' key' span ∧
        object'.erase = object.erase ∧
        key'.erase = key.erase := by
  cases found with
  | index object' key' span =>
      rw [Expr.erase] at hFound
      injection hFound with hObject hKey
      exact ⟨object', key', span, rfl, hObject, hKey⟩
  | _ => cases hFound

/- A line with nothing but an expression on it. -/
theorem reads_exprStatement_line
    {kinds : List TokenKind}
    {post : Expr → Prop}
    (hExpr :
      Reads roomy expression kinds (.newline :: follow)
        post) :
    Reads roomy exprStatement (kinds ++ [.newline]) follow
      fun found =>
        ∃ expr span, found = .expr expr span ∧ post expr := by
  unfold exprStatement
  apply Reads.bind hExpr
  · exact grows_afterExpression
  · intro found hFound
    apply Reads.check_bind _ rfl
    apply Reads.lineEnd_bind
    exact reads_pure ⟨found, found.span, rfl, hFound⟩

theorem reads_exprStatement_expr
    (expr : Expr)
    (hRoom : roomy → expr.render.length < maxNesting) :
    Reads roomy exprStatement (expr.render ++ [.newline])
      follow
      fun found =>
        found.erase = .expr expr.erase Span.unset := by
  have hStops : Stops 1 (.newline :: follow) :=
    stops_one rfl
  have hExpr := reads_expression expr hStops hRoom
  apply (reads_exprStatement_line hExpr).imp
  rintro _ ⟨found, span, rfl, hFound⟩
  rw [Stmt.erase, hFound]

/- An assignment to whatever can be assigned to. -/
theorem reads_exprStatement_assignment
    {post : Stmt → Prop}
    (target value : Expr)
    (hTarget : roomy → target.render.length < maxNesting)
    (hValue : roomy → value.render.length < maxNesting)
    (hAssign :
      ∀ found new : Expr, found.erase = target.erase →
        new.erase = value.erase →
          ∃ stmt, assignment? found new = some stmt ∧
            post stmt) :
    Reads roomy exprStatement
      (target.render ++
        .symbol .eq :: (value.render ++ [.newline]))
      follow post := by
  unfold exprStatement
  refine Reads.bind
    (reads_expression target ?_ hTarget) ?_ ?_
  · exact stops_one rfl
  · exact grows_afterExpression
  · intro found hFound
    apply Reads.check_bind _ rfl
    apply Reads.advance_bind
    intro mark
    refine Reads.bind
      (reads_expression value ?_ hValue) ?_ ?_
    · exact stops_one rfl
    · intro new
      split
      · exact grows_lineEnd.bind fun _ => grows_pure _
      · exact grows_reject _ _
    · intro new hNew
      rcases hAssign found new hFound hNew with
        ⟨stmt, hStmt, hPost⟩
      rw [hStmt]
      apply Reads.lineEnd_bind
      exact reads_pure hPost

theorem reads_exprStatement_assign
    (target : Ident)
    (value : Expr)
    (hRoom : roomy → value.render.length < maxNesting) :
    Reads roomy exprStatement
      (.name target.name ::
        .symbol .eq :: (value.render ++ [.newline]))
      follow
      fun found =>
        found.erase =
          .assign target.erase value.erase Span.unset := by
  apply reads_exprStatement_assignment
    (.name target.name Span.unset) value
  · intro _
    rw [Expr.render, List.length_singleton]
    decide
  · exact hRoom
  · intro found new hFound hNew
    rcases name_of_erase hFound with ⟨span, rfl⟩
    refine ⟨_, rfl, ?_⟩
    rw [Stmt.erase, hNew]
    rfl

theorem reads_exprStatement_setIndex
    (object key value : Expr)
    (span : Span)
    (hTarget :
      roomy →
        (Expr.index object key span).render.length <
          maxNesting)
    (hValue : roomy → value.render.length < maxNesting) :
    Reads roomy exprStatement
      ((Expr.index object key span).render ++
        .symbol .eq :: (value.render ++ [.newline]))
      follow
      fun found =>
        found.erase =
          .setIndex object.erase key.erase value.erase
            Span.unset := by
  apply reads_exprStatement_assignment
    (.index object key span) value hTarget hValue
  intro found new hFound hNew
  rcases index_of_erase hFound with
    ⟨object', key', span', rfl, hObject, hKey⟩
  refine ⟨_, rfl, ?_⟩
  rw [Stmt.erase, hObject, hKey, hNew]

end Parser

end Gantry

------------------------------------------------------------
-- Headers
------------------------------------------------------------

namespace Gantry

namespace Parser

variable
    {β : Type}
    {roomy : Prop}
    {kinds follow : List TokenKind}

theorem length_le_render
    (params : List Ident) :
    params.length ≤ (Ident.render params).length := by
  induction params with
  | nil => exact Nat.le_refl 0
  | cons param params ih =>
      cases params with
      | nil => exact Nat.le_refl 1
      | cons next params =>
          simp only [Ident.render, List.length_cons] at *
          omega

/- Parameters with different names give no cause to report. -/
theorem reads_parameters
    (params : List Ident)
    (rounds : List Token)
    (seen : List Ident)
    (hRounds : params.length < rounds.length)
    (hNames :
      ((seen ++ params).map (·.name)).Nodup) :
    Reads roomy (parameters rounds seen)
      (Ident.render params) (.symbol .rightParen :: follow)
      fun found =>
        found.map Ident.erase =
          (seen ++ params).map Ident.erase := by
  induction params generalizing rounds seen with
  | nil =>
      cases rounds with
      | nil => contradiction
      | cons token rounds =>
          rw [parameters]
          apply Reads.check_bind _ rfl
          apply reads_pure
          rw [List.append_nil]
  | cons param params ih =>
      cases rounds with
      | nil => contradiction
      | cons token rounds =>
          have hFresh :
              seen.any (·.name == param.name) = false := by
            rw [List.map_append, List.map_cons] at hNames
            have hApart := (List.nodup_append.mp hNames).2.2
            rw [List.any_eq_false]
            intro other hOther
            simpa using
              hApart other.name
                (List.mem_map_of_mem hOther) param.name
                List.mem_cons_self
          have hHead :
              (Ident.render (param :: params) ++
                .symbol .rightParen :: follow).headD
                  .endOfFile = .name param.name := by
            cases params <;> rfl
          rw [parameters]
          apply Reads.check_bind _ hHead
          cases params with
          | nil =>
              apply Reads.identifier_bind
              intro span
              rw [hFresh]
              apply Reads.eat_bind_other
              · simp
              · apply reads_pure
                simp [Ident.erase]
          | cons next params =>
              apply Reads.identifier_bind
              intro span
              rw [hFresh]
              apply Reads.eat_bind
              rw [if_pos rfl]
              have hRead :=
                ih rounds (seen ++ [Ident.mk param.name span])
                  (Nat.lt_of_succ_lt_succ hRounds)
                  (by simpa using hNames)
              apply hRead.imp
              intro found hFound
              rw [hFound]
              simp [Ident.erase]

theorem Reads.signature_bind
    {next : Ident × List Ident → Parser β}
    {post : β → Prop}
    (name : Ident)
    (params : List Ident)
    (hNames : (params.map (·.name)).Nodup)
    (hGrows : ∀ found, Grows (next found))
    (hNext :
      ∀ found : Ident × List Ident,
        found.1.erase = name.erase →
          found.2.map Ident.erase =
            params.map Ident.erase →
            Reads roomy (next found) kinds follow post) :
    Reads roomy (signature >>= next)
      (.name name.name :: .symbol .leftParen ::
        (Ident.render params ++
          .symbol .rightParen :: kinds)) follow post := by
  have hSignature :
      Reads roomy signature
        (.name name.name :: .symbol .leftParen ::
          (Ident.render params ++ [.symbol .rightParen]))
        (kinds ++ follow)
        fun found =>
          found.1.erase = name.erase ∧
            found.2.map Ident.erase =
              params.map Ident.erase := by
    unfold signature
    apply Reads.identifier_bind
    intro span
    apply Reads.expect_bind
    intro _
    apply Reads.get_bind
    intro cursor hKinds
    have hRounds : params.length < cursor.rest.length := by
      have hLength := congrArg List.length hKinds
      have hParams := length_le_render params
      simp only [Cursor.kinds, List.length_map,
        List.length_append, List.length_cons,
        List.length_nil] at hLength
      omega
    apply Reads.bind
      (reads_parameters params _ [] hRounds hNames)
    · intro found
      exact (grows_expect _).bind fun _ => grows_pure _
    · intro found hFound
      apply Reads.expect_bind
      intro _
      exact reads_pure ⟨rfl, hFound⟩
  have hRead :=
    Reads.bind hSignature hGrows fun found hFound =>
      hNext found hFound.1 hFound.2
  simpa only [List.cons_append, List.append_assoc,
    List.nil_append] using hRead

theorem Reads.condition_bind
    {next : Expr → Parser β}
    {post : β → Prop}
    (test : Expr)
    (hRoom : roomy → test.render.length < maxNesting)
    (hGrows : ∀ found, Grows (next found))
    (hNext :
      ∀ found, found.erase = test.erase →
        Reads roomy (next found) kinds follow post) :
    Reads roomy (condition >>= next)
      (test.render ++ .symbol .colon :: kinds) follow
      post := by
  have hCondition :
      Reads roomy condition
        (test.render ++ [.symbol .colon]) (kinds ++ follow)
        fun found => found.erase = test.erase := by
    unfold condition
    refine Reads.bind (reads_expression test ?_ hRoom) ?_ ?_
    · exact stops_one rfl
    · intro found
      exact (grows_expect _).bind fun _ => grows_pure _
    · intro found hFound
      apply Reads.expect_bind
      intro _
      exact reads_pure hFound
  have hRead := Reads.bind hCondition hGrows hNext
  rwa [List.append_assoc] at hRead

theorem Reads.blockStart_bind
    {next : Span → Parser β}
    {post : β → Prop}
    (hNext :
      ∀ span, Reads roomy (next span) kinds follow post) :
    Reads roomy (blockStart >>= next)
      (.newline :: .indent :: kinds) follow post := by
  intro cursor hLog hKinds
  have hRest := Cursor.kinds_next hKinds
  have hNewline : cursor.kind = .newline := by
    rw [cursor.kind_eq_headD, hKinds]
    rfl
  have hIndent : cursor.next.kind = .indent := by
    rw [cursor.next.kind_eq_headD, hRest]
    rfl
  have hExec :
      exec blockStart cursor =
        (some cursor.next.here, cursor.next.next) := by
    rw [blockStart, exec_peek_bind, hNewline]
    simp [hIndent]
  rw [exec_bind, hExec]
  exact hNext _ _ (by simpa using hLog)
    (Cursor.kinds_next hRest)

end Parser

end Gantry
