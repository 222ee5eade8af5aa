import Gantry.Proofs.Parser.Recovery

/-
  This file compares the two ways in which statements are
  read. Where loops and functions are counted, the counts
  tell what encloses a statement. The tokens run out before
  the fuel and the bound do, for whatever lowers one of them
  takes a token.

  Key definitions include:
    * `Gantry.Counts.context`
    * `Gantry.Tally.Fits`
    * `Gantry.Counting.Leads`

  Main statements:
    * `Gantry.Counting.mirrors_block`
    * `Gantry.Counting.reads_statement`
-/

------------------------------------------------------------
-- Simple Statements
------------------------------------------------------------

namespace Gantry

/- What the counts say about the statement at hand. -/
def Counts.context
    (counts : Counts) : Parser.Context :=
  { inLoop := decide (0 < counts.loops)
    inFunction := decide (0 < counts.functions) }

namespace Tally

variable
    {tally after : Tally}
    {fuel bound : Nat}
    {context : Parser.Context}

/-
  A statement can be read: no expression is open, there are
  not too many tokens ahead for the fuel and the bound, and
  the counts are those of the context.
-/
structure Fits
    (tally : Tally)
    (fuel bound : Nat)
    (context : Parser.Context) : Prop where
  ready : tally.Ready fuel maxNesting
  length : 2 * tally.cursor.rest.length ≤ bound
  context : tally.counts.context = context

theorem Ready.climbs
    {base first last : Nat}
    {room : Nat}
    (hReady : tally.Ready fuel room)
    (hClimbs : Climbs base first last tally after) :
    after.Ready fuel room := by
  rcases hClimbs.taken with ⟨taken, hTakes, _⟩
  refine
    ⟨⟨hTakes.closed hReady.closed,
      Nat.le_trans hClimbs.length_le hReady.fuel⟩, ?_⟩
  rw [hClimbs.counts]
  exact hReady.room

theorem Fits.climbs
    {base first last : Nat}
    (hFits : tally.Fits fuel bound context)
    (hClimbs : Climbs base first last tally after) :
    after.Fits fuel bound context where
  ready := hFits.ready.climbs hClimbs
  length := by
    have := hClimbs.length_le
    have := hFits.length
    omega
  context := by
    rw [hClimbs.counts]
    exact hFits.context

/- Fuel that is left over does no harm. -/
theorem Fits.succ
    (hFits : tally.Fits fuel bound context) :
    tally.Fits (fuel + 1) bound context :=
  { hFits with
    ready :=
      { hFits.ready with
        fuel := Nat.le_succ_of_le hFits.ready.fuel } }

/- A bound that leaves room for the end of the file. -/
theorem Fits.two_le
    (hFits : tally.Fits fuel bound context) :
    2 ≤ bound := by
  have := hFits.ready.closed.length_pos
  have := hFits.length
  omega

/- Tokens that are taken allow for less fuel and bound. -/
theorem Fits.shrink
    {base first last : Nat}
    (hFits : tally.Fits (fuel + 1) (bound + 1) context)
    (hClimbs : Climbs base first last tally after)
    (hLess :
      after.cursor.rest.length <
        tally.cursor.rest.length) :
    after.Fits fuel bound context where
  ready :=
    { hFits.ready.climbs hClimbs with
      fuel :=
        Nat.le_of_lt_succ
          (Nat.lt_of_lt_of_le hLess hFits.ready.fuel) }
  length := by
    have := hFits.length
    omega
  context := (hFits.climbs hClimbs).context

theorem Fits.next
    (hFits : tally.Fits (fuel + 1) (bound + 1) context)
    (hWord : tally.cursor.kind.isLayout = false) :
    tally.next.Fits fuel bound context :=
  hFits.shrink (inline_next hWord).stays
    (length_next_lt hWord)

/-
  Reading has come back to its level, and has taken a token
  if it was successful and there was a word to start with.
-/
def Advances
    {α : Type}
    (tally : Tally)
    (value? : Option α)
    (after : Tally) : Prop :=
  tally.Stays after ∧
    (value?.isSome = true →
      tally.cursor.kind.isLayout = false →
        after.cursor.rest.length <
          tally.cursor.rest.length)

end Tally

namespace Counting

variable
    {α β : Type}
    {fuel : Nat}
    {tally : Tally}

theorem Mirrors.stays
    {reader : Counting α}
    {parser : Parser α}
    (hMirrors : Mirrors Tally.Inline tally reader parser) :
    Mirrors Tally.Stays tally reader parser :=
  hMirrors.imp fun _ => Tally.Inline.stays

/- Two readings, one behind the other, on one level. -/
theorem Mirrors.followedBy
    {room : Nat}
    {reader : Counting α}
    {parser : Parser α}
    {next : α → Counting β}
    {nextParser : α → Parser β}
    (hReady : tally.Ready fuel room)
    (hMirrors : Mirrors Tally.Stays tally reader parser)
    (hNext :
      ∀ value after, after.Ready fuel room →
        Mirrors Tally.Stays after (next value)
          (nextParser value)) :
    Mirrors Tally.Stays tally (reader >>= next)
      (parser >>= nextParser) :=
  hMirrors.bind fun value after hAfter =>
    hNext value after (hReady.climbs hAfter)

/- A line ends with its last token, or with its block. -/
theorem reads_lineEnd
    (hClosed : Token.Closed tally.cursor.rest) :
    Reads tally lineEnd Parser.lineEnd fun value? after =>
      tally.Stays after ∧
        (value?.isSome = true →
          tally.cursor.kind.isLayout = true) := by
  rw [lineEnd, Parser.lineEnd]
  apply Reads.kind
  cases hKind : tally.cursor.kind with
  | newline =>
      have hEnd : tally.cursor.kind ≠ .endOfFile := by
        simp [hKind]
      apply Reads.take hClosed hEnd
      exact ⟨some (), tally.next, rfl, rfl,
        Tally.stays_newline hKind, fun _ => rfl⟩
  | endOfFile =>
      exact ⟨some (), tally, rfl, rfl,
        Tally.Stays.refl tally, fun _ => rfl⟩
  | dedent =>
      exact ⟨some (), tally, rfl, rfl,
        Tally.Stays.refl tally, fun _ => rfl⟩
  | _ =>
      exact ⟨none, _, rfl, rfl,
        (tally.inline_report _ _).stays, by simp⟩

theorem mirrors_lineEnd
    (hClosed : Token.Closed tally.cursor.rest) :
    Mirrors Tally.Stays tally lineEnd Parser.lineEnd :=
  (reads_lineEnd hClosed).imp fun _ _ hPost => hPost.1

/- A statement that starts with a word of its own. -/
theorem reads_first
    {next : Span → Counting α}
    {nextParser : Span → Parser α}
    (hReady : tally.Ready fuel maxNesting)
    (hKind : tally.cursor.kind.isLayout = false)
    (hNext :
      tally.next.Ready fuel maxNesting →
        Mirrors Tally.Stays tally.next
          (next tally.cursor.here)
          (nextParser tally.cursor.here)) :
    Reads tally (liftM take >>= next)
      (Parser.advance >>= nextParser) tally.Advances := by
  have hEnd := endOfFile_of_isLayout hKind
  have hTake := Tally.inline_next hKind
  apply Reads.take hReady.closed hEnd
  refine Reads.imp (hNext (hReady.inline hTake)) ?_
  intro value? after hAfter
  refine ⟨hTake.stays.trans hAfter, ?_⟩
  intro _ _
  have := Cursor.length_next_lt hEnd
  have := hAfter.length_le
  change
    after.cursor.rest.length ≤
      tally.cursor.next.rest.length at this
  omega

/- An issue that does not end the statement. -/
theorem mirrors_reportIf
    {relation : Tally → Tally → Prop}
    [IsPreorder Tally relation]
    (hRelation :
      ∀ {before after : Tally}, before.Inline after →
        relation before after)
    {here there : Prop}
    [Decidable here]
    [Decidable there]
    (hSame : here ↔ there)
    {fault : Fault}
    {span : Span}
    {next : Counting α}
    {nextParser : Parser α}
    (hNext :
      ∀ after, tally.Inline after →
        Mirrors relation after next nextParser) :
    Mirrors relation tally
      (if here then do
          report fault span
          next
        else next)
      (if there then do
          Parser.report fault span
          nextParser
        else nextParser) := by
  have hReport := tally.inline_report fault span
  by_cases hHere : here
  · rw [if_pos hHere, if_pos (hSame.mp hHere)]
    refine Reads.imp (hNext _ hReport) ?_
    exact fun _ _ => trans_of relation (hRelation hReport)
  · rw [if_neg hHere, if_neg (mt hSame.mpr hHere)]
    exact hNext tally (refl_of Tally.Inline tally)

theorem reads_passStatement
    (hReady : tally.Ready fuel maxNesting)
    (hKind : tally.cursor.kind.isLayout = false) :
    Reads tally passStatement Parser.passStatement
      tally.Advances := by
  rw [passStatement, Parser.passStatement]
  refine reads_first hReady hKind ?_
  intro hNext
  exact (mirrors_lineEnd hNext.closed).bind
    fun _ _ _ => mirrors_pure _

/- A reading that looks at the counts. -/
theorem Reads.get
    {next : Tally → Counting α}
    {parser : Parser α}
    {post : Option α → Tally → Prop}
    (hNext : Reads tally (next tally) parser post) :
    Reads tally (get >>= next) parser post :=
  hNext

theorem reads_loopJump
    (word : Keyword)
    (make : Span → Stmt)
    (hReady : tally.Ready fuel maxNesting)
    (hKind : tally.cursor.kind.isLayout = false) :
    Reads tally (loopJump word make)
      (Parser.loopJump tally.counts.context word make)
      tally.Advances := by
  rw [loopJump, Parser.loopJump]
  refine reads_first hReady hKind ?_
  intro hNext
  apply Reads.get
  refine mirrors_reportIf Tally.Inline.stays ?_ ?_
  · change tally.counts.loops = 0 ↔ _
    simp [Counts.context]
  · intro after hAfter
    have hBehind := hNext.inline hAfter
    exact (mirrors_lineEnd hBehind.closed).bind
      fun _ _ _ => mirrors_pure _

theorem mirrors_returnedValue
    (hReady : tally.Ready fuel maxNesting) :
    Mirrors Tally.Stays tally (returnedValue fuel)
      Parser.returnedValue := by
  rw [returnedValue, Parser.returnedValue]
  apply Reads.kind
  have hValue :
      Mirrors Tally.Stays tally
        (do let value ← expression fuel
            return some value : Counting (Option Expr))
        (do let value ← Parser.expression
            return some value) :=
    (mirrors_expression hReady).stays.bind
      fun _ _ _ => mirrors_pure _
  cases tally.cursor.kind with
  | newline => exact mirrors_pure none
  | endOfFile => exact mirrors_pure none
  | dedent => exact mirrors_pure none
  | _ => exact hValue

theorem reads_returnStatement
    (hReady : tally.Ready fuel maxNesting)
    (hKind : tally.cursor.kind.isLayout = false) :
    Reads tally (returnStatement fuel)
      (Parser.returnStatement tally.counts.context)
      tally.Advances := by
  rw [returnStatement, Parser.returnStatement]
  refine reads_first hReady hKind ?_
  intro hNext
  apply Reads.get
  refine mirrors_reportIf Tally.Inline.stays ?_ ?_
  · change tally.counts.functions = 0 ↔ _
    simp [Counts.context]
  · intro after hAfter
    have hBehind := hNext.inline hAfter
    refine Mirrors.followedBy hBehind
      (mirrors_returnedValue hBehind) ?_
    intro value last hLast
    exact (mirrors_lineEnd hLast.closed).bind
      fun _ _ _ => mirrors_pure _

/-
  An expression that ends in front of the end of a line, and
  has not started there, has taken a token.
-/
theorem length_lt_of_inline
    {after : Tally}
    (hInline : tally.Inline after)
    (hStart : tally.cursor.kind.isLayout = false)
    (hStop : after.cursor.kind.isLayout = true) :
    after.cursor.rest.length <
      tally.cursor.rest.length := by
  rcases hInline.taken with ⟨taken, hTaken, _⟩
  cases taken with
  | nil =>
      unfold Cursor.kind at hStart hStop
      rw [hTaken, List.nil_append, hStop] at hStart
      cases hStart
  | cons token taken =>
      rw [hTaken, List.length_append, List.length_cons]
      omega

/- What is assigned to an expression, behind its mark. -/
theorem mirrors_assigned
    (expr : Expr)
    (mark : Span)
    (hReady : tally.Ready fuel maxNesting) :
    Mirrors Tally.Stays tally
      (do let value ← expression fuel
          match Parser.assignment? expr value with
          | some stmt =>
              lineEnd
              return stmt
          | none =>
              reject .invalidTarget (expr.span.merge mark))
      (do let value ← Parser.expression
          match Parser.assignment? expr value with
          | some stmt =>
              Parser.lineEnd
              return stmt
          | none =>
              Parser.reject .invalidTarget
                (expr.span.merge mark)) := by
  refine Mirrors.followedBy hReady
    (mirrors_expression hReady).stays ?_
  intro value after hAfter
  cases Parser.assignment? expr value with
  | some stmt =>
      exact (mirrors_lineEnd hAfter.closed).bind
        fun _ _ _ => mirrors_pure stmt
  | none =>
      exact ⟨none, _, rfl, rfl,
        (after.inline_report _ _).stays⟩

theorem reads_exprStatement
    (hReady : tally.Ready fuel maxNesting) :
    Reads tally (exprStatement fuel) Parser.exprStatement
      tally.Advances := by
  rw [exprStatement, Parser.exprStatement]
  refine Reads.bind (mirrors_expression hReady) ?_ ?_
  · exact fun after hAfter => ⟨hAfter.stays, by simp⟩
  · intro expr after hAfter
    have hBehind := hReady.inline hAfter
    apply Reads.check
    · intro hMark
      have hWord : after.cursor.kind.isLayout = false := by
        rw [hMark]
        rfl
      refine Reads.imp
        (reads_first hBehind hWord
          (mirrors_assigned expr after.cursor.here)) ?_
      intro stmt? last hLast
      refine ⟨hAfter.stays.trans hLast.1, ?_⟩
      intro hSome _
      have := hLast.2 hSome hWord
      have := hAfter.toAlong.length_le
      omega
    · intro hOther
      refine Reads.bind (reads_lineEnd hBehind.closed) ?_ ?_
      · intro last hLast
        exact ⟨hAfter.stays.trans hLast.1, by simp⟩
      · intro _ last hLast
        refine ⟨_, last, rfl, rfl,
          hAfter.stays.trans hLast.1, ?_⟩
        intro _ hStart
        have := length_lt_of_inline hAfter hStart
          (hLast.2 rfl)
        have := hLast.1.length_le
        omega

/- No more parameters are read than there are tokens. -/
theorem mirrors_parameters
    {rounds : Nat}
    (tokens : List Token)
    (seen : List Ident)
    (hReady : tally.Ready fuel maxNesting)
    (hRounds : tally.cursor.rest.length ≤ rounds)
    (hTokens : tally.cursor.rest.length ≤ tokens.length) :
    Mirrors Tally.Inline tally (parameters rounds seen)
      (Parser.parameters tokens seen) := by
  have hSome := hReady.closed.length_pos
  induction tokens generalizing tally rounds seen with
  | nil =>
      rw [List.length_nil] at hTokens
      omega
  | cons token tokens ih =>
      obtain ⟨rounds, rfl⟩ :=
        Nat.exists_eq_succ_of_ne_zero
          (show rounds ≠ 0 by omega)
      rw [parameters, Parser.parameters]
      refine Reads.check (fun _ => mirrors_pure seen) ?_
      intro _
      refine (mirrors_identifier hReady).bind ?_
      intro param after hAfter
      refine mirrors_reportIf id Iff.rfl ?_
      intro last hLast
      have hBehind := (hReady.inline hAfter).inline hLast
      refine Mirrors.eat hBehind.closed rfl ?_
        (mirrors_pure _)
      intro hComma
      have hWord : last.cursor.kind.isLayout = false := by
        rw [hComma]
        rfl
      have hNext :=
        hBehind.inline (Tally.inline_next hWord)
      have hLess := Tally.length_next_lt hWord
      have hFirst := hAfter.toAlong.length_le
      have hSecond := hLast.toAlong.length_le
      rw [List.length_cons] at hTokens
      exact ih _ hNext (by omega) (by omega)
        hNext.closed.length_pos

theorem mirrors_signature
    (hReady : tally.Ready fuel maxNesting) :
    Mirrors Tally.Inline tally (signature fuel)
      Parser.signature := by
  rw [signature, Parser.signature]
  refine Mirrors.andThen hReady
    (mirrors_identifier hReady) ?_
  intro name after hAfter
  refine Mirrors.andThen hAfter
    (mirrors_expect rfl hAfter) ?_
  intro _ inside hInside
  refine Mirrors.andThen hInside
    (mirrors_parameters inside.cursor.rest [] hInside
      hInside.fuel Nat.le.refl) ?_
  intro params behind hBehind
  refine Mirrors.andThen hBehind
    (mirrors_expect rfl hBehind) ?_
  exact fun _ _ _ => mirrors_pure _

theorem mirrors_condition
    (hReady : tally.Ready fuel maxNesting) :
    Mirrors Tally.Inline tally (condition fuel)
      Parser.condition := by
  rw [condition, Parser.condition]
  refine Mirrors.andThen hReady
    (mirrors_expression hReady) ?_
  intro test after hAfter
  refine Mirrors.andThen hAfter
    (mirrors_expect rfl hAfter) ?_
  exact fun _ _ _ => mirrors_pure _

end Counting

end Gantry

------------------------------------------------------------
-- Blocks
------------------------------------------------------------

namespace Gantry

namespace Counting

variable
    {α β : Type}
    {tally : Tally}
    {fuel bound : Nat}
    {context : Parser.Context}
    {inner : Steady (List Stmt)}

/- A block is one level further in, if there is one. -/
theorem reads_blockStart
    (hSupplied : tally.Supplied fuel) :
    Reads tally blockStart Parser.blockStart
      fun start? after =>
        match start? with
        | none => tally.Stays after
        | some _ =>
            tally.Climbs tally.level 0 1 after ∧
              after.cursor.rest.length + 2 ≤
                tally.cursor.rest.length := by
  obtain ⟨fuel, rfl⟩ :=
    Nat.exists_eq_succ_of_ne_zero hSupplied.fuel_ne_zero
  rw [blockStart, Parser.blockStart]
  apply Reads.kind
  by_cases hNewline : tally.cursor.kind = .newline
  · rw [if_pos (beq_iff_eq.mpr hNewline),
      if_pos (beq_iff_eq.mpr hNewline)]
    have hEnd : tally.cursor.kind ≠ .endOfFile := by
      simp [hNewline]
    have hLine := Tally.stays_newline hNewline
    have hNext := (hSupplied.next hEnd).closed
    apply Reads.take hSupplied.closed hEnd
    apply Reads.check
    · intro hIndent
      have hInner : tally.next.cursor.kind ≠ .endOfFile := by
        simp [hIndent]
      refine ⟨some _, tally.next.next,
        exec_take hNext hInner, rfl,
        Tally.Climbs.trans hLine
          (Tally.climbs_indent hIndent), ?_⟩
      have := Cursor.length_next_lt hEnd
      have := Cursor.length_next_lt hInner
      change
        tally.cursor.next.next.rest.length + 2 ≤ _
      change
        tally.cursor.next.next.rest.length <
          tally.cursor.next.rest.length at this
      omega
    · intro _
      exact ⟨none, _, rfl, rfl,
        hLine.trans
          (tally.next.inline_report _ _).stays⟩
  · rw [if_neg (mt beq_iff_eq.mp hNewline),
      if_neg (mt beq_iff_eq.mp hNewline)]
    exact ⟨none, _, rfl, rfl,
      (tally.inline_report _ _).stays⟩

theorem Runs.lift
    {step : Steady α}
    {state : StateM Cursor α}
    {post : Tally → Prop}
    (hRuns :
      Runs tally step (state.run tally.cursor) post) :
    Reads tally (liftM step) (liftM state : Parser α)
      fun _ => post := by
  rcases hRuns with ⟨after, hStep, hCursor, hPost⟩
  refine
    ⟨some (state.run tally.cursor).1, after, ?_, ?_, hPost⟩
  · rw [exec_lift, hStep]
    rfl
  · rw [Parser.exec_lift, hCursor]

/-
  Statements inside of a region are read alike. A round of
  statements needs one more than the statement in it.
-/
def Leads
    (fuel : Nat)
    (inner : Steady (List Stmt)) : Prop :=
  ∀ {context : Parser.Context} {tally : Tally}
      {bound base : Nat},
    tally.Fits fuel bound context →
      tally.level = base + 1 →
        Runs tally inner
          ((Parser.statements (bound + 1) context).run
            tally.cursor)
          (tally.Climbs base 1 0)

/- A region of statements is one level further in. -/
theorem runs_region
    (hInner : Leads fuel inner)
    (hFits : tally.Fits fuel bound context) :
    Runs tally (region inner)
      ((Parser.statements (bound + 1) context).run
        tally.cursor)
      (tally.Climbs tally.level 1 0) := by
  have hInside :
      ({ tally with level := tally.level + 1 } :
        Tally).Fits fuel bound context :=
    { hFits with ready := { hFits.ready with } }
  rcases hInner hInside rfl with
    ⟨after, hStep, hCursor, hClimbs⟩
  refine
    ⟨{ after with level := after.level - 1 }, ?_, hCursor,
      ?_⟩
  · rw [region]
    change (inner.run _).bind _ = _
    rw [hStep]
    rfl
  · apply hClimbs.restored hClimbs.counts
    rw [hClimbs.level]
    rfl

/- Two parts of a statement, one behind the other. -/
theorem Mirrors.within
    {reader : Counting α}
    {parser : Parser α}
    {next : α → Counting β}
    {nextParser : α → Parser β}
    (hFits : tally.Fits fuel bound context)
    (hMirrors : Mirrors Tally.Stays tally reader parser)
    (hNext :
      ∀ value after, after.Fits fuel bound context →
        Mirrors Tally.Stays after (next value)
          (nextParser value)) :
    Mirrors Tally.Stays tally (reader >>= next)
      (parser >>= nextParser) :=
  hMirrors.bind fun value after hAfter =>
    hNext value after (hFits.climbs hAfter)

theorem mirrors_block
    (hInner : Leads fuel inner)
    (hFits : tally.Fits fuel bound context) :
    Mirrors Tally.Stays tally (block inner)
      (Parser.block bound context) := by
  obtain ⟨bound, rfl⟩ := Nat.exists_eq_add_of_le' hFits.two_le
  rw [block, Parser.block]
  refine Reads.bind
    (reads_blockStart hFits.ready.toSupplied)
    (fun _ hAfter => hAfter) ?_
  rintro start after ⟨hClimbs, hLength⟩
  have hInside : after.Fits fuel bound context := by
    have hBehind := hFits.climbs hClimbs
    refine ⟨hBehind.ready, ?_, hBehind.context⟩
    have := hFits.length
    omega
  refine Reads.bind (runs_region hInner hInside).lift
    (fun last hLast => ?_) ?_
  · rw [hClimbs.level] at hLast
    exact hClimbs.trans hLast
  · intro stmts last hLast
    rw [hClimbs.level] at hLast
    exact ⟨_, last, rfl, rfl, hClimbs.trans hLast⟩

/- What is counted around a block is put back behind it. -/
theorem mirrors_counted
    {enter leave : Counts → Counts}
    (hInner : Leads fuel inner)
    (hLeave : leave (enter tally.counts) = tally.counts)
    (hFits :
      ({ tally with counts := enter tally.counts } :
        Tally).Fits fuel bound context) :
    Mirrors Tally.Stays tally (counted enter leave inner)
      (Parser.block bound context) := by
  rcases mirrors_block hInner hFits with
    ⟨block?, after, hExec, hParser, hAfter⟩
  refine
    ⟨block?, { after with counts := leave after.counts },
      ?_, hParser, ?_⟩
  · change (exec (block inner) _).bind _ = _
    rw [hExec]
    rfl
  · apply Tally.Climbs.restored hAfter
    · rw [hAfter.counts]
      exact hLeave
    · exact hAfter.level

/- Loops around a function do not enclose its body. -/
theorem mirrors_functionBody
    (hInner : Leads fuel inner)
    (hFits : tally.Fits fuel bound context) :
    Mirrors Tally.Stays tally (functionBody inner)
      (Parser.block bound
        { inLoop := false, inFunction := true }) := by
  rw [functionBody]
  apply Reads.get
  refine mirrors_counted hInner rfl ?_
  refine ⟨{ hFits.ready with }, hFits.length, ?_⟩
  simp [Counts.context, Counts.inFunction]

theorem mirrors_loopBody
    (hInner : Leads fuel inner)
    (hFits : tally.Fits fuel bound context) :
    Mirrors Tally.Stays tally (loopBody inner)
      (Parser.block bound
        { context with inLoop := true }) := by
  rw [loopBody]
  refine mirrors_counted hInner rfl ?_
  refine ⟨{ hFits.ready with }, hFits.length, ?_⟩
  rw [← hFits.context]
  change
    Parser.Context.mk
      (decide (0 < tally.counts.loops + 1)) _ = _
  rw [decide_eq_true (Nat.succ_pos _)]
  rfl

/- Each of the further conditions takes a token. -/
theorem mirrors_elifClauses
    (hInner : Leads fuel inner)
    {rounds : Nat}
    (hFits : tally.Fits fuel bound context)
    (hRounds : tally.cursor.rest.length ≤ rounds) :
    Mirrors Tally.Stays tally (elifClauses inner rounds)
      (Parser.elifClauses bound context) := by
  induction rounds generalizing tally bound with
  | zero =>
      have := hFits.ready.closed.length_pos
      omega
  | succ rounds ih =>
      obtain ⟨bound, rfl⟩ :=
        Nat.exists_eq_add_of_le'
          (Nat.le_of_succ_le hFits.two_le)
      rw [elifClauses, Parser.elifClauses]
      refine Reads.check ?_ fun _ => mirrors_pure []
      intro hKind
      have hWord : tally.cursor.kind.isLayout = false := by
        rw [hKind]
        rfl
      have hReady : tally.Ready (rounds + 1) maxNesting :=
        { hFits.ready with fuel := hRounds }
      have hNext := hFits.succ.next hWord
      refine Mirrors.take hReady.closed
        (endOfFile_of_isLayout hWord)
        (Tally.inline_next hWord).stays ?_
      refine (mirrors_condition
        (hReady.next hWord)).stays.bind ?_
      intro test after hAfter
      have hInside := hNext.climbs hAfter
      refine (mirrors_block hInner hInside).bind ?_
      intro body behind hBehind
      have hLength :
          behind.cursor.rest.length ≤ rounds :=
        Nat.le_trans
          (Nat.le_trans hBehind.length_le hAfter.length_le)
          (hReady.next hWord).fuel
      exact (ih (hInside.climbs hBehind) hLength).bind
        fun _ _ _ => mirrors_pure _

theorem mirrors_elseClause
    (hInner : Leads fuel inner)
    (hFits : tally.Fits fuel bound context) :
    Mirrors Tally.Stays tally (elseClause inner)
      (Parser.elseClause bound context) := by
  obtain ⟨bound, rfl⟩ :=
    Nat.exists_eq_add_of_le'
      (Nat.le_of_succ_le hFits.two_le)
  rw [elseClause, Parser.elseClause]
  refine Reads.eat hFits.ready.closed (by simp) ?_
    fun _ => mirrors_pure none
  intro hKind
  have hWord : tally.cursor.kind.isLayout = false := by
    rw [hKind]
    rfl
  have hNext := hFits.succ.next hWord
  have hElse :
      Mirrors Tally.Stays tally.next
        (do
          let _ ← expect (.symbol .colon)
          let body ← block inner
          return some body : Counting (Option Block))
        (do
          let _ ← Parser.expect (.symbol .colon)
          let body ← Parser.block bound context
          return some body) := by
    refine Mirrors.within hNext
      (mirrors_expect rfl hNext.ready).stays ?_
    intro _ after hAfter
    exact (mirrors_block hInner hAfter).bind
      fun _ _ _ => mirrors_pure _
  refine Reads.imp hElse ?_
  exact fun _ _ => (Tally.inline_next hWord).stays.trans

section Compound

variable
    (hInner : Leads fuel inner)
    (hFits : tally.Fits (fuel + 1) (bound + 1) context)
    (hWord : tally.cursor.kind.isLayout = false)

include hInner hFits hWord

theorem reads_definition :
    Reads tally (definition (fuel + 1) inner)
      (do
        let start ← Parser.advance
        let (name, params) ← Parser.signature
        let _ ← Parser.expect (.symbol .colon)
        let body ←
          Parser.block bound
            { inLoop := false, inFunction := true }
        return .define name params body
          (start.merge body.span))
      tally.Advances := by
  rw [definition]
  refine reads_first hFits.ready hWord ?_
  have hNext := hFits.next hWord
  intro _
  refine Mirrors.within hNext
    (mirrors_signature hNext.succ.ready).stays ?_
  intro _ after hAfter
  refine Mirrors.within hAfter
    (mirrors_expect rfl hAfter.ready).stays ?_
  intro _ behind hBehind
  exact (mirrors_functionBody hInner hBehind).bind
    fun _ _ _ => mirrors_pure _

theorem reads_branch :
    Reads tally (branch (fuel + 1) inner)
      (do
        let start ← Parser.advance
        let test ← Parser.condition
        let body ← Parser.block bound context
        let elifs ← Parser.elifClauses bound context
        let orElse ← Parser.elseClause bound context
        let stop :=
          match orElse, elifs.getLast? with
          | some last, _ => last.span
          | none, some last => last.span
          | none, none => body.span
        return .branch test body elifs orElse
          (start.merge stop))
      tally.Advances := by
  rw [branch]
  refine reads_first hFits.ready hWord ?_
  have hNext := hFits.next hWord
  intro _
  refine Mirrors.within hNext
    (mirrors_condition hNext.succ.ready).stays ?_
  intro test after hAfter
  refine Mirrors.within hAfter
    (mirrors_block hInner hAfter) ?_
  intro body behind hBehind
  refine Mirrors.within hBehind
    (mirrors_elifClauses hInner hBehind
      hBehind.succ.ready.fuel) ?_
  intro elifs last hLast
  exact (mirrors_elseClause hInner hLast).bind
    fun _ _ _ => mirrors_pure _

theorem reads_forLoop :
    Reads tally (forLoop (fuel + 1) inner)
      (do
        let start ← Parser.advance
        let target ← Parser.identifier
        let _ ← Parser.expect (.keyword .inWord)
        let iterable ← Parser.condition
        let body ←
          Parser.block bound { context with inLoop := true }
        return .forLoop target iterable body
          (start.merge body.span))
      tally.Advances := by
  rw [forLoop]
  refine reads_first hFits.ready hWord ?_
  have hNext := hFits.next hWord
  intro _
  refine Mirrors.within hNext
    (mirrors_identifier hNext.ready).stays ?_
  intro target after hAfter
  refine Mirrors.within hAfter
    (mirrors_expect rfl hAfter.ready).stays ?_
  intro _ inside hInside
  refine Mirrors.within hInside
    (mirrors_condition hInside.succ.ready).stays ?_
  intro iterable behind hBehind
  exact (mirrors_loopBody hInner hBehind).bind
    fun _ _ _ => mirrors_pure _

theorem reads_whileLoop :
    Reads tally (whileLoop (fuel + 1) inner)
      (do
        let start ← Parser.advance
        let test ← Parser.condition
        let body ←
          Parser.block bound { context with inLoop := true }
        return .whileLoop test body
          (start.merge body.span))
      tally.Advances := by
  rw [whileLoop]
  refine reads_first hFits.ready hWord ?_
  have hNext := hFits.next hWord
  intro _
  refine Mirrors.within hNext
    (mirrors_condition hNext.succ.ready).stays ?_
  intro test after hAfter
  exact (mirrors_loopBody hInner hAfter).bind
    fun _ _ _ => mirrors_pure _

end Compound

theorem reads_statement
    (hInner : Leads fuel inner)
    (hFits : tally.Fits (fuel + 1) (bound + 1) context) :
    Reads tally (statement (fuel + 1) inner)
      (Parser.statement (bound + 1) context)
      tally.Advances := by
  have hReady := hFits.ready
  have hLine := reads_exprStatement hReady
  have hContext := hFits.context
  rw [statement, Parser.statement]
  apply Reads.kind
  cases hKind : tally.cursor.kind with
  | keyword word =>
      have hWord : tally.cursor.kind.isLayout = false := by
        rw [hKind]
        rfl
      cases word with
      | defWord => exact reads_definition hInner hFits hWord
      | ifWord => exact reads_branch hInner hFits hWord
      | forWord => exact reads_forLoop hInner hFits hWord
      | whileWord => exact reads_whileLoop hInner hFits hWord
      | returnWord =>
          rw [← hContext]
          exact reads_returnStatement hReady hWord
      | breakWord =>
          rw [← hContext]
          exact reads_loopJump _ _ hReady hWord
      | continueWord =>
          rw [← hContext]
          exact reads_loopJump _ _ hReady hWord
      | passWord => exact reads_passStatement hReady hWord
      | _ => exact hLine
  | _ => exact hLine

end Counting

end Gantry
