import Mathlib
import Gantry.Proofs.Parser.Abreast

/-
  This file reads a script of simple lines one line at a
  time. Whatever is wrong with a line, reading goes on at
  the next one, so that every line is read as it would be on
  its own.

  Key definitions include:
    * `Gantry.TokenKind.opensBlock`
    * `Gantry.Frame.Behind`
    * `Gantry.TokenRow`
    * `Gantry.TokenRow.alone`
    * `Gantry.TokenRow.laid`

  Main statements:
    * `Gantry.Frame.outcome_statement`
    * `Gantry.Frame.Outcome.goOn`
    * `Gantry.TokenRow.topLevel_laid`
-/

------------------------------------------------------------
-- Simple Statements
------------------------------------------------------------

namespace Gantry

/- The words that start a statement with a block under it. -/
def TokenKind.opensBlock :
    TokenKind → Bool
| keyword .defWord => true
| keyword .ifWord => true
| keyword .forWord => true
| keyword .whileWord => true
| _ => false

/- A word of a line is no layout token. -/
theorem TokenKind.ne_of_isLayout
    {kind layout : TokenKind}
    (hFlat : kind.isLayout = false)
    (hLayout : layout.isLayout = true) :
    kind ≠ layout := by
  rintro rfl
  rw [hFlat] at hLayout
  contradiction

namespace Frame

open Gantry.Parser

variable {frame : Frame}
variable {count : Nat}
variable {one other : Cursor}

/-
  Both readings have the line behind them, and have reported
  the same about it.
-/
structure Behind
    (frame : Frame)
    (issues : List Issue)
    (one other : Cursor) : Prop where
  issues_on : ∀ issue ∈ issues, issue.span.On frame.number
  rest : one.rest = frame.tail
  otherRest : other.rest = frame.otherTail
  logged : one.log = frame.log.pushAll issues
  otherLogged :
    other.log =
      frame.otherLog.pushAll
        (issues.map (Issue.down frame.lines))

def Past
    (frame : Frame)
    (one other : Cursor) : Prop :=
  ∃ issues, frame.Behind issues one other

/- A statement of the line and where it is further down. -/
def StmtPair
    (frame : Frame)
    (stmt other : Stmt) : Prop :=
  other = stmt.down frame.lines

/- At the end of the line, one token leads behind it. -/
theorem Within.past
    (hWithin : frame.Within count one other)
    (hKind : one.kind = .newline) :
    frame.Past one.next other.next := by
  rcases hWithin with ⟨words, issues, _, hAbreast⟩
  cases words with
  | nil =>
      have hRest := hAbreast.rest
      have hOther := hAbreast.otherRest
      refine ⟨issues, hAbreast.issues_on, ?_, ?_, ?_, ?_⟩
      · simp [Cursor.next, hRest]
      · simp [Cursor.next, hOther]
      · simpa using hAbreast.logged
      · simpa using hAbreast.otherLogged
  | cons word words =>
      have hFlat :=
        (hAbreast.words_flat word List.mem_cons_self).1
      have hWord : word.kind = .newline := by
        simpa [Cursor.kind, hAbreast.rest] using hKind
      exact absurd hWord
        (TokenKind.ne_of_isLayout hFlat rfl)

/- The last step of a statement is to end the line. -/
theorem outcome_ended
    (hWithin : frame.Within count one other)
    {stmt twin : Stmt}
    (hPair : frame.StmtPair stmt twin) :
    Outcome frame frame.Past frame.StmtPair
      (exec (do lineEnd; return stmt) one)
      (exec (do lineEnd; return twin) other) := by
  rw [exec_bind, exec_bind, lineEnd, exec_peek_bind,
    exec_peek_bind, hWithin.kind]
  rcases hWithin.kind_cases with hEnd | hFlat
  · rw [hEnd]
    exact .gives hPair (hWithin.past hEnd)
  · cases hKind : one.kind with
    | indent | dedent | newline | endOfFile =>
        rw [hKind] at hFlat
        contradiction
    | _ => exact .fails (hWithin.report _ hWithin.here)

theorem outcome_passStatement
    (hWithin : frame.Within count one other)
    (hKind : one.kind ≠ .newline) :
    Outcome frame frame.Past frame.StmtPair
      (exec passStatement one)
      (exec passStatement other) := by
  refine outcome_advance hWithin hKind ?_
  rintro _ span _ _ _ _ ⟨rfl, _⟩ hNext
  exact outcome_ended hNext rfl

theorem outcome_loopJump
    (hWithin : frame.Within count one other)
    (hKind : one.kind ≠ .newline)
    (word : Keyword)
    {make : Span → Stmt}
    (hMake :
      ∀ span, frame.StmtPair (make span)
        (make (span.down frame.lines))) :
    Outcome frame frame.Past frame.StmtPair
      (exec (loopJump {} word make) one)
      (exec (loopJump {} word make) other) := by
  refine outcome_advance hWithin hKind ?_
  intro _ span _ _ _ _ hSpan hNext
  have hReported := hNext.report (.outsideLoop word) hSpan
  rcases hSpan with ⟨rfl, _⟩
  exact outcome_ended hReported (hMake span)

/- A value and where it is further down, if there is one. -/
def ValuePair
    (frame : Frame) :
    Option Expr → Option Expr → Prop
| some value, some other => frame.ExprPair value other
| none, none => True
| _, _ => False

theorem agree_returnedValue :
    Agree frame frame.ValuePair returnedValue
      returnedValue := by
  intro count one other hWithin
  rw [returnedValue, exec_peek_bind, exec_peek_bind,
    hWithin.kind]
  have hValue :
      Outcome frame (frame.Within count) frame.ValuePair
        (exec (do return some (← expression)) one)
        (exec (do return some (← expression)) other) := by
    refine (agree_expression _ _ _ hWithin).bind ?_
    intro value twin one other hValue hWithin
    exact .gives hValue hWithin
  rcases hWithin.kind_cases with hEnd | hFlat
  · rw [hEnd]
    exact .gives trivial hWithin
  · cases hKind : one.kind with
    | indent | dedent | newline | endOfFile =>
        rw [hKind] at hFlat
        contradiction
    | _ => exact hValue

theorem outcome_returnStatement
    (hWithin : frame.Within count one other)
    (hKind : one.kind ≠ .newline) :
    Outcome frame frame.Past frame.StmtPair
      (exec (returnStatement {}) one)
      (exec (returnStatement {}) other) := by
  refine outcome_advance hWithin hKind ?_
  intro _ start otherStart _ _ _ hStart hNext
  have hReported := hNext.report .outsideFunction hStart
  refine (agree_returnedValue _ _ _ hReported).bind ?_
  intro value? twin? one other hValue hWithin
  cases value? with
  | none =>
      cases twin? with
      | none =>
          rcases hStart with ⟨rfl, _⟩
          exact outcome_ended hWithin rfl
      | some twin => contradiction
  | some value =>
      cases twin? with
      | none => contradiction
      | some twin =>
          have hSpan := hStart.merge hValue.span
          rcases hValue with ⟨rfl, _⟩
          refine outcome_ended hWithin ?_
          unfold StmtPair
          dsimp only
          rw [hSpan.1]
          rfl

/- An assignment moves as its two sides do. -/
theorem assignment?_down
    (lines : Nat)
    (target value : Expr) :
    assignment? (target.down lines) (value.down lines) =
      (assignment? target value).map (Stmt.down lines) := by
  have hSpan :
      (target.down lines).span.merge
          (value.down lines).span =
        (target.span.merge value.span).down lines := by
    rw [Expr.span_down, Expr.span_down, Span.down_merge]
  unfold assignment?
  rw [hSpan]
  cases target <;> rfl

theorem outcome_exprStatement
    (hWithin : frame.Within count one other) :
    Outcome frame frame.Past frame.StmtPair
      (exec exprStatement one)
      (exec exprStatement other) := by
  refine (agree_expression _ _ _ hWithin).bind ?_
  intro expr twin one other hExpr hWithin
  refine outcome_check hWithin ?_ ?_
  · intro hKind
    refine outcome_advance hWithin (by simp [hKind]) ?_
    intro _ mark otherMark _ _ _ hMark hNext
    refine (agree_expression _ _ _ hNext).bind ?_
    rintro value _ one other ⟨rfl, _⟩ hWithin
    have hTarget := hExpr.span.merge hMark
    rcases hExpr with ⟨rfl, _⟩
    rw [assignment?_down]
    cases assignment? expr value with
    | none => exact .fails (hWithin.report _ hTarget)
    | some stmt => exact outcome_ended hWithin rfl
  · have hSpan := hExpr.span
    rcases hExpr with ⟨rfl, _⟩
    refine outcome_ended hWithin ?_
    rw [StmtPair, hSpan.1]
    rfl

/- A statement without a block ends with its line. -/
theorem outcome_statement
    (hWithin : frame.Within count one other)
    (hKind : one.kind ≠ .newline)
    (hPlain : one.kind.opensBlock = false)
    (bound otherBound : Nat) :
    Outcome frame frame.Past frame.StmtPair
      (exec (statement (bound + 1) {}) one)
      (exec (statement (otherBound + 1) {}) other) := by
  rw [statement, statement, exec_peek_bind, exec_peek_bind,
    hWithin.kind]
  split
  case h_1 hFound | h_2 hFound | h_3 hFound | h_4 hFound =>
    rw [hFound] at hPlain
    contradiction
  · exact outcome_returnStatement hWithin hKind
  · exact outcome_loopJump hWithin hKind _ fun _ => rfl
  · exact outcome_loopJump hWithin hKind _ fun _ => rfl
  · exact outcome_passStatement hWithin hKind
  · exact outcome_exprStatement hWithin

end Frame

end Gantry

------------------------------------------------------------
-- Going On
------------------------------------------------------------

namespace Gantry

namespace Parser

/- A line under which no level opens is dropped alone. -/
theorem dropLine_flat
    {words tail : List Token}
    {mark : Token}
    (hFlat : ∀ word ∈ words, word.kind.isLayout = false)
    (hMark : mark.kind = .newline)
    (hFlush : tail.head?.any (·.kind == .indent) = false)
    (previous : Span) :
    dropLine previous (words ++ mark :: tail) =
      (mark.span, tail) := by
  induction words generalizing previous with
  | nil =>
      rw [List.nil_append, dropLine, hMark]
      dsimp only
      rw [if_neg (ne_true_of_eq_false hFlush)]
  | cons word words ih =>
      rw [List.forall_mem_cons] at hFlat
      rw [List.cons_append, dropLine]
      cases hKind : word.kind with
      | indent | dedent | newline | endOfFile =>
          rw [hKind] at hFlat
          exact absurd hFlat.1 (by decide)
      | _ => exact ih hFlat.2 word.span

end Parser

namespace Frame

open Gantry.Parser

variable {frame : Frame}
variable {count : Nat}
variable {one other : Cursor}

/- What is left of the line is skipped, and no more. -/
theorem Within.synchronized
    (hWithin : frame.Within count one other) :
    frame.Past one.synchronized other.synchronized := by
  rcases hWithin with ⟨words, issues, _, hAbreast⟩
  have hFlat :
      ∀ word ∈ words, word.kind.isLayout = false :=
    fun word hWord => (hAbreast.words_flat word hWord).1
  have hOtherFlat :
      ∀ word ∈ words.map (Token.down frame.lines),
        word.kind.isLayout = false := by
    intro word hWord
    rcases List.mem_map.mp hWord with ⟨old, hOld, rfl⟩
    exact hFlat old hOld
  have hOtherMark :
      (frame.mark.down frame.lines).kind = .newline :=
    frame.isNewline
  have hDrop :=
    dropLine_flat hFlat frame.isNewline frame.flush
      one.previous
  have hOtherDrop :=
    dropLine_flat hOtherFlat hOtherMark frame.otherFlush
      other.previous
  rw [← hAbreast.rest] at hDrop
  rw [← hAbreast.otherRest] at hOtherDrop
  exact ⟨issues, hAbreast.issues_on,
    congrArg Prod.snd hDrop, congrArg Prod.snd hOtherDrop,
    hAbreast.logged, hAbreast.otherLogged⟩

/-
  Whether the statement could be read or not, both readings
  go on behind the line.
-/
theorem Outcome.goOn
    {x y : Option Stmt × Cursor}
    (hOutcome : Outcome frame frame.Past frame.StmtPair x y)
    (rest others : StateM Cursor (List Stmt)) :
    ∃ stmts issues one other,
      frame.Behind issues one other ∧
        goOn rest x =
            (stmts ++ (rest.run one).1,
              (rest.run one).2) ∧
          goOn others y =
            (stmts.map (Stmt.down frame.lines) ++
                (others.run other).1,
              (others.run other).2) := by
  cases hOutcome with
  | @gives stmt twin one other hPair hAfter =>
      rcases hAfter with ⟨issues, hBehind⟩
      refine ⟨[stmt], issues, one, other, hBehind, rfl, ?_⟩
      rw [hPair]
      rfl
  | @fails _ one other hWithin =>
      rcases hWithin.synchronized with ⟨issues, hBehind⟩
      exact ⟨[], issues, one.synchronized,
        other.synchronized, hBehind, rfl, rfl⟩

end Frame

end Gantry

------------------------------------------------------------
-- Rows Of Tokens
------------------------------------------------------------

namespace Gantry

namespace Log

variable {α : Type}

theorem pushAll_append
    (log : Log α)
    (entries more : List α) :
    log.pushAll (entries ++ more) =
      (log.pushAll entries).pushAll more := by
  unfold pushAll
  rw [List.foldl_append]

/- The first entries are kept, as far as there is room. -/
theorem kept_pushAll
    (log : Log α)
    (hLog : log.kept.length ≤ capacity)
    (entries : List α) :
    (log.pushAll entries).kept =
      (log.kept ++ entries).take capacity := by
  induction entries generalizing log with
  | nil =>
      rw [List.append_nil, List.take_of_length_le hLog]
      rfl
  | cons entry entries ih =>
      change ((log.push entry).pushAll entries).kept = _
      by_cases hRoom : log.kept.length < capacity
      · have hKept :
            (log.push entry).kept = log.kept ++ [entry] :=
          if_pos hRoom
        have hLonger :
            (log.kept ++ [entry]).length ≤ capacity := by
          rwa [List.length_append]
        rw [ih _ (hKept ▸ hLonger), hKept,
          List.append_assoc]
        rfl
      · have hKept : (log.push entry).kept = log.kept :=
          if_neg hRoom
        have hFull : log.kept.length = capacity :=
          Nat.le_antisymm hLog (Nat.le_of_not_lt hRoom)
        rw [ih _ (hKept ▸ hLog), hKept, ← hFull,
          List.take_left, List.take_left]

theorem kept_pushAll_empty
    {entries : List α}
    (hRoom :
      (empty.pushAll entries).total ≤ capacity) :
    (empty.pushAll entries).kept = entries := by
  have hEntries : entries.length ≤ capacity := by
    simpa [total_pushAll, empty] using hRoom
  calc
    (empty.pushAll entries).kept = entries.take capacity :=
      kept_pushAll empty (Nat.zero_le capacity) _
    _ = entries := List.take_of_length_le hEntries

end Log

theorem length_lineByLine
    {κ α : Type}
    (give : κ → List α)
    (move : Nat → α → α)
    (start : Nat)
    (lines : List κ) :
    (lineByLine give move start lines).length =
      (lines.map fun line => (give line).length).sum := by
  induction lines generalizing start with
  | nil => rfl
  | cons line lines ih =>
      rw [lineByLine_cons, List.length_append,
        List.length_map, ih, List.map_cons, List.sum_cons]

/-
  The tokens of a simple line, as they are when it is the
  first one.
-/
structure TokenRow where
  first : Token
  others : List Token
  mark : Token
  words_flat :
    ∀ word ∈ first :: others,
      word.kind.isLayout = false ∧ word.span.On 1
  plain : first.kind.opensBlock = false
  isNewline : mark.kind = .newline
  onLine : mark.span.On 1

namespace TokenRow

open Gantry.Parser

/- The words and the token that ends the line. -/
def tokens
    (row : TokenRow) : List Token :=
  row.first :: row.others ++ [row.mark]

/- The tokens of a script of the one line. -/
def script
    (row : TokenRow) : List Token :=
  row.tokens ++ [⟨.endOfFile, row.mark.span⟩]

/- How the line is read when it is the whole script. -/
def alone
    (row : TokenRow) : List Stmt × Cursor :=
  (topLevel (boundFor row.script)).run { rest := row.script }

/- Lines one below the other, so far down. -/
def laid
    (finish : Span) :
    Nat → List TokenRow → List Token
| _, [] => [⟨.endOfFile, finish⟩]
| lines, row :: rows =>
    row.tokens.map (Token.down lines) ++
      laid finish (lines + 1) rows

/- The line in a script of its own and so far down. -/
def frame
    (row : TokenRow)
    (lines : Nat)
    {tail : List Token}
    (hFlush : tail.head?.any (·.kind == .indent) = false)
    (log : Log Issue) : Frame where
  number := 1
  lines := lines
  mark := row.mark
  isNewline := row.isNewline
  onLine := row.onLine
  tail := [⟨.endOfFile, row.mark.span⟩]
  flush := rfl
  otherTail := tail
  otherFlush := hFlush
  log := Log.empty
  otherLog := log

/- A line that starts with a word is read as a statement. -/
theorem run_topLevel_flat
    {cursor : Cursor}
    (hRoom : cursor.log.isFull = false)
    (hFlat : cursor.kind.isLayout = false)
    (bound : Nat) :
    (topLevel (bound + 1)).run cursor =
      goOn (topLevel bound)
        (exec (statement bound {}) cursor) := by
  have hNewline : cursor.kind ≠ .newline :=
    TokenKind.ne_of_isLayout hFlat rfl
  have hEnd : cursor.kind ≠ .endOfFile :=
    TokenKind.ne_of_isLayout hFlat rfl
  rw [run_topLevel, Cursor.pastNewlines_of_kind hNewline]
  dsimp only
  rw [if_neg (by simp [hRoom, Cursor.atEnd, hEnd])]
  cases hKind : cursor.kind with
  | indent | dedent =>
      rw [hKind] at hFlat
      contradiction
  | _ => rfl

/- Nothing is left to read at the end of a script. -/
theorem run_topLevel_end
    {cursor : Cursor}
    (hEnd : cursor.kind = .endOfFile)
    (bound : Nat) :
    (topLevel (bound + 1)).run cursor = ([], cursor) := by
  rw [run_topLevel, Cursor.pastNewlines_of_kind]
  · dsimp only
    rw [if_pos]
    simp [Cursor.atEnd, hEnd]
  · simp [hEnd]

/-
  Reading takes the line as it would on its own, and goes on
  behind it.
-/
theorem topLevel_row
    (row : TokenRow)
    (lines : Nat)
    {tail : List Token}
    (hFlush : tail.head?.any (·.kind == .indent) = false)
    {cursor : Cursor}
    (hRest :
      cursor.rest = row.tokens.map (Token.down lines) ++ tail)
    (hRoom : cursor.log.isFull = false)
    (bound : Nat) :
    ∃ issues after,
      (∀ issue ∈ issues, issue.span.On 1) ∧
        row.alone.2.log = Log.empty.pushAll issues ∧
          after.rest = tail ∧
            after.log =
                cursor.log.pushAll
                  (issues.map (Issue.down lines)) ∧
              (topLevel (bound + 2)).run cursor =
                (row.alone.1.map (Stmt.down lines) ++
                    ((topLevel (bound + 1)).run after).1,
                  ((topLevel (bound + 1)).run after).2) := by
  let start : Cursor := { rest := row.script }
  have hAbreast :
      (row.frame lines hFlush cursor.log).Abreast
        (row.first :: row.others) [] start cursor := by
    refine ⟨row.words_flat, by simp, ?_, ?_, rfl, rfl⟩
    · simp [start, script, tokens, frame]
    · simp [hRest, tokens, frame]
  have hWithin :
      (row.frame lines hFlush cursor.log).Within
        (row.first :: row.others).length start cursor :=
    ⟨_, _, Nat.le_refl _, hAbreast⟩
  have hFlat : start.kind.isLayout = false :=
    (row.words_flat row.first List.mem_cons_self).1
  have hKind : start.kind ≠ .newline :=
    TokenKind.ne_of_isLayout hFlat rfl
  -- One round reads the line and the next one ends.
  let rounds := 2 * row.script.length + 2
  have hOutcome :=
    Frame.outcome_statement hWithin hKind row.plain rounds
      bound
  rcases hOutcome.goOn (topLevel (rounds + 1))
      (topLevel (bound + 1)) with
    ⟨stmts, issues, one, after, hBehind, hOne, hOther⟩
  have hRead : row.alone = (stmts, one) := by
    have hStart : start.log.isFull = false := rfl
    have hEnd : one.kind = .endOfFile := by
      rw [Cursor.kind, hBehind.rest]
      rfl
    change (topLevel (rounds + 1 + 1)).run start = _
    rw [run_topLevel_flat hStart hFlat, hOne,
      run_topLevel_end hEnd, List.append_nil]
  refine ⟨issues, after, hBehind.issues_on, ?_,
    hBehind.otherRest, hBehind.otherLogged, ?_⟩
  · rw [hRead]
    exact hBehind.logged
  · rw [run_topLevel_flat hRoom (hWithin.kind ▸ hFlat),
      hOther, hRead]
    rfl

/- Nothing that follows a line opens a level. -/
theorem flush_laid
    (finish : Span)
    (lines : Nat)
    (rows : List TokenRow) :
    (laid finish lines rows).head?.any (·.kind == .indent) =
      false := by
  cases rows with
  | nil => rfl
  | cons row rows =>
      have hFlat :=
        (row.words_flat row.first List.mem_cons_self).1
      change (row.first.kind == .indent) = false
      exact beq_eq_false_iff_ne.mpr
        (TokenKind.ne_of_isLayout hFlat rfl)

/- What is reported about a line alone is about line one. -/
theorem on_alone
    (row : TokenRow)
    (hFew : row.alone.2.log.total ≤ Log.capacity) :
    ∀ issue ∈ row.alone.2.log.kept, issue.span.On 1 := by
  let start : Cursor :=
    { rest := row.tokens.map (Token.down 0) ++ [] }
  have hRest :
      start.rest = row.tokens.map (Token.down 0) ++ [] := rfl
  rcases row.topLevel_row 0 rfl hRest rfl 0 with
    ⟨issues, _, hOn, hLog, _⟩
  rw [hLog] at hFew ⊢
  rwa [Log.kept_pushAll_empty hFew]

/- A line alone leaves room for what is reported about it. -/
theorem length_kept_alone
    (row : TokenRow)
    (hFew : row.alone.2.log.total ≤ Log.capacity) :
    row.alone.2.log.kept.length = row.alone.2.log.total := by
  have hExtends :
      Log.empty.Extends row.alone.2.log :=
    extends_topLevel _ _
  rw [hExtends.length_kept, Nat.min_eq_left hFew]

/- Every row and the end of the script are tokens. -/
theorem length_laid
    (finish : Span)
    (lines : Nat)
    (rows : List TokenRow) :
    rows.length < (laid finish lines rows).length := by
  induction rows generalizing lines with
  | nil => exact Nat.zero_lt_one
  | cons row rows ih =>
      have hRows := ih (lines + 1)
      rw [laid, List.length_append, List.length_map, tokens,
        List.length_append, List.length_cons,
        List.length_cons]
      omega

/-
  Every line of a script of simple lines is read as it would
  be on its own, as long as there is room to report.
-/
theorem topLevel_laid
    (finish : Span)
    (rows : List TokenRow)
    (lines : Nat)
    {cursor : Cursor}
    (hRest : cursor.rest = laid finish lines rows)
    (hFew :
      cursor.log.total +
          (rows.map fun row => row.alone.2.log.total).sum <
        Log.capacity)
    {bound : Nat}
    (hBound : rows.length < bound) :
    ((topLevel bound).run cursor).1 =
        lineByLine (·.alone.1) Stmt.down lines rows ∧
      ((topLevel bound).run cursor).2.log =
        cursor.log.pushAll
          (lineByLine (·.alone.2.log.kept) Issue.down lines
            rows) := by
  induction rows generalizing lines cursor bound with
  | nil =>
      rcases Nat.exists_eq_succ_of_ne_zero
        (Nat.ne_of_gt hBound) with ⟨bound, rfl⟩
      have hEnd : cursor.kind = .endOfFile := by
        rw [Cursor.kind, hRest]
        rfl
      rw [run_topLevel_end hEnd]
      exact ⟨rfl, rfl⟩
  | cons row rows ih =>
      rw [List.map_cons, List.sum_cons] at hFew
      rw [List.length_cons] at hBound
      rcases Nat.exists_eq_add_of_lt hBound with
        ⟨spare, rfl⟩
      have hRoom : cursor.log.isFull = false := by
        rw [Log.isFull, decide_eq_false_iff_not]
        omega
      rcases row.topLevel_row lines
          (flush_laid finish (lines + 1) rows) hRest hRoom
          (rows.length + spare) with
        ⟨issues, after, _, hAlone, hAfter, hLog, hRun⟩
      -- Alone, the line keeps all it reports, so that the
      -- room it takes here is known.
      have hTotal :
          row.alone.2.log.total = issues.length := by
        rw [hAlone, Log.total_pushAll]
        exact Nat.zero_add _
      have hKept : row.alone.2.log.kept = issues := by
        rw [hAlone] at hFew ⊢
        exact Log.kept_pushAll_empty (by omega)
      have hLeft :
          after.log.total +
              (rows.map fun row =>
                row.alone.2.log.total).sum <
            Log.capacity := by
        rw [hLog, Log.total_pushAll, List.length_map]
        omega
      have hRows :=
        ih (lines + 1) hAfter hLeft
          (Nat.lt_add_of_pos_right (Nat.succ_pos spare))
      have hBounds :
          rows.length + 1 + spare + 1 =
            rows.length + spare + 2 := by
        omega
      rw [hBounds, hRun, lineByLine_cons, lineByLine_cons,
        hKept, Log.pushAll_append, ← hLog]
      exact ⟨congrArg _ hRows.1, hRows.2⟩

end TokenRow

end Gantry
