import Gantry.Proofs.Parser.CountingStatements

/-
  This file reads whole scripts in both ways. Whatever the
  tokens are, reading takes no more fuel than there are
  tokens, and comes to the end of the file unless it has
  reported as many issues as are kept. If no character of
  the script was at fault, all that is read or skipped in
  place of a statement stays on the level of the statement.

  Key definitions include:
    * `Gantry.Counting.tried`
    * `Gantry.Tally.parsed`
    * `Gantry.Trial.KeepsLevel`

  Main statements:
    * `Gantry.Counting.runs_trial`
    * `Gantry.Counting.runs_round`
    * `Gantry.Counting.leads`
    * `Gantry.Counting.runs_topLevel`
    * `Gantry.Counting.parse_comes_to_the_end`
    * `Gantry.Source.statements_keep_their_level`
-/

------------------------------------------------------------
-- Rounds Of Statements
------------------------------------------------------------

namespace Gantry

namespace Counting

variable
    {α : Type}
    {tally : Tally}
    {fuel bound : Nat}
    {context : Parser.Context}
    {inner : Steady (List Stmt)}

theorem Runs.get
    {next : Tally → Steady α}
    {result : α × Cursor}
    {post : Tally → Prop}
    (hNext : Runs tally (next tally) result post) :
    Runs tally (get >>= next) result post :=
  hNext

/- What was tried to be read, and where reading goes on. -/
def tried :
    Option Stmt × Cursor → Option Stmt × Cursor
| (some stmt, after) => (some stmt, after)
| (none, after) => (none, after.synchronized)

/- Skipping takes a token if none was taken before. -/
theorem runs_recover
    {after : Tally}
    (hStays : tally.Stays after)
    (hSupplied : after.Supplied (fuel + 1))
    (hWord : tally.cursor.kind.isLayout = false) :
    Runs after (synchronize (fuel + 1))
      ((), after.cursor.synchronized)
      fun last =>
        tally.Stays last ∧
          last.cursor.rest.length <
            tally.cursor.rest.length := by
  rcases hStays.taken with ⟨taken, hTakes, _⟩
  cases taken with
  | nil =>
      have hRest : tally.cursor.rest = after.cursor.rest :=
        hTakes.1
      have hKind : after.cursor.kind.isLayout = false := by
        unfold Cursor.kind at hWord ⊢
        rwa [← hRest]
      refine (runs_skipLine hSupplied hKind).imp ?_
      rintro last ⟨hLast, hLess⟩
      exact ⟨hStays.trans hLast, hRest ▸ hLess⟩
  | cons token taken =>
      refine (runs_synchronize _ hSupplied).imp ?_
      intro last hLast
      refine ⟨hStays.trans hLast, ?_⟩
      have := hLast.length_le
      rw [hTakes.1, List.length_append, List.length_cons]
      omega

/- A trial takes at least one token. -/
theorem runs_trial
    {parser : Parser Stmt}
    (hStatement :
      Reads tally (statement (fuel + 1) inner) parser
        tally.Advances)
    (hReady : tally.Ready (fuel + 1) maxNesting)
    (hOpen : tally.cursor.log.isFull = false)
    (hWord : tally.cursor.kind.isLayout = false) :
    Runs tally (trial (fuel + 1) inner)
      (tried (Parser.exec parser tally.cursor))
      fun after =>
        tally.Stays after ∧
          after.cursor.rest.length <
            tally.cursor.rest.length := by
  rcases hStatement with
    ⟨stmt?, after, hExec, hParser, hStays, hLess⟩
  rw [hParser, trial]
  cases stmt? with
  | some stmt =>
      refine
        ⟨after.note tally.toPost, ?_, rfl,
          hStays.noted hOpen, hLess rfl hWord⟩
      change
        (exec (statement (fuel + 1) inner) tally).bind _ = _
      rw [hExec]
      rfl
  | none =>
      rcases runs_recover hStays
          (hReady.climbs hStays).toSupplied hWord with
        ⟨last, hSkip, hCursor, hLast, hBehind⟩
      refine
        ⟨last.note tally.toPost, ?_, hCursor,
          hLast.noted hOpen, hBehind⟩
      change
        (exec (statement (fuel + 1) inner) tally).bind _ = _
      rw [hExec]
      change ((synchronize (fuel + 1)).run after).bind _ = _
      rw [hSkip]
      rfl

/- A region that nothing opened is read and left out. -/
theorem runs_unexpectedRegion
    (hInner : Leads fuel inner)
    (hFits : tally.Fits (fuel + 1) (bound + 1) context)
    (hIndent : tally.cursor.kind = .indent) :
    Runs tally (unexpectedRegion inner)
      ((),
        ((Parser.statements (bound + 1) context).run
          (tally.cursor.next.report .unexpectedIndent
            tally.cursor.here)).2)
      fun after =>
        tally.Stays after ∧
          after.cursor.rest.length <
            tally.cursor.rest.length := by
  have hEnd : tally.cursor.kind ≠ .endOfFile := by
    simp [hIndent]
  have hReport :
      Tally.Climbs tally.level 0 1 tally
        (tally.next.report .unexpectedIndent
          tally.cursor.here) :=
    (Tally.climbs_indent hIndent).trans
      (Tally.inline_report _ _ _).climbs
  have hLess := Cursor.length_next_lt hEnd
  rw [unexpectedRegion]
  apply Runs.take hFits.ready.closed hEnd
  rcases runs_region hInner (hFits.shrink hReport hLess) with
    ⟨after, hRegion, hCursor, hAfter⟩
  refine ⟨after, ?_, hCursor, ?_, ?_⟩
  · change
      ((region inner).run
        (tally.next.report .unexpectedIndent
          tally.cursor.here)).bind _ = _
    rw [hRegion]
    rfl
  · exact hReport.trans hAfter
  · exact Nat.lt_of_le_of_lt hAfter.length_le hLess

/- What is left to be read behind a trial. -/
theorem Runs.goOn
    {result : Option Stmt × Cursor}
    {reader : Steady (List Stmt)}
    {rest : StateM Cursor (List Stmt)}
    {middle post : Tally → Prop}
    (hTrial :
      Runs tally (trial fuel inner) (tried result) middle)
    (hRest :
      ∀ after, middle after →
        Runs after reader (rest.run after.cursor) post) :
    Runs tally
      (do
        match ← trial fuel inner with
        | some stmt =>
            let others ← reader
            return stmt :: others
        | none => reader)
      (Parser.goOn rest result) post := by
  refine hTrial.bind ?_
  intro after hCursor hMiddle
  have hAfter := hRest after hMiddle
  rw [hCursor] at hAfter
  rcases result with ⟨stmt?, cursor⟩
  cases stmt? with
  | none => exact hAfter
  | some stmt =>
      rcases hAfter with ⟨last, hStep, hLast, hPost⟩
      refine ⟨last, ?_, hLast, hPost⟩
      change (reader.run after).bind _ = _
      rw [hStep]
      rfl

/-
  One round of statements: blank lines are skipped, and then
  reading stops, a region ends, a region that nothing opened
  is left out, or a statement is tried to be read.
-/
theorem runs_round
    {closing reader : Steady (List Stmt)}
    (closed : Cursor → List Stmt × Cursor)
    (rest : StateM Cursor (List Stmt))
    {post : Tally → Prop}
    (hInner : Leads fuel inner)
    (hFits : tally.Fits (fuel + 1) (bound + 1) context)
    (hStop :
      ∀ start, tally.Stays start →
        start.cursor.log.isFull = true ∨
            start.cursor.kind = .endOfFile →
          post start)
    (hClosing :
      ∀ start, tally.Stays start →
        start.cursor.log.isFull = false →
          start.cursor.kind = .dedent →
            Runs start closing (closed start.cursor) post)
    (hRest :
      ∀ start after, tally.Stays start →
        start.Stays after →
          after.cursor.rest.length <
              start.cursor.rest.length →
            Runs after reader (rest.run after.cursor)
              post) :
    Runs tally
      (do
        skipNewlines (fuel + 1)
        let start ← get
        if start.cursor.log.isFull || start.cursor.atEnd then
          return []
        else
          match start.cursor.kind with
          | .dedent => closing
          | .indent =>
              unexpectedRegion inner
              reader
          | _ =>
              match ← trial (fuel + 1) inner with
              | some stmt =>
                  let others ← reader
                  return stmt :: others
              | none => reader)
      (let start := tally.cursor.pastNewlines
        if start.log.isFull || start.atEnd then
          ([], start)
        else
          match start.kind with
          | .dedent => closed start
          | .indent =>
              rest.run
                ((Parser.statements (bound + 1) context).run
                  (start.next.report .unexpectedIndent
                    start.here)).2
          | _ =>
              Parser.goOn rest
                (Parser.exec
                  (Parser.statement (bound + 1) context)
                  start))
      post := by
  refine (runs_skipNewlines _ hFits.ready.toSupplied).bind ?_
  intro start hCursor hStart
  have hHere := hFits.climbs hStart
  have hNewline : start.cursor.kind ≠ .newline := by
    rw [hCursor]
    exact Cursor.kind_pastNewlines _
  dsimp only at hCursor ⊢
  rw [← hCursor]
  apply Runs.get
  by_cases hEnds :
      (start.cursor.log.isFull || start.cursor.atEnd) = true
  · rw [if_pos hEnds, if_pos hEnds]
    rw [Bool.or_eq_true, Cursor.atEnd, beq_iff_eq] at hEnds
    exact runs_pure [] (hStop start hStart hEnds)
  · rw [if_neg hEnds, if_neg hEnds]
    rw [Bool.or_eq_true, Cursor.atEnd, beq_iff_eq,
      not_or, Bool.not_eq_true] at hEnds
    rcases hEnds with ⟨hOpen, hEnd⟩
    have hTrial := fun hWord =>
      Runs.goOn
        (runs_trial (reads_statement hInner hHere)
          hHere.ready hOpen hWord)
        fun after hAfter =>
          hRest start after hStart hAfter.1 hAfter.2
    cases hKind : start.cursor.kind with
    | newline => contradiction
    | endOfFile => contradiction
    | dedent => exact hClosing start hStart hOpen hKind
    | indent =>
        refine (runs_unexpectedRegion hInner hHere
          hKind).bind ?_
        rintro after hBehind ⟨hStays, hLess⟩
        have hAfter := hRest start after hStart hStays hLess
        rwa [hBehind] at hAfter
    | _ => exact hTrial (by rw [hKind]; rfl)

/-
  The statements of a region lead out of the region. Behind
  each round there are fewer tokens, which take less fuel.
-/
theorem leads
    (fuel : Nat) :
    Leads fuel (statements fuel) := by
  induction fuel with
  | zero =>
      intro context tally bound base hFits
      exact absurd rfl hFits.ready.fuel_ne_zero
  | succ fuel ih =>
      intro context tally bound base hFits hLevel
      obtain ⟨bound, rfl⟩ :=
        Nat.exists_eq_add_of_le'
          (Nat.le_of_succ_le hFits.two_le)
      rw [statements, Parser.run_statements]
      refine runs_round (fun start => ([], start.next))
        (Parser.statements (bound + 1) context) ih hFits
        ?_ ?_ ?_
      · intro start hStart hStop
        exact (hStart.inside hLevel).trans
          (Tally.climbs_stop hStop)
      · intro start hStart _ hDedent
        have hHere := hFits.climbs hStart
        apply Runs.take hHere.ready.closed (by simp [hDedent])
        exact runs_pure []
          ((hStart.inside hLevel).trans
            (Tally.climbs_dedent hDedent))
      · intro start after hStart hAfter hLess
        have hInside := hStart.trans hAfter
        have hBehind :=
          (hFits.climbs hStart).shrink hAfter hLess
        refine (ih hBehind
          (hInside.level.trans hLevel)).imp ?_
        exact fun _ => (hInside.inside hLevel).trans

end Counting

end Gantry

------------------------------------------------------------
-- Scripts
------------------------------------------------------------

namespace Gantry

namespace Counting

/-
  The statements of a script. Reading stops at the end of
  the file or where there is no room for another issue.
-/
theorem runs_topLevel
    (fuel : Nat)
    {tally : Tally}
    {bound : Nat}
    (hFits : tally.Fits fuel bound {})
    (hLevel : tally.level = 0) :
    Runs tally (topLevel fuel)
      ((Parser.topLevel (bound + 1)).run tally.cursor)
      fun after =>
        tally.Stays after ∧
          (after.cursor.log.isFull = true ∨
            after.cursor.kind = .endOfFile) := by
  induction fuel generalizing tally bound with
  | zero => exact absurd rfl hFits.ready.fuel_ne_zero
  | succ fuel ih =>
      obtain ⟨bound, rfl⟩ :=
        Nat.exists_eq_add_of_le'
          (Nat.le_of_succ_le hFits.two_le)
      rw [topLevel, Parser.run_topLevel]
      refine runs_round
        (fun start =>
          (Parser.topLevel (bound + 1)).run start.next)
        (Parser.topLevel (bound + 1)) (leads fuel) hFits
        ?_ ?_ ?_
      · exact fun start hStart hStop => ⟨hStart, hStop⟩
      · intro start hStart hOpen hDedent
        have hHere := hFits.climbs hStart
        have hZero := hStart.level.trans hLevel
        have hStray := Tally.stays_stray hZero hOpen hDedent
        have hEnd : start.cursor.kind ≠ .endOfFile := by
          simp [hDedent]
        have hBehind :=
          hHere.shrink hStray (Cursor.length_next_lt hEnd)
        apply Runs.take hHere.ready.closed hEnd
        refine Runs.imp (ih hBehind hZero) ?_
        rintro last ⟨hLast, hStop⟩
        exact ⟨(hStart.trans hStray).trans hLast, hStop⟩
      · intro start after hStart hAfter hLess
        have hInside := hStart.trans hAfter
        have hBehind :=
          (hFits.climbs hStart).shrink hAfter hLess
        refine (ih hBehind
          (hInside.level.trans hLevel)).imp ?_
        exact fun _ hLast =>
          ⟨hInside.trans hLast.1, hLast.2⟩

end Counting

/- What a reading has to say about a script in the end. -/
def Tally.parsed
    (tally : Tally)
    (program : Program) : Parsed :=
  { program? :=
      if tally.cursor.log.isEmpty then some program else none
    log := tally.cursor.log }

namespace Counting

/- Both ways of reading a script agree. -/
theorem parse_agrees
    {tokens : List Token}
    {fuel : Nat}
    (hClosed : Token.Closed tokens)
    (hFuel : tokens.length ≤ fuel) :
    ∃ program tally,
      Counting.parse fuel tokens = some (program, tally) ∧
        tally.parsed program = Parser.parse tokens ∧
          Tally.Stays { cursor := { rest := tokens } }
            tally ∧
            (tally.cursor.log.isFull = true ∨
              tally.cursor.kind = .endOfFile) := by
  let start : Cursor := { rest := tokens }
  have hFits :
      ({ cursor := start } : Tally).Fits fuel
        (2 * tokens.length + 3) {} :=
    { ready := ⟨⟨hClosed, hFuel⟩, Nat.zero_add _⟩
      length := Nat.le_add_right _ 3
      context := rfl }
  rcases runs_topLevel fuel hFits rfl with
    ⟨tally, hRun, hCursor, hStays, hStop⟩
  let body :=
    ((Parser.topLevel (Parser.boundFor tokens)).run start).1
  refine
    ⟨⟨body, start.here.merge tally.cursor.previous⟩, tally,
      ?_, ?_, hStays, hStop⟩
  · change
      ((topLevel fuel).run { cursor := start }).bind _ = _
    rw [hRun]
    rfl
  · rw [Parser.parse_eq, Tally.parsed, hCursor]
    rfl

/- Where the tokens that do not end the file are taken. -/
theorem rest_of_takes
    {cursor after : Cursor}
    {taken : List Token}
    (hTakes : cursor.Takes taken after)
    (hEnd : after.kind = .endOfFile) :
    after.rest =
      cursor.rest.dropWhile (·.kind ≠ .endOfFile) := by
  have hRest :
      after.rest.dropWhile (·.kind ≠ .endOfFile) =
        after.rest := by
    unfold Cursor.kind at hEnd
    split at hEnd
    · rename_i hNil
      rw [hNil, List.dropWhile_nil]
    · rename_i token rest hCons
      rw [hCons, List.dropWhile_cons_of_neg]
      simp [hEnd]
  rw [hTakes.1, List.dropWhile_append_of_pos, hRest]
  simpa using hTakes.2

/-
  On all tokens of which the last one ends the file, there
  is an outcome if there is some fuel for each token, and it
  is the outcome of the reading that is bounded. It stops in
  front of the first token that ends the file, unless there
  were too many issues.
-/
theorem parse_comes_to_the_end
    (tokens : List Token)
    (fuel : Nat)
    (hClosed : Token.Closed tokens)
    (hFuel : tokens.length ≤ fuel) :
    ∃ program tally,
      Counting.parse fuel tokens = some (program, tally) ∧
        tally.parsed program = Parser.parse tokens ∧
          (tally.cursor.rest =
              tokens.dropWhile (·.kind ≠ .endOfFile) ∨
            Log.capacity ≤ tally.cursor.log.total) := by
  rcases parse_agrees hClosed hFuel with
    ⟨program, tally, hParse, hParsed, hStays, hStop⟩
  refine ⟨program, tally, hParse, hParsed, ?_⟩
  rcases hStop with hFull | hEnd
  · right
    simpa [Log.isFull] using hFull
  · left
    rcases hStays.taken with ⟨taken, hTakes, _⟩
    exact rest_of_takes hTakes hEnd

/-
  A level that is closed before one is opened, a level that
  nothing opened, and a name behind the end of the file.
-/
theorem parse_comes_to_the_end_unbalanced :
    let token := fun kind => Token.mk kind (Span.point 1 1)
    let behind :=
      [token .endOfFile, token (.name "y"),
        token .endOfFile]
    let tokens :=
      [token .dedent, token .indent, token .indent,
          token (.name "x"), token .dedent, token .dedent,
          token .dedent, token .indent] ++ behind
    Token.Closed tokens ∧
      ∃ program tally,
        Counting.parse 11 tokens = some (program, tally) ∧
          tally.parsed program = Parser.parse tokens ∧
            tally.cursor.rest = behind := by
  intro token behind tokens
  have hClosed : Token.Closed tokens :=
    ⟨tokens.dropLast, token .endOfFile, rfl, rfl⟩
  have hTotal : (Parser.parse tokens).log.total = 3 := by
    decide +kernel
  rcases parse_comes_to_the_end tokens 11 hClosed
      Nat.le.refl with
    ⟨program, tally, hParse, hParsed, hRest | hMany⟩
  · exact ⟨hClosed, program, tally, hParse, hParsed, hRest⟩
  · rw [← hParsed] at hTotal
    change tally.cursor.log.total = 3 at hTotal
    rw [hTotal] at hMany
    simp [Log.capacity] at hMany

end Counting

/-
  A statement that was tried to be read among some tokens.
  All counts are put back behind it. The level it was tried
  on is the one that it has among the tokens. As long as
  issues are kept, what was taken for it is balanced.
-/
structure Trial.KeepsLevel
    (tokens : List Token)
    (trial : Trial) : Prop where
  counts : trial.stop.counts = trial.start.counts
  level :
    ∃ earlier,
      tokens = earlier ++ trial.start.cursor.rest ∧
        Token.indents earlier =
          Token.dedents earlier + trial.start.level
  balanced :
    trial.stop.cursor.log.isFull = true ∨
      ∃ taken,
        trial.start.cursor.rest =
            taken ++ trial.stop.cursor.rest ∧
          Token.Balanced taken

/- What is still to be closed has been opened before. -/
theorem Trial.Sound.keepsLevel
    {trial : Trial}
    {cursor : Cursor}
    {earlier : List Token}
    (hSound : trial.Sound)
    (hCounts : trial.stop.counts = trial.start.counts)
    (hLevels : Token.climb 0 cursor.rest = some 0)
    (hEarlier : cursor.Takes earlier trial.start.cursor) :
    trial.KeepsLevel cursor.rest where
  counts := hCounts
  level := by
    rw [hEarlier.1, Token.climb_append hEarlier.2,
      Option.bind_eq_some_iff] at hLevels
    rcases hLevels with ⟨reached, hReached, hRest⟩
    obtain rfl := Token.climb_injective hRest hSound.level
    have hCount :=
      Token.add_indents_of_climb hEarlier.2 hReached
    exact ⟨earlier, hEarlier.1, by omega⟩
  balanced := by
    refine hSound.balanced.imp id ?_
    rintro ⟨taken, hTakes, hClimb⟩
    exact ⟨taken, hTakes.1,
      Token.balanced_of_climb hTakes.2 hClimb⟩

namespace Source

/-
  In a script in which no character is at fault, whatever is
  read as a statement or skipped in place of one keeps its
  level, and no region ends outside of all regions.
-/
theorem statements_keep_their_level
    (source : Source)
    (fuel : Nat)
    (hClean : source.lex.log.isEmpty = true)
    (hFuel : source.lex.tokens.length ≤ fuel) :
    ∃ program tally,
      Counting.parse fuel source.lex.tokens =
          some (program, tally) ∧
        tally.parsed program = source.parse ∧
          tally.strays = 0 ∧
            ∀ trial ∈ tally.trials,
              trial.KeepsLevel source.lex.tokens := by
  rcases Counting.parse_agrees source.closed_lex hFuel with
    ⟨program, tally, hParse, hParsed, hStays, _⟩
  have hLevels := source.climb_lex hClean
  have hSettled :
      Tally.Settled
        { cursor := { rest := source.lex.tokens } } 0 :=
    Or.inr hLevels
  refine
    ⟨program, tally, hParse, ?_, hStays.strays hSettled, ?_⟩
  · rw [hParsed, Source.parse, if_pos hClean]
  · rcases hStays.trials with ⟨noted, hNoted, hFair⟩
    rw [hNoted]
    intro trial hTrial
    rcases hFair trial hTrial with
      ⟨hCounts, ⟨earlier, hEarlier⟩, hSound⟩
    exact (hSound hSettled).keepsLevel hCounts hLevels
      hEarlier

/-
  The head of a loop is broken, and its body is skipped with
  it. The statement behind the loop is in the function, and
  the last one is not.
-/
theorem statements_keep_their_level_broken :
    let source :=
      Source.ofText "broken"
        "def f():\n    while x\n        y\n    return 2\nz\n"
    source.lex.log.isEmpty = true ∧
      source.parse.log.total = 1 ∧
        ∃ program tally,
          Counting.parse 30 source.lex.tokens =
              some (program, tally) ∧
            tally.trials.map (·.start.level) = [1, 1, 0, 0] ∧
              tally.strays = 0 ∧
                ∀ trial ∈ tally.trials,
                  trial.KeepsLevel source.lex.tokens := by
  intro source
  have hClean : source.lex.log.isEmpty = true := by
    decide +kernel
  have hTotal : source.parse.log.total = 1 := by
    decide +kernel
  have hFuel : source.lex.tokens.length ≤ 30 := by
    decide +kernel
  have hLevels :
      (Counting.parse 30 source.lex.tokens).map
          (·.2.trials.map (·.start.level)) =
        some [1, 1, 0, 0] := by
    decide +kernel
  rcases statements_keep_their_level source 30 hClean
      hFuel with
    ⟨program, tally, hParse, _, hStrays, hTrials⟩
  rw [hParse] at hLevels
  exact ⟨hClean, hTotal, program, tally, hParse,
    Option.some.inj hLevels, hStrays, hTrials⟩

end Source

end Gantry
