import Gantry.Proofs.Parser.LineByLine
import Gantry.Proofs.Token.Outline

/-
  This file is about scripts of simple lines: none of them
  is indented or opens a block. A fault on one line neither
  hides a fault on another nor makes one up, so that such a
  script has the diagnostics of its lines, and its tree is
  put together from theirs.

  Key definitions include:
    * `Gantry.Source.errors`
    * `Gantry.Source.Simple`
    * `Gantry.TokenRow.Of`

  Main statements:
    * `Gantry.Lexer.scan_down`
    * `Gantry.Source.Simple.exists_row`
    * `Gantry.TokenRow.lex_lines`
    * `Gantry.Source.parse_simple_lines`
-/

------------------------------------------------------------
-- Scanning Further Down
------------------------------------------------------------

namespace Gantry

namespace Lexer

/- The item so many lines further down. -/
def Item.down
    (lines : Nat)
    (item : Item) : Item :=
  { item with span := item.span.down lines }

/- A line is cut up in the same way wherever it stands. -/
theorem scan_down
    (lines line column : Nat)
    (afterOperand : Bool)
    (cs : List Char) :
    scan (line + lines) column afterOperand cs =
      (scan line column afterOperand cs).map
        (Item.down lines) := by
  fun_induction scan line column afterOperand cs with
  | case1 =>
      rw [scan]
      rfl
  | case2 _ _ _ _ hBlank ih =>
      rw [scan, if_pos hBlank, ih]
  | case3 _ _ _ hBlank =>
      rw [scan, if_neg hBlank, if_pos rfl]
      rfl
  | case4 _ _ _ _ hBlank hSign _ _ _ _ ih =>
      rw [scan, if_neg hBlank, if_neg hSign]
      dsimp only
      rw [ih]
      rfl

/- What is found on a line stands on it. -/
theorem on_scan
    (line column : Nat)
    (afterOperand : Bool)
    (cs : List Char) :
    ∀ item ∈ scan line column afterOperand cs,
      item.span.On line := by
  fun_induction scan line column afterOperand cs with
  | case1 => simp
  | case2 _ _ _ _ _ ih => exact ih
  | case3 => simp
  | case4 _ _ _ _ _ _ _ _ _ _ ih =>
      exact List.forall_mem_cons.mpr ⟨⟨rfl, rfl⟩, ih⟩

theorem token?_down
    (lines : Nat)
    (item : Item) :
    (item.down lines).token? =
      item.token?.map (Token.down lines) := by
  rcases item with ⟨lexeme, span⟩
  cases lexeme <;> rfl

theorem issue?_down
    (lines : Nat)
    (item : Item) :
    (item.down lines).issue? =
      item.issue?.map (Issue.down lines) := by
  rcases item with ⟨lexeme, span⟩
  cases lexeme <;> rfl

/- The line so many lines further down. -/
def Line.down
    (lines : Nat)
    (line : Line) : Line :=
  ⟨line.tokens.map (Token.down lines),
    line.issues.map (Issue.down lines), line.levels⟩

theorem relayout_down
    (lines line width : Nat)
    (levels : List Nat) :
    relayout (line + lines) width levels =
      (relayout line width levels).down lines := by
  unfold relayout
  dsimp only
  split
  · rfl
  · split
    · simp [Line.down, Token.down, Span.down, Span.point,
        Position.down]
    · simp [Line.down, Token.down, Issue.down, Span.down,
        Span.point, Span.onLine, Position.down]

/- A line has the same tokens wherever it stands. -/
theorem lexLine_down
    (lines line : Nat)
    (levels : List Nat)
    (cs : List Char) :
    lexLine (line + lines) levels cs =
      (lexLine line levels cs).down lines := by
  unfold lexLine
  split
  · rfl
  · have hToken :
        Item.token? ∘ Item.down lines =
          fun item => item.token?.map (Token.down lines) :=
      funext (token?_down lines)
    have hIssue :
        Item.issue? ∘ Item.down lines =
          fun item => item.issue?.map (Issue.down lines) :=
      funext (issue?_down lines)
    rw [relayout_down, scan_down]
    dsimp only
    rw [List.filterMap_map, List.filterMap_map, hToken,
      hIssue]
    simp [Line.down, Token.down, List.map_filterMap,
      Span.down, Span.point, Position.down]

/- The words of a line stand for characters on it. -/
theorem words_flat
    (line : Nat)
    (cs : List Char) :
    ∀ word ∈ (scan line 1 false cs).filterMap Item.token?,
      word.kind.isLayout = false ∧ word.span.On line := by
  intro word hWord
  rcases List.mem_filterMap.mp hWord with
    ⟨item, hItem, hToken⟩
  have hOn := on_scan line 1 false cs item hItem
  refine ⟨isLayout_scan line 1 false cs item hItem word
    hToken, ?_⟩
  rcases item with ⟨lexeme, span⟩
  cases lexeme with
  | token kind =>
      cases hToken
      exact hOn
  | fault cause => contradiction

/- A line that is not indented, where no level is open. -/
theorem lexLine_unindented
    {cs : List Char}
    (hBusy : isIdle cs = false)
    (hWidth : indentWidth cs = 0)
    (line : Nat) :
    lexLine line [] cs =
      ⟨(scan line 1 false cs).filterMap Item.token? ++
          [⟨.newline, Span.point line (cs.length + 1)⟩],
        (scan line 1 false cs).filterMap Item.issue?,
        []⟩ := by
  unfold lexLine
  rw [if_neg (ne_true_of_eq_false hBusy), hWidth]
  rfl

end Lexer

end Gantry

------------------------------------------------------------
-- Simple Lines
------------------------------------------------------------

namespace Gantry

namespace Source

/- What is wrong with a script, as it is shown. -/
def errors
    (source : Source) : List Diagnostic :=
  (source.parse.log.map source.diagnose).kept

/- There is a token before the end, and it opens no block. -/
def startsPlain :
    List Token → Bool
| [] => false
| token :: _ =>
    token.kind != .endOfFile && !token.kind.opensBlock

/-
  A line that is not indented and, as a script of its own,
  is cut without a fault into at least one token, the first
  of which opens no block.
-/
structure Simple
    (name line : String) : Prop where
  oneLine : OnOneLine line.toList
  unindented : Lexer.indentWidth line.toList = 0
  clean : (ofText name line).lex.log.isEmpty = true
  starts : startsPlain (ofText name line).lex.tokens = true

instance
    (cs : List Char) :
    Decidable (OnOneLine cs) :=
  decidable_of_iff
    (cs.all (fun c => c != '\n' && c != '\r') = true)
    (by simp [OnOneLine])

instance
    (name line : String) :
    Decidable (Simple name line) :=
  decidable_of_iff
    (OnOneLine line.toList ∧
      Lexer.indentWidth line.toList = 0 ∧
        (ofText name line).lex.log.isEmpty = true ∧
          startsPlain (ofText name line).lex.tokens = true)
    ⟨fun ⟨hOne, hWidth, hClean, hStarts⟩ =>
        ⟨hOne, hWidth, hClean, hStarts⟩,
      fun ⟨hOne, hWidth, hClean, hStarts⟩ =>
        ⟨hOne, hWidth, hClean, hStarts⟩⟩

/- A script has the lines it was put together from. -/
theorem lines_intercalate
    (name : String)
    {lines : List String}
    (hSome : lines ≠ [])
    (hLines : ∀ line ∈ lines, OnOneLine line.toList) :
    (ofText name ("\n".intercalate lines)).lines = lines := by
  have hChars :
      ∀ chars ∈ lines.map String.toList, OnOneLine chars := by
    intro chars hMem
    rcases List.mem_map.mp hMem with ⟨line, hLine, rfl⟩
    exact hLines line hLine
  have hSplit :=
    splitLines_intercalate (by simpa using hSome) hChars
  unfold ofText
  dsimp only
  rw [String.toList_intercalate]
  change List.map _
    (splitLines (['\n'].intercalate _)) = _
  rw [hSplit, List.map_map]
  simp [Function.comp_def]

theorem lines_single
    (name : String)
    {line : String}
    (hLine : OnOneLine line.toList) :
    (ofText name line).lines = [line] := by
  have hAll : ∀ other ∈ [line], OnOneLine other.toList := by
    simpa using hLine
  have hSplit := lines_intercalate name (by simp) hAll
  rwa [String.intercalate_singleton] at hSplit

/- A line that is the whole script. -/
theorem lex_single
    (name : String)
    {line : String}
    (hLine : OnOneLine line.toList) :
    (ofText name line).lex =
      Lexer.lexLines (Span.point 1 (line.length + 1)) []
        Log.empty [(1, line)] := by
  unfold lex numbered finish
  simp [line?, lines_single name hLine]

end Source

namespace TokenRow

/- The row has the tokens of the line. -/
structure Of
    (row : TokenRow)
    (line : String) : Prop where
  oneLine : Source.OnOneLine line.toList
  lexed :
    Lexer.lexLine 1 [] line.toList = ⟨row.tokens, [], []⟩
  mark_eq : row.mark.span = Span.point 1 (line.length + 1)

theorem Of.lexLine
    {row : TokenRow}
    {line : String}
    (hRow : row.Of line)
    (index : Nat) :
    Lexer.lexLine (index + 1) [] line.toList =
      ⟨row.tokens.map (Token.down index), [], []⟩ := by
  rw [Nat.add_comm, Lexer.lexLine_down, hRow.lexed]
  rfl

theorem lexLines_of
    {rows : List TokenRow}
    {lines : List String}
    (hRows : List.Forall₂ Of rows lines)
    (finish : Span)
    (start : Nat) :
    Lexer.lexLines finish [] Log.empty
        ((lines.zipIdx start).map fun (line, index) =>
          (index + 1, line)) =
      ⟨laid finish start rows, Log.empty⟩ := by
  induction hRows generalizing start with
  | nil => rfl
  | cons hRow _ ih =>
      have hKeep :
          (Log.empty : Log Issue).pushAll [] =
            Log.empty := rfl
      rw [List.zipIdx_cons, List.map_cons, Lexer.lexLines,
        if_neg (by decide), hRow.lexLine]
      dsimp only
      rw [hKeep, ih]
      rfl

theorem onOneLine_of
    {rows : List TokenRow}
    {lines : List String}
    (hRows : List.Forall₂ Of rows lines) :
    ∀ line ∈ lines, Source.OnOneLine line.toList := by
  induction hRows with
  | nil => simp
  | cons hRow _ ih =>
      exact List.forall_mem_cons.mpr ⟨hRow.oneLine, ih⟩

/- The tokens of a script of simple lines. -/
theorem lex_lines
    (name : String)
    {rows : List TokenRow}
    {lines : List String}
    (hRows : List.Forall₂ Of rows lines) :
    let whole := Source.ofText name ("\n".intercalate lines)
    whole.lex = ⟨laid whole.finish 0 rows, Log.empty⟩ := by
  intro whole
  have hLines := onOneLine_of hRows
  cases hRows with
  | nil => rfl
  | cons hRow hRows =>
      unfold Source.lex Source.numbered
      rw [Source.lines_intercalate name (by simp) hLines]
      exact lexLines_of (.cons hRow hRows) whole.finish 0

/- A script of one simple line has the tokens of its row. -/
theorem Of.lex
    {row : TokenRow}
    {line : String}
    (hRow : row.Of line)
    (name : String) :
    (Source.ofText name line).lex =
      ⟨row.script, Log.empty⟩ := by
  rw [Source.lex_single name hRow.oneLine, Lexer.lexLines,
    if_neg (by decide), hRow.lexed, script, hRow.mark_eq]
  rfl

end TokenRow

namespace Source

/- A simple line is a row of words. -/
theorem Simple.exists_row
    {name line : String}
    (hSimple : Simple name line) :
    ∃ row : TokenRow, row.Of line := by
  have hClean := hSimple.clean
  have hStarts := hSimple.starts
  rw [lex_single name hSimple.oneLine, Lexer.lexLines,
    if_neg (by decide)] at hClean hStarts
  have hIssues :=
    Lexer.issues_of_clean (beq_iff_eq.mp hClean)
  dsimp only at hStarts
  cases hIdle : Lexer.isIdle line.toList with
  | true =>
      -- A line without a word has no token but the last one.
      rw [Lexer.lexLine, if_pos hIdle] at hStarts
      contradiction
  | false =>
      have hLine :=
        Lexer.lexLine_unindented hIdle hSimple.unindented 1
      rw [hLine] at hIssues hStarts
      dsimp only at hIssues hStarts
      have hLeads := Lexer.leads_scan hIdle hIssues []
      have hFlat := Lexer.words_flat 1 line.toList
      rw [hIssues] at hLine
      revert hLeads hFlat hStarts hLine
      cases (Lexer.scan 1 1 false line.toList).filterMap
          Lexer.Item.token? with
      | nil =>
          intro _ _ hLeads
          contradiction
      | cons first words =>
          intro hStarts hLine _ hFlat
          have hPlain : first.kind.opensBlock = false := by
            simpa using (Bool.and_eq_true_iff.mp hStarts).2
          let mark : Token :=
            ⟨.newline, Span.point 1 (line.length + 1)⟩
          exact ⟨⟨first, words, mark, hFlat, hPlain, rfl,
              Span.on_point 1 _⟩,
            hSimple.oneLine, hLine, rfl⟩

end Source

end Gantry

------------------------------------------------------------
-- Scripts Of Simple Lines
------------------------------------------------------------

namespace Gantry

/- How a script is read once its tokens are known. -/
theorem Source.parse_of_lex
    {source : Source}
    {tokens : List Token}
    (hLex : source.lex = ⟨tokens, Log.empty⟩) :
    let result :=
      (Parser.topLevel (Parser.boundFor tokens)).run
        { rest := tokens }
    source.parse.log = result.2.log ∧
      (result.2.log.isEmpty = true →
        ∃ program,
          source.parse.program? = some program ∧
            program.body = result.1) := by
  intro result
  have hParse : source.parse = Parser.parse tokens := by
    unfold parse
    rw [hLex]
    rfl
  rw [hParse, Parser.parse_eq]
  refine ⟨rfl, fun hEmpty => ⟨_, if_pos hEmpty, rfl⟩⟩

namespace TokenRow

variable {row : TokenRow}
variable {rows : List TokenRow}
variable {line : String}
variable {lines : List String}

theorem Of.log_parse
    (hRow : row.Of line)
    (name : String) :
    (Source.ofText name line).parse.log = row.alone.2.log :=
  (Source.parse_of_lex (hRow.lex name)).1

theorem Of.program_parse
    (hRow : row.Of line)
    {name : String}
    (hNone :
      (Source.ofText name line).parse.log.isEmpty = true) :
    ∃ program,
      (Source.ofText name line).parse.program? =
          some program ∧
        program.body = row.alone.1 := by
  rw [hRow.log_parse] at hNone
  exact (Source.parse_of_lex (hRow.lex name)).2 hNone

theorem exists_programs
    (hRows : List.Forall₂ Of rows lines)
    {name : String}
    (hNone :
      ∀ line ∈ lines,
        (Source.ofText name line).parse.log.isEmpty = true) :
    ∃ programs : List Program,
      lines.map (fun line =>
          (Source.ofText name line).parse.program?) =
          programs.map some ∧
        programs.map Program.body =
          rows.map (·.alone.1) := by
  induction hRows with
  | nil => exact ⟨[], rfl, rfl⟩
  | cons hRow _ ih =>
      rw [List.forall_mem_cons] at hNone
      rcases hRow.program_parse hNone.1 with
        ⟨program, hProgram, hBody⟩
      rcases ih hNone.2 with ⟨programs, hPrograms, hBodies⟩
      refine ⟨program :: programs, ?_, ?_⟩
      · rw [List.map_cons, List.map_cons, hProgram,
          hPrograms]
      · rw [List.map_cons, List.map_cons, hBody, hBodies]

theorem map_eq_of
    {β : Type}
    {f : TokenRow → β}
    {g : String → β}
    (hEqual : ∀ row line, row.Of line → f row = g line)
    (hRows : List.Forall₂ Of rows lines) :
    rows.map f = lines.map g := by
  induction hRows with
  | nil => rfl
  | cons hRow _ ih =>
      rw [List.map_cons, List.map_cons, ih,
        hEqual _ _ hRow]

/- A script of simple lines is read line by line. -/
theorem parse_lines
    (hRows : List.Forall₂ Of rows lines)
    (hFew :
      (rows.map fun row => row.alone.2.log.total).sum <
        Log.capacity)
    (name : String) :
    let whole := Source.ofText name ("\n".intercalate lines)
    whole.parse.log =
        Log.empty.pushAll
          (lineByLine (·.alone.2.log.kept) Issue.down 0
            rows) ∧
      (whole.parse.log.isEmpty = true →
        ∃ program,
          whole.parse.program? = some program ∧
            program.body =
              lineByLine (·.alone.1) Stmt.down 0 rows) := by
  intro whole
  let start : Cursor := { rest := laid whole.finish 0 rows }
  have hRest : start.rest = laid whole.finish 0 rows := rfl
  have hRoom :
      start.log.total +
          (rows.map fun row => row.alone.2.log.total).sum <
        Log.capacity := by
    have hNone : start.log.total = 0 := rfl
    omega
  have hBound :
      rows.length < Parser.boundFor start.rest := by
    have hLength := length_laid whole.finish 0 rows
    rw [Parser.boundFor, hRest]
    omega
  have hRun :=
    topLevel_laid whole.finish rows 0 hRest hRoom hBound
  have hParse := Source.parse_of_lex (lex_lines name hRows)
  refine ⟨hParse.1.trans hRun.2, fun hEmpty => ?_⟩
  rw [hParse.1] at hEmpty
  rcases hParse.2 hEmpty with ⟨program, hProgram, hBody⟩
  exact ⟨program, hProgram, hBody.trans hRun.1⟩

end TokenRow

namespace Source

theorem exists_rows
    {name : String}
    {lines : List String}
    (hSimple : ∀ line ∈ lines, Simple name line) :
    ∃ rows, List.Forall₂ TokenRow.Of rows lines := by
  induction lines with
  | nil => exact ⟨[], .nil⟩
  | cons line lines ih =>
      rw [List.forall_mem_cons] at hSimple
      rcases hSimple.1.exists_row with ⟨row, hRow⟩
      rcases ih hSimple.2 with ⟨rows, hRows⟩
      exact ⟨row :: rows, .cons hRow hRows⟩

/- An issue further down is shown next to the same line. -/
theorem diagnose_down
    {whole alone : Source}
    {line : String}
    {index : Nat}
    (hName : whole.name = alone.name)
    (hWhole : whole.lines[index]? = some line)
    (hAlone : alone.lines = [line])
    {issue : Issue}
    (hOn : issue.span.On 1) :
    whole.diagnose (issue.down index) =
      (alone.diagnose issue).down index := by
  have hAbove :
      whole.line? (issue.down index).span.start.line =
        alone.line? issue.span.start.line := by
    change whole.line? (issue.span.start.line + index) = _
    rw [hOn.1, Nat.add_comm]
    simp [line?, hWhole, hAlone]
  unfold diagnose
  rw [hAbove, hName]
  rfl

/- What a simple line has reported about it on its own. -/
theorem Simple.log_parse
    {name line : String}
    (hSimple : Simple name line)
    (hFew :
      (ofText name line).parse.log.total ≤ Log.capacity) :
    (ofText name line).parse.log.kept.length =
        (ofText name line).parse.log.total ∧
      ∀ issue ∈ (ofText name line).parse.log.kept,
        issue.span.On 1 := by
  rcases hSimple.exists_row with ⟨row, hRow⟩
  rw [hRow.log_parse] at hFew ⊢
  exact ⟨row.length_kept_alone hFew, row.on_alone hFew⟩

/- The issues of the lines are shown as they are alone. -/
theorem map_diagnose
    (name : String)
    {lines : List String}
    (hSimple : ∀ line ∈ lines, Simple name line)
    (hFew :
      ∀ line ∈ lines,
        (ofText name line).parse.log.total ≤ Log.capacity) :
    (lineByLine
        (fun line => (ofText name line).parse.log.kept)
        Issue.down 0 lines).map
      (ofText name ("\n".intercalate lines)).diagnose =
      lineByLine (fun line => (ofText name line).errors)
        Diagnostic.down 0 lines := by
  unfold lineByLine
  rw [List.map_flatMap]
  apply List.flatMap_congr
  rintro ⟨line, index⟩ hMem
  have hAt := List.mk_mem_zipIdx_iff_getElem?.mp hMem
  have hLine : line ∈ lines := List.mem_of_getElem? hAt
  have hWhole :
      (ofText name ("\n".intercalate lines)).lines[index]? =
        some line := by
    rw [lines_intercalate name (List.ne_nil_of_mem hLine)
      fun line hLine => (hSimple line hLine).oneLine]
    exact hAt
  have hAlone :=
    lines_single name (hSimple line hLine).oneLine
  have hOn :=
    ((hSimple line hLine).log_parse (hFew line hLine)).2
  dsimp only [errors, Log.map]
  rw [List.map_map, List.map_map]
  apply List.map_congr_left
  intro issue hIssue
  have hName :
      (ofText name ("\n".intercalate lines)).name =
        (ofText name line).name := rfl
  exact diagnose_down hName hWhole hAlone (hOn issue hIssue)

theorem Simple.total_parse
    {name line : String}
    (hSimple : Simple name line)
    (hFew :
      (ofText name line).parse.log.total ≤ Log.capacity)
    (hNone : (ofText name line).errors = []) :
    (ofText name line).parse.log.total = 0 := by
  rw [errors, Log.map, List.map_eq_nil_iff] at hNone
  rw [← (hSimple.log_parse hFew).1, hNone]
  rfl

/- Nothing of what the lines report is lost. -/
theorem length_issues
    {name : String}
    {lines : List String}
    (hSimple : ∀ line ∈ lines, Simple name line)
    (hFew :
      ∀ line ∈ lines,
        (ofText name line).parse.log.total ≤ Log.capacity) :
    (lineByLine
        (fun line => (ofText name line).parse.log.kept)
        Issue.down 0 lines).length =
      (lines.map fun line =>
        (ofText name line).parse.log.total).sum := by
  rw [length_lineByLine]
  apply congrArg List.sum
  apply List.map_congr_left
  intro line hLine
  exact
    ((hSimple line hLine).log_parse (hFew line hLine)).1

/-
  As long as there is room to report them all, the errors of
  a script of simple lines are those of its lines, one after
  the other and each on its line. Without any, so are its
  statements.
-/
theorem parse_simple_lines
    (name : String)
    (lines : List String)
    (hSimple : ∀ line ∈ lines, Simple name line)
    (hFew :
      (lines.map fun line =>
          (ofText name line).parse.log.total).sum <
        Log.capacity) :
    let whole := ofText name ("\n".intercalate lines)
    whole.errors =
        lineByLine (fun line => (ofText name line).errors)
          Diagnostic.down 0 lines ∧
      whole.parse.log.total =
        (lines.map fun line =>
          (ofText name line).parse.log.total).sum ∧
      ((∀ line ∈ lines, (ofText name line).errors = []) →
        ∃ programs program,
          lines.map (fun line =>
              (ofText name line).parse.program?) =
              programs.map some ∧
            whole.parse.program? = some program ∧
              program.body =
                lineByLine Program.body Stmt.down 0
                  programs) := by
  intro whole
  rcases exists_rows hSimple with ⟨rows, hRows⟩
  have hTotals :=
    TokenRow.map_eq_of
      (fun _ _ hRow =>
        congrArg Log.total (hRow.log_parse name).symm)
      hRows
  have hKept :=
    TokenRow.map_eq_of
      (fun _ _ hRow =>
        congrArg Log.kept (hRow.log_parse name).symm)
      hRows
  have hEach :
      ∀ line ∈ lines,
        (ofText name line).parse.log.total ≤
          Log.capacity := by
    intro line hLine
    apply Nat.le_of_lt
    refine Nat.lt_of_le_of_lt ?_ hFew
    exact List.le_sum_of_mem
      (List.mem_map.mpr ⟨line, hLine, rfl⟩)
  rcases TokenRow.parse_lines hRows (hTotals ▸ hFew) name
    with ⟨hLog, hProgram⟩
  rw [lineByLine_eq_map, hKept, ← lineByLine_eq_map] at hLog
  have hTotal :
      whole.parse.log.total =
        (lines.map fun line =>
          (ofText name line).parse.log.total).sum := by
    rw [hLog, Log.total_pushAll,
      length_issues hSimple hEach]
    exact Nat.zero_add _
  refine ⟨?_, hTotal, fun hNone => ?_⟩
  · rw [errors, Log.map, hLog, Log.kept_pushAll_empty,
      map_diagnose name hSimple hEach]
    rw [← hLog, hTotal]
    exact Nat.le_of_lt hFew
  · have hZero :
        ∀ line ∈ lines,
          (ofText name line).parse.log.total = 0 :=
      fun line hLine =>
        (hSimple line hLine).total_parse
          (hEach line hLine) (hNone line hLine)
    have hWhole : whole.parse.log.total = 0 := by
      rw [hTotal, List.sum_eq_zero]
      simpa using hZero
    rcases hProgram (beq_iff_eq.mpr hWhole) with
      ⟨program, hRead, hBody⟩
    rcases TokenRow.exists_programs hRows
        (fun line hLine => beq_iff_eq.mpr
          (hZero line hLine)) with
      ⟨programs, hPrograms, hBodies⟩
    refine ⟨programs, program, hPrograms, hRead,
      hBody.trans ?_⟩
    rw [lineByLine_eq_map, ← hBodies, ← lineByLine_eq_map]

/- Two broken lines, and good ones between and behind them. -/
theorem parse_simple_lines_sample :
    let lines :=
      ["total = (x or y", "x = True", "return pass", "f(x)"]
    let whole :=
      ofText "sample" ("\n".intercalate lines)
    (∀ line ∈ lines, Simple "sample" line) ∧
      (lines.map fun line =>
          (ofText "sample" line).parse.log.total).sum <
        Log.capacity ∧
      whole.errors.map Diagnostic.text =
        ["1:16: E150 [syntax] expected ')', got 'newline'",
          "3:1: E155 [syntax] 'return' outside function",
          "3:8: E150 [syntax] expected an expression, " ++
            "got 'pass'"] := by
  intro lines whole
  have hSimple : ∀ line ∈ lines, Simple "sample" line := by
    decide +kernel
  have hFew :
      (lines.map fun line =>
          (ofText "sample" line).parse.log.total).sum <
        Log.capacity := by
    decide +kernel
  refine ⟨hSimple, hFew, ?_⟩
  rw [(parse_simple_lines "sample" lines hSimple hFew).1]
  decide +kernel

end Source

end Gantry
