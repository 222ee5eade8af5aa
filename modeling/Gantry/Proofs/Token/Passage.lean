import Gantry.Proofs.Parser.SimpleLines

/-
  This file goes through the lines of a script one after the
  other. What the lexer has found up to some line is again
  of the kind of what it finds on one line, so that a fact
  about scripts is a fact that every line keeps.

  Key definitions include:
    * `Gantry.Lexer.Line.append`
    * `Gantry.Lexer.Line.add`
    * `Gantry.Lexer.Line.addAll`
    * `Gantry.Source.passage`

  Main statements:
    * `Gantry.Lexer.Line.addAll_keeps`
    * `Gantry.Lexer.lexLines_addAll`
    * `Gantry.Lexer.spans_lexLine`
    * `Gantry.Source.lex_eq`
    * `Gantry.Source.mem_numbered`
-/

------------------------------------------------------------
-- Lines One After The Other
------------------------------------------------------------

namespace Gantry

namespace Lexer

namespace Line

/- Before the first line there is nothing. -/
def start : Line := ⟨[], [], []⟩

/- What was found so far, and what one more line adds. -/
def append
    (passed next : Line) : Line :=
  ⟨passed.tokens ++ next.tokens,
    passed.issues ++ next.issues, next.levels⟩

/-
  One more line. It is not begun if there are as many issues
  as a log has room for.
-/
def add
    (passed : Line)
    (line : Nat × String) : Line :=
  if Log.capacity ≤ passed.issues.length then
    passed
  else
    passed.append
      (lexLine line.1 passed.levels line.2.toList)

/- Several lines, in order. -/
def addAll
    (passed : Line)
    (lines : List (Nat × String)) : Line :=
  lines.foldl add passed

theorem addAll_cons
    (passed : Line)
    (line : Nat × String)
    (lines : List (Nat × String)) :
    passed.addAll (line :: lines) =
      (passed.add line).addAll lines := rfl

theorem addAll_append
    (passed : Line)
    (lines more : List (Nat × String)) :
    passed.addAll (lines ++ more) =
      (passed.addAll lines).addAll more :=
  List.foldl_append

theorem add_of_full
    {passed : Line}
    (hFull : Log.capacity ≤ passed.issues.length)
    (line : Nat × String) :
    passed.add line = passed :=
  if_pos hFull

theorem add_of_room
    {passed : Line}
    (hRoom : passed.issues.length < Log.capacity)
    (line : Nat × String) :
    passed.add line =
      passed.append
        (lexLine line.1 passed.levels line.2.toList) :=
  if_neg (Nat.not_le_of_lt hRoom)

theorem addAll_of_full
    {passed : Line}
    (hFull : Log.capacity ≤ passed.issues.length)
    (lines : List (Nat × String)) :
    passed.addAll lines = passed := by
  induction lines with
  | nil => rfl
  | cons line lines ih =>
      rw [addAll_cons, add_of_full hFull, ih]

/- What each line that is begun keeps, all lines keep. -/
theorem addAll_keeps
    {P : Line → Prop}
    {lines : List (Nat × String)}
    (hAdd :
      ∀ passed, ∀ line ∈ lines,
        passed.issues.length < Log.capacity → P passed →
          P (passed.append
            (lexLine line.1 passed.levels line.2.toList)))
    {passed : Line}
    (hPassed : P passed) :
    P (passed.addAll lines) := by
  induction lines generalizing passed with
  | nil => exact hPassed
  | cons line lines ih =>
      rw [addAll_cons]
      apply ih fun passed next hNext =>
        hAdd passed next (List.mem_cons_of_mem line hNext)
      rcases Nat.lt_or_ge passed.issues.length Log.capacity
        with hRoom | hFull
      · rw [add_of_room hRoom]
        exact hAdd passed line List.mem_cons_self hRoom
          hPassed
      · rwa [add_of_full hFull]

end Line

end Lexer

end Gantry

------------------------------------------------------------
-- Scripts
------------------------------------------------------------

namespace Gantry

namespace Log

variable {α : Type}

theorem isFull_pushAll
    (issues : List α) :
    (empty.pushAll issues).isFull = true ↔
      capacity ≤ issues.length := by
  have hTotal : (empty : Log α).total = 0 := rfl
  rw [isFull, decide_eq_true_eq, total_pushAll, hTotal,
    Nat.zero_add]

end Log

namespace Lexer

/- The lexer goes through the lines in order. -/
theorem lexLines_addAll
    (finish : Span)
    (passed : Line)
    (lines : List (Nat × String)) :
    let lexed :=
      lexLines finish passed.levels
        (Log.empty.pushAll passed.issues) lines
    let last := passed.addAll lines
    passed.tokens ++ lexed.tokens =
        last.tokens ++ closing finish last.levels ∧
      lexed.log = Log.empty.pushAll last.issues := by
  induction lines generalizing passed with
  | nil => exact ⟨rfl, rfl⟩
  | cons line lines ih =>
      rcases line with ⟨number, text⟩
      dsimp only
      rw [lexLines, Line.addAll_cons]
      rcases Nat.lt_or_ge passed.issues.length Log.capacity
        with hRoom | hFull
      · rw [Line.add_of_room hRoom, if_neg
          (mt (Log.isFull_pushAll _).mp
            (Nat.not_le_of_lt hRoom))]
        have hLater :=
          ih (passed.append
            (lexLine number passed.levels text.toList))
        dsimp only [Line.append] at hLater ⊢
        rw [← Log.pushAll_append, ← List.append_assoc]
        exact hLater
      · rw [Line.add_of_full hFull,
          Line.addAll_of_full hFull,
          if_pos ((Log.isFull_pushAll _).mpr hFull)]
        exact ⟨rfl, rfl⟩

end Lexer

namespace Source

/- What the lexer finds on the lines of a script. -/
def passage
    (source : Source) : Lexer.Line :=
  Lexer.Line.start.addAll source.numbered

/-
  Behind the last line, the levels that are still open are
  closed.
-/
theorem lex_eq
    (source : Source) :
    source.lex =
      ⟨source.passage.tokens ++
          Lexer.closing source.finish source.passage.levels,
        Log.empty.pushAll source.passage.issues⟩ := by
  rcases Lexer.lexLines_addAll source.finish Lexer.Line.start
    source.numbered with ⟨hTokens, hLog⟩
  rw [lex, passage, ← hTokens, ← hLog]
  rfl

/- The issues that the log shows. -/
theorem kept_lex
    (source : Source) :
    source.lex.log.kept =
      source.passage.issues.take Log.capacity := by
  rw [lex_eq]
  exact Log.kept_pushAll Log.empty
    (Nat.zero_le Log.capacity) _

end Source

end Gantry

------------------------------------------------------------
-- Numbers Of Lines
------------------------------------------------------------

namespace Gantry

namespace Source

/- Lines with their numbers, of which one was used up. -/
def numberedFrom
    (used : Nat)
    (lines : List String) : List (Nat × String) :=
  (lines.zipIdx used).map fun (line, index) =>
    (index + 1, line)

theorem numbered_eq
    (source : Source) :
    source.numbered = numberedFrom 0 source.lines := rfl

theorem numberedFrom_cons
    (used : Nat)
    (line : String)
    (lines : List String) :
    numberedFrom used (line :: lines) =
      (used + 1, line) :: numberedFrom (used + 1) lines := rfl

theorem numberedFrom_append
    (used : Nat)
    (lines more : List String) :
    numberedFrom used (lines ++ more) =
      numberedFrom used lines ++
        numberedFrom (used + lines.length) more := by
  rw [numberedFrom, List.zipIdx_append, List.map_append]
  rfl

theorem mem_numberedFrom
    {used number : Nat}
    {text : String}
    {lines : List String} :
    (number, text) ∈ numberedFrom used lines ↔
      ∃ index,
        number = used + index + 1 ∧
          lines[index]? = some text := by
  unfold numberedFrom
  rw [List.mem_map]
  constructor
  · rintro ⟨⟨line, index⟩, hLine, hPair⟩
    rw [List.mk_mem_zipIdx_iff_le_and_getElem?_sub] at hLine
    cases hPair
    exact ⟨index - used, by omega, hLine.2⟩
  · rintro ⟨index, rfl, hLine⟩
    refine ⟨(text, used + index), ?_, rfl⟩
    rw [List.mk_mem_zipIdx_iff_le_and_getElem?_sub,
      Nat.add_sub_cancel_left]
    exact ⟨Nat.le_add_right used index, hLine⟩

/- The numbers go on where they were used up. -/
theorem bounds_numberedFrom
    (used : Nat)
    (lines : List String) :
    ∀ line ∈ numberedFrom used lines,
      used < line.1 ∧ line.1 ≤ used + lines.length := by
  rintro ⟨number, text⟩ hLine
  rcases mem_numberedFrom.mp hLine with ⟨index, rfl, hText⟩
  have hIndex := (List.getElem?_eq_some_iff.mp hText).1
  dsimp only
  omega

/- The lines with a number are the numbered ones. -/
theorem mem_numbered
    {source : Source}
    {number : Nat}
    {text : String} :
    (number, text) ∈ source.numbered ↔
      source.line? number = some text := by
  rw [numbered_eq, mem_numberedFrom]
  cases number with
  | zero => simp [line?]
  | succ index => simp [line?]

/- A text has at least one line. -/
theorem splitLines_ne_nil
    (cs : List Char) :
    splitLines cs ≠ [] := by
  fun_cases splitLines cs with
  | case1 => exact List.cons_ne_nil _ _
  | case2 => exact List.cons_ne_nil _ _
  | case3 => exact List.cons_ne_nil _ _
  | case4 => exact List.cons_ne_nil _ _
  | case5 => exact List.cons_ne_nil _ _

theorem lines_ne_nil
    (name text : String) :
    (ofText name text).lines ≠ [] :=
  mt List.map_eq_nil_iff.mp (splitLines_ne_nil text.toList)

/- The last line has the number of all lines. -/
theorem line?_length
    {source : Source}
    (hLines : source.lines ≠ []) :
    source.line? source.lines.length =
      some (source.lines.getLast hLines) := by
  rw [← List.getLast?_eq_some_getLast hLines,
    List.getLast?_eq_getElem?]
  cases hLength : source.lines.length with
  | zero =>
      exact absurd (List.length_eq_zero_iff.mp hLength)
        hLines
  | succ count => rfl

/- The place behind the last line's last character. -/
theorem finish_eq
    {source : Source}
    (hLines : source.lines ≠ []) :
    source.finish =
      Span.point source.lines.length
        ((source.lines.getLast hLines).length + 1) := by
  rw [finish, line?_length hLines,
    Nat.max_eq_left (List.length_pos_iff.mpr hLines)]
  rfl

/- The lines in front of a line and those behind it. -/
theorem numbered_split
    {source : Source}
    {number : Nat}
    {text : String}
    (hLine : (number, text) ∈ source.numbered) :
    ∃ before after,
      source.numbered = before ++ (number, text) :: after ∧
        (∀ line ∈ before, line.1 < number) ∧
          ∀ line ∈ after, number < line.1 := by
  rcases mem_numberedFrom.mp hLine with ⟨index, rfl, hText⟩
  rcases List.getElem?_eq_some_iff.mp hText with
    ⟨hIndex, hText⟩
  have hLines :
      source.lines =
        source.lines.take index ++
          text :: source.lines.drop (index + 1) := by
    rw [← hText, List.getElem_cons_drop,
      List.take_append_drop]
  have hLength : (source.lines.take index).length = index :=
    List.length_take_of_le (Nat.le_of_lt hIndex)
  refine ⟨numberedFrom 0 (source.lines.take index),
    numberedFrom (index + 1) (source.lines.drop (index + 1)),
    ?_, ?_, ?_⟩
  · calc
      source.numbered =
          numberedFrom 0
            (source.lines.take index ++
              text :: source.lines.drop (index + 1)) :=
        congrArg (numberedFrom 0) hLines
      _ = _ := by
        rw [numberedFrom_append, numberedFrom_cons, hLength,
          Nat.zero_add]
  · intro line hLine
    have hBounds := bounds_numberedFrom _ _ line hLine
    omega
  · intro line hLine
    have hBounds := bounds_numberedFrom _ _ line hLine
    omega

end Source

namespace Lexer

/- Everything that is found on a line stands there. -/
theorem on_relayout
    (number width : Nat)
    (levels : List Nat) :
    (∀ token ∈ (relayout number width levels).tokens,
        token.span.On number) ∧
      ∀ issue ∈ (relayout number width levels).issues,
        issue.span.On number := by
  unfold relayout
  dsimp only
  split
  · simp [Span.on_point]
  · split
    · simp [Span.on_point]
    · simp [Span.On, Span.point, Span.onLine]

/-
  What holds of the spans of the layout, of the items and of
  the end of a line holds of all that is found on it.
-/
theorem spans_lexLine
    {P : Span → Prop}
    {Q : Issue → Prop}
    {number : Nat}
    {levels : List Nat}
    {cs : List Char}
    (hIssue : ∀ issue, P issue.span → Q issue)
    (hLayout :
      let layout := relayout number (indentWidth cs) levels
      (∀ token ∈ layout.tokens, P token.span) ∧
        ∀ issue ∈ layout.issues, Q issue)
    (hItems : ∀ item ∈ scan number 1 false cs, P item.span)
    (hEnd : P (Span.point number (cs.length + 1))) :
    (∀ token ∈ (lexLine number levels cs).tokens,
        P token.span) ∧
      ∀ issue ∈ (lexLine number levels cs).issues,
        Q issue := by
  unfold lexLine
  split
  · simp
  · dsimp only
    constructor
    · intro token hToken
      rw [List.mem_append, List.mem_append] at hToken
      rcases hToken with (hOpened | hWord) | hNewline
      · exact hLayout.1 token hOpened
      · rcases List.mem_filterMap.mp hWord with
          ⟨⟨lexeme, span⟩, hItem, hSome⟩
        cases lexeme with
        | token kind =>
            cases hSome
            exact hItems _ hItem
        | fault cause => contradiction
      · rw [List.mem_singleton.mp hNewline]
        exact hEnd
    · intro issue hFound
      rcases List.mem_append.mp hFound with hUneven | hWord
      · exact hLayout.2 issue hUneven
      · rcases List.mem_filterMap.mp hWord with
          ⟨⟨lexeme, span⟩, hItem, hSome⟩
        cases lexeme with
        | token kind => contradiction
        | fault cause =>
            cases hSome
            exact hIssue _ (hItems _ hItem)

theorem on_lexLine
    (number : Nat)
    (levels : List Nat)
    (cs : List Char) :
    (∀ token ∈ (lexLine number levels cs).tokens,
        token.span.On number) ∧
      ∀ issue ∈ (lexLine number levels cs).issues,
        issue.span.On number :=
  spans_lexLine (fun _ hOn => hOn)
    (on_relayout number (indentWidth cs) levels)
    (on_scan number 1 false cs) (Span.on_point _ _)

/-
  Everything that was found stands on a line with one of the
  given numbers.
-/
structure Line.On
    (numbers : List Nat)
    (passed : Line) : Prop where
  tokens :
    ∀ token ∈ passed.tokens, ∃ number ∈ numbers,
      token.span.On number
  issues :
    ∀ issue ∈ passed.issues, ∃ number ∈ numbers,
      issue.span.On number

theorem Line.On.tokens_ne
    {passed : Line}
    {numbers : List Nat}
    (hOn : passed.On numbers)
    {number : Nat}
    (hOther : ∀ found ∈ numbers, found ≠ number) :
    ∀ token ∈ passed.tokens,
      token.span.start.line ≠ number := by
  intro token hToken
  rcases hOn.tokens token hToken with
    ⟨found, hFound, hLine⟩
  rw [hLine.1]
  exact hOther found hFound

theorem Line.On.issues_ne
    {passed : Line}
    {numbers : List Nat}
    (hOn : passed.On numbers)
    {number : Nat}
    (hOther : ∀ found ∈ numbers, found ≠ number) :
    ∀ issue ∈ passed.issues,
      issue.span.start.line ≠ number := by
  intro issue hIssue
  rcases hOn.issues issue hIssue with
    ⟨found, hFound, hLine⟩
  rw [hLine.1]
  exact hOther found hFound

/- What lines add is found on them. -/
theorem Line.exists_addAll
    (passed : Line)
    (lines : List (Nat × String)) :
    ∃ more : Line,
      more.On (lines.map Prod.fst) ∧
        passed.addAll lines = passed.append more := by
  apply addAll_keeps
    (P := fun later =>
      ∃ more : Line,
        more.On (lines.map Prod.fst) ∧
          later = passed.append more)
  · rintro later line hLine _ ⟨more, hMore, rfl⟩
    rcases on_lexLine line.1 (passed.append more).levels
      line.2.toList with ⟨hTokens, hIssues⟩
    have hNumber : line.1 ∈ lines.map Prod.fst :=
      List.mem_map_of_mem hLine
    refine ⟨more.append
      (lexLine line.1 (passed.append more).levels
        line.2.toList), ⟨?_, ?_⟩, ?_⟩
    · intro token hToken
      rcases List.mem_append.mp hToken with hOld | hNew
      · exact hMore.tokens token hOld
      · exact ⟨line.1, hNumber, hTokens token hNew⟩
    · intro issue hIssue
      rcases List.mem_append.mp hIssue with hOld | hNew
      · exact hMore.issues issue hOld
      · exact ⟨line.1, hNumber, hIssues issue hNew⟩
    · simp [append]
  · exact ⟨⟨[], [], passed.levels⟩, ⟨by simp, by simp⟩,
      by simp [append]⟩

end Lexer

end Gantry
