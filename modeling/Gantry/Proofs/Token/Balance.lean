import Gantry.Proofs.Token.Levels
import Gantry.Proofs.Token.Partition

/-
  This file follows the levels of indentation through a
  script in which anything may be wrong. The widths of the
  open levels always grow, and each level that is closed was
  opened by a token or by a line that was reported for its
  indentation.

  Key definitions include:
    * `Gantry.Lexer.Rising`
    * `Gantry.Lexer.uneven`
    * `Gantry.Lexer.Line.Layered`

  Main statements:
    * `Gantry.Lexer.rising_relayout`
    * `Gantry.Lexer.counted_relayout`
    * `Gantry.Lexer.Line.Layered.append`
    * `Gantry.Source.layout_balances`
-/

------------------------------------------------------------
-- Widths Of Levels
------------------------------------------------------------

namespace Gantry

namespace Lexer

/-
  The widths of the open levels grow from the outermost one,
  which has width zero, to the innermost one.
-/
def Rising
    (levels : List Nat) : Prop :=
  (0 :: levels.reverse).Pairwise (· < ·)

theorem rising_nil : Rising [] :=
  List.pairwise_singleton _ _

theorem rising_iff_isChain
    {levels : List Nat} :
    Rising levels ↔ (levels ++ [0]).IsChain (· > ·) := by
  have hReverse :
      0 :: levels.reverse = (levels ++ [0]).reverse := by
    simp
  rw [Rising, hReverse, List.pairwise_reverse,
    List.isChain_iff_pairwise]

/- A level may be opened inside the innermost one. -/
theorem rising_cons
    {width : Nat}
    {levels : List Nat} :
    Rising (width :: levels) ↔
      currentWidth levels < width ∧ Rising levels := by
  rw [rising_iff_isChain, rising_iff_isChain]
  cases levels with
  | nil => simp [currentWidth]
  | cons inner levels => simp [currentWidth]

/- Inner levels may be closed. -/
theorem Rising.of_suffix
    {levels kept : List Nat}
    (hRising : Rising levels)
    (hKept : kept <:+ levels) :
    Rising kept := by
  rcases hKept with ⟨closed, rfl⟩
  induction closed with
  | nil => exact hRising
  | cons width closed ih =>
      exact ih (rising_cons.mp hRising).2

/- No level that stays open is wider than the line. -/
theorem currentWidth_openLevels
    (width : Nat)
    (levels : List Nat) :
    currentWidth (openLevels width levels) ≤ width := by
  unfold currentWidth openLevels
  cases hKept : levels.dropWhile (width < ·) with
  | nil => exact Nat.zero_le width
  | cons kept rest =>
      have hStays :=
        List.head?_dropWhile_not (width < ·) levels
      rw [hKept] at hStays
      simpa using hStays

theorem rising_relayout
    (line width : Nat)
    {levels : List Nat}
    (hRising : Rising levels) :
    Rising (relayout line width levels).levels := by
  have hKept : Rising (openLevels width levels) :=
    hRising.of_suffix (List.dropWhile_suffix _)
  unfold relayout
  dsimp only
  split
  · rename_i hWide
    exact rising_cons.mpr ⟨hWide, hRising⟩
  · split
    · exact hKept
    · rename_i hUneven
      have hNarrow := currentWidth_openLevels width levels
      exact rising_cons.mpr
        ⟨Nat.lt_of_le_of_ne hNarrow hUneven, hKept⟩

theorem rising_lexLine
    (number : Nat)
    {levels : List Nat}
    (hRising : Rising levels)
    (cs : List Char) :
    Rising (lexLine number levels cs).levels := by
  unfold lexLine
  split
  · exact hRising
  · exact rising_relayout number (indentWidth cs) hRising

end Lexer

end Gantry

------------------------------------------------------------
-- Counting On A Line
------------------------------------------------------------

namespace Gantry

namespace Token

theorem indents_append
    (tokens more : List Token) :
    indents (tokens ++ more) =
      indents tokens + indents more :=
  List.countP_append

theorem dedents_append
    (tokens more : List Token) :
    dedents (tokens ++ more) =
      dedents tokens + dedents more :=
  List.countP_append

/- Words open and close nothing. -/
theorem indents_flat
    {tokens : List Token}
    (hTokens : ∀ token ∈ tokens, token.kind ≠ .indent) :
    indents tokens = 0 := by
  simpa [indents, List.countP_eq_zero] using hTokens

theorem dedents_flat
    {tokens : List Token}
    (hTokens : ∀ token ∈ tokens, token.kind ≠ .dedent) :
    dedents tokens = 0 := by
  simpa [dedents, List.countP_eq_zero] using hTokens

theorem indents_closed
    {α : Type}
    (place : Span)
    (closed : List α) :
    indents
      (closed.map fun _ => (⟨.dedent, place⟩ : Token)) =
      0 :=
  indents_flat (by simp)

theorem dedents_closed
    {α : Type}
    (place : Span)
    (closed : List α) :
    dedents
      (closed.map fun _ => (⟨.dedent, place⟩ : Token)) =
      closed.length := by
  rw [dedents, List.countP_map, ← List.countP_true]
  rfl

/- One more token that opens and closes nothing. -/
theorem Balanced.concat
    {tokens : List Token}
    (hBalanced : Balanced tokens)
    {last : Token}
    (hIndent : last.kind ≠ .indent)
    (hDedent : last.kind ≠ .dedent) :
    Balanced (tokens ++ [last]) := by
  have hOpened : indents [last] = 0 :=
    indents_flat (by simpa using hIndent)
  have hClosed : dedents [last] = 0 :=
    dedents_flat (by simpa using hDedent)
  have hEqual :
      indents (tokens ++ [last]) =
        dedents (tokens ++ [last]) := by
    rw [indents_append, dedents_append, hOpened, hClosed]
    exact hBalanced.1
  refine ⟨hEqual, ?_⟩
  intro front hFront
  rcases List.prefix_concat_iff.mp hFront with rfl | hBefore
  · exact Nat.le_of_eq hEqual.symm
  · exact hBalanced.2 front hBefore

end Token

namespace Lexer

/- How many lines matched none of the open levels. -/
def uneven
    (issues : List Issue) : Nat :=
  issues.countP (·.fault == .inconsistentDedent)

theorem uneven_append
    (issues more : List Issue) :
    uneven (issues ++ more) = uneven issues + uneven more :=
  List.countP_append

theorem uneven_eq_zero_iff
    {issues : List Issue} :
    uneven issues = 0 ↔
      ∀ issue ∈ issues,
        issue.fault ≠ .inconsistentDedent := by
  simp [uneven, List.countP_eq_zero]

/- Nothing among the words is uneven. -/
theorem uneven_words
    (number : Nat)
    (cs : List Char) :
    ∀ issue ∈
        (scan number 1 false cs).filterMap Item.issue?,
      issue.fault ≠ .inconsistentDedent := by
  intro issue hIssue
  rw [← faults_scan] at hIssue
  simpa using (List.mem_filter.mp hIssue).2

/-
  Each level that a line closes was open, or the line opens
  it itself because it is uneven.
-/
theorem counted_relayout
    (line width : Nat)
    (levels : List Nat) :
    let layout := relayout line width levels
    Token.dedents layout.tokens + layout.levels.length =
      Token.indents layout.tokens + levels.length +
        uneven layout.issues := by
  have hLength := length_levels width levels
  unfold relayout
  dsimp only
  split
  · change 0 + (levels.length + 1) = 1 + levels.length + 0
    omega
  · split
    · dsimp only
      rw [Token.dedents_closed, Token.indents_closed,
        hLength]
      change _ = _ + _ + 0
      omega
    · dsimp only
      rw [Token.dedents_closed, Token.indents_closed,
        hLength, List.length_cons]
      change _ = _ + _ + 1
      omega

/- The words of a line do not count. -/
theorem counted_lexLine
    (number : Nat)
    (levels : List Nat)
    (cs : List Char) :
    let line := lexLine number levels cs
    Token.dedents line.tokens + line.levels.length =
      Token.indents line.tokens + levels.length +
        uneven line.issues := by
  unfold lexLine
  split
  · rfl
  · have hLayout :=
      counted_relayout number (indentWidth cs) levels
    have hWords := plain_words number cs
    have hIndents :=
      Token.indents_flat fun token hToken =>
        (hWords token hToken).2.1
    have hDedents :=
      Token.dedents_flat fun token hToken =>
        (hWords token hToken).2.2
    have hFaults :=
      uneven_eq_zero_iff.mpr (uneven_words number cs)
    dsimp only at hLayout ⊢
    rw [List.append_assoc, Token.indents_append,
      Token.dedents_append, uneven_append, hIndents,
      hDedents, hFaults]
    exact hLayout

end Lexer

end Gantry

------------------------------------------------------------
-- Layout Of A Script
------------------------------------------------------------

namespace Gantry

namespace Lexer

namespace Line

/-
  What the lines so far have opened and closed. Whatever is
  not shown any more is not about their indentation.
-/
structure Layered
    (passed : Line) : Prop where
  ongoing :
    ∀ token ∈ passed.tokens, token.kind ≠ .endOfFile
  rising : Rising passed.levels
  counted :
    Token.dedents passed.tokens + passed.levels.length =
      Token.indents passed.tokens + uneven passed.issues
  shown : uneven (passed.issues.drop Log.capacity) = 0
  nested :
    uneven passed.issues = 0 →
      Token.climb 0 passed.tokens = some passed.levels.length

theorem layered_start : start.Layered where
  ongoing := by simp [start]
  rising := rising_nil
  counted := rfl
  shown := rfl
  nested _ := rfl

end Line

/- No token of a line ends the file. -/
theorem ongoing_lexLine
    (number : Nat)
    (levels : List Nat)
    (cs : List Char) :
    ∀ token ∈ (lexLine number levels cs).tokens,
      token.kind ≠ .endOfFile := by
  unfold lexLine
  split
  · simp
  · dsimp only
    rw [List.append_assoc, List.forall_mem_append]
    refine ⟨?_, fun token hToken =>
      (plain_words number cs token hToken).1⟩
    unfold relayout
    dsimp only
    split
    · simp
    · split <;> simp

/- Only the first issue of a line is about its indentation. -/
theorem shown_lexLine
    (number : Nat)
    (levels : List Nat)
    (cs : List Char)
    {shown : Nat}
    (hShown : 0 < shown) :
    uneven ((lexLine number levels cs).issues.drop shown) =
      0 := by
  have hWords := uneven_words number cs
  rw [uneven_eq_zero_iff]
  unfold lexLine
  split
  · simp
  · intro issue hIssue
    dsimp only at hIssue
    rw [List.drop_append] at hIssue
    rcases List.mem_append.mp hIssue with hLayout | hWord
    · have hNone :
          (relayout number (indentWidth cs)
            levels).issues.drop shown = [] := by
        apply List.drop_eq_nil_of_le
        unfold relayout
        dsimp only
        split
        · exact Nat.zero_le shown
        · split
          · exact Nat.zero_le shown
          · exact hShown
      rw [hNone] at hLayout
      contradiction
    · exact hWords issue (List.mem_of_mem_drop hWord)

/- One more line that is begun. -/
theorem Line.Layered.append
    {passed : Line}
    (hLayered : passed.Layered)
    (hRoom : passed.issues.length < Log.capacity)
    (number : Nat)
    (cs : List Char) :
    (passed.append
      (lexLine number passed.levels cs)).Layered where
  ongoing :=
    List.forall_mem_append.mpr
      ⟨hLayered.ongoing,
        ongoing_lexLine number passed.levels cs⟩
  rising := rising_lexLine number hLayered.rising cs
  counted := by
    have hLine := counted_lexLine number passed.levels cs
    have hPassed := hLayered.counted
    dsimp only [Line.append] at hLine ⊢
    rw [Token.dedents_append, Token.indents_append,
      uneven_append]
    omega
  shown := by
    have hLeft : 0 < Log.capacity - passed.issues.length :=
      Nat.sub_pos_of_lt hRoom
    dsimp only [Line.append]
    rw [List.drop_append, uneven_append, hLayered.shown,
      shown_lexLine number passed.levels cs hLeft]
  nested hEven := by
    dsimp only [Line.append] at hEven ⊢
    rw [uneven_append, Nat.add_eq_zero_iff] at hEven
    rcases hEven with ⟨hBefore, hLine⟩
    have hClimb :=
      climb_lexLine (uneven_eq_zero_iff.mp hLine) []
    rw [List.append_nil] at hClimb
    rw [Token.climb_append hLayered.ongoing,
      hLayered.nested hBefore]
    exact hClimb

/- Any number of lines. -/
theorem Line.layered_addAll
    (lines : List (Nat × String)) :
    (start.addAll lines).Layered := by
  apply addAll_keeps
  · intro passed line _ hRoom hLayered
    exact hLayered.append hRoom line.1 line.2.toList
  · exact layered_start

end Lexer

namespace Source

open Lexer

/-
  The layout of a script balances, whatever is wrong with
  the script. The tokens end with the end of the file. The
  widths of the open levels grow after any number of lines,
  and while some of the levels are being closed. Each level
  that is closed was opened by a token or by an uneven line,
  all of which are reported; and without uneven lines no
  level is closed that is not open.
-/
theorem layout_balances
    (source : Source) :
    (∃ front last,
        source.lex.tokens = front ++ [last] ∧
          last.kind = .endOfFile ∧
            ∀ token ∈ front, token.kind ≠ .endOfFile) ∧
      (∀ lines, lines <+: source.numbered →
        ∀ levels,
          levels <:+ (Line.start.addAll lines).levels →
            (0 :: levels.reverse).Pairwise (· < ·)) ∧
        source.lex.tokens =
            source.passage.tokens ++
              closing source.finish source.passage.levels ∧
          Token.dedents source.lex.tokens =
              Token.indents source.lex.tokens +
                source.lex.log.kept.countP
                  (·.fault == .inconsistentDedent) ∧
            ((∀ issue ∈ source.lex.log.kept,
                issue.fault ≠ .inconsistentDedent) →
              Token.Balanced source.lex.tokens) := by
  have hLayered : source.passage.Layered :=
    Line.layered_addAll source.numbered
  let closed :=
    source.passage.levels.map fun _ =>
      (⟨.dedent, source.finish⟩ : Token)
  have hTokens :
      source.lex.tokens =
        source.passage.tokens ++ closed ++
          [⟨.endOfFile, source.finish⟩] := by
    rw [lex_eq, List.append_assoc]
    rfl
  have hOngoing :
      ∀ token ∈ source.passage.tokens ++ closed,
        token.kind ≠ .endOfFile :=
    List.forall_mem_append.mpr
      ⟨hLayered.ongoing, by simp [closed]⟩
  have hShown :
      uneven source.lex.log.kept =
        uneven source.passage.issues := by
    have hAll := uneven_append
      (source.passage.issues.take Log.capacity)
      (source.passage.issues.drop Log.capacity)
    rw [List.take_append_drop, hLayered.shown] at hAll
    rw [kept_lex]
    exact hAll.symm
  refine ⟨⟨_, _, hTokens, rfl, hOngoing⟩, ?_,
    congrArg Lexed.tokens source.lex_eq, ?_, ?_⟩
  · intro lines _ levels hLevels
    exact (Line.layered_addAll lines).rising.of_suffix hLevels
  · have hCounted := hLayered.counted
    change _ = _ + uneven source.lex.log.kept
    rw [hShown, hTokens, Token.dedents_append,
      Token.dedents_append, Token.dedents_closed,
      Token.indents_append, Token.indents_append,
      Token.indents_closed, hCounted]
    rfl
  · intro hEven
    have hClimb :=
      hLayered.nested
        (hShown ▸ uneven_eq_zero_iff.mpr hEven)
    have hClosed :
        Token.climb 0 (source.passage.tokens ++ closed) =
          some 0 := by
      have hDown :=
        climb_dedents source.finish source.passage.levels 0 []
      rw [List.append_nil] at hDown
      rw [Token.climb_append hLayered.ongoing, hClimb]
      exact hDown
    rw [hTokens]
    exact (Token.balanced_of_climb hOngoing hClosed).concat
      (by simp) (by simp)

end Source

end Gantry
