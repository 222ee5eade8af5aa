import Gantry.Proofs.Token.Spelling

/-
  This file shows that indentation denotes a tree of lines:
  however a tree is laid out in spaces and tabs, the lexer
  reads it as the words of its lines, with a token where the
  lines below a line begin and one where they end.

  The levels that are open behind some lines are closed only
  by the next line that needs it, or by the end of the
  script. So what lines amount to is said together with the
  tokens that close the levels they leave open.

  Key definitions include:
    * `Gantry.Lexer.Lays`
    * `Gantry.Lexer.Closes`
    * `Gantry.Lexer.Amounts`
    * `Gantry.Outline`
    * `Gantry.Outline.kinds`
    * `Gantry.Outline.Laid`

  Main statements:
    * `Gantry.Source.splitLines_intercalate`
    * `Gantry.Outline.Laid.fills`
    * `Gantry.Outline.lex_laid`
-/

------------------------------------------------------------
-- Lines Of A Text
------------------------------------------------------------

namespace Gantry

namespace Source

/- Characters that stand on one line. -/
def OnOneLine
    (cs : List Char) : Prop :=
  ∀ c ∈ cs, c ≠ '\n' ∧ c ≠ '\r'

theorem splitLines_of_ne
    {c : Char}
    (hLine : c ≠ '\n')
    (hReturn : c ≠ '\r')
    (cs : List Char) :
    splitLines (c :: cs) =
      match splitLines cs with
      | [] => [[c]]
      | line :: lines => (c :: line) :: lines := by
  rw [splitLines]
  · exact if_neg (by simp [hLine, hReturn])
  · intro rest hChar
    exact absurd hChar hReturn

/- A line is split off as it stands. -/
theorem splitLines_append
    {line cs : List Char}
    (hLine : OnOneLine line)
    {next : List Char}
    {others : List (List Char)}
    (hRest : splitLines cs = next :: others) :
    splitLines (line ++ cs) = (line ++ next) :: others := by
  induction line with
  | nil => exact hRest
  | cons c line ih =>
      rcases List.forall_mem_cons.mp hLine with
        ⟨⟨hFeed, hReturn⟩, hLine⟩
      rw [List.cons_append,
        splitLines_of_ne hFeed hReturn, ih hLine]
      rfl

/- The lines of a text are those it was put together from. -/
theorem splitLines_intercalate
    {lines : List (List Char)}
    (hSome : lines ≠ [])
    (hLines : ∀ line ∈ lines, OnOneLine line) :
    splitLines (['\n'].intercalate lines) = lines := by
  induction lines with
  | nil => contradiction
  | cons line lines ih =>
      rw [List.forall_mem_cons] at hLines
      cases lines with
      | nil =>
          have hEnd : splitLines [] = [[]] := by
            rw [splitLines]
          simpa using splitLines_append hLines.1 hEnd
      | cons next lines =>
          have hRest := ih (by simp) hLines.2
          have hBreak :
              splitLines
                  ('\n' ::
                    ['\n'].intercalate (next :: lines)) =
                [] :: next :: lines := by
            rw [splitLines, if_pos (.inl rfl), hRest]
            simp
          rw [List.intercalate_cons_cons, List.append_assoc,
            List.singleton_append,
            splitLines_append hLines.1 hBreak,
            List.append_nil]

end Source

end Gantry

------------------------------------------------------------
-- Lines And Levels
------------------------------------------------------------

namespace Gantry

namespace Lexer

/-
  Whatever its number, the line has no issue, the given
  tokens, and leaves the given levels open.
-/
def LineLays
    (before : List Nat)
    (cs : List Char)
    (kinds : List TokenKind)
    (after : List Nat) : Prop :=
  ∀ number,
    (lexLine number before cs).tokens.map (·.kind) = kinds ∧
      (lexLine number before cs).issues = [] ∧
        (lexLine number before cs).levels = after

/- The same for several lines. -/
inductive Lays :
    List Nat → List (List Char) → List TokenKind →
      List Nat → Prop where
  | nil
      (levels : List Nat) :
      Lays levels [] [] levels
  | cons
      {before between after : List Nat}
      {cs : List Char}
      {lines : List (List Char)}
      {kinds others : List TokenKind}
      (hLine : LineLays before cs kinds between)
      (hLines : Lays between lines others after) :
      Lays before (cs :: lines) (kinds ++ others) after

theorem Lays.append
    {before between after : List Nat}
    {lines more : List (List Char)}
    {kinds others : List TokenKind}
    (hLines : Lays before lines kinds between)
    (hMore : Lays between more others after) :
    Lays before (lines ++ more) (kinds ++ others) after := by
  induction hLines with
  | nil => exact hMore
  | cons hLine _ ih =>
      rw [List.append_assoc]
      exact .cons hLine (ih hMore)

/- A script of such lines has no issue. -/
theorem Lays.lexLines
    {levels after : List Nat}
    {lines : List (List Char)}
    {kinds : List TokenKind}
    (hLays : Lays levels lines kinds after)
    (finish : Span)
    {numbered : List (Nat × String)}
    (hLines :
      numbered.map (fun line => line.2.toList) = lines) :
    (lexLines finish levels Log.empty numbered).log =
        Log.empty ∧
      (lexLines finish levels Log.empty
          numbered).tokens.map (·.kind) =
        kinds ++ List.replicate after.length .dedent ++
          [.endOfFile] := by
  induction hLays generalizing numbered with
  | nil levels =>
      rw [List.map_eq_nil_iff] at hLines
      subst hLines
      simp [Lexer.lexLines, closing, List.map_const']
  | cons hLine _ ih =>
      cases numbered with
      | nil => contradiction
      | cons line numbered =>
          rcases line with ⟨number, text⟩
          simp only [List.map_cons, List.cons.injEq]
            at hLines
          rcases hLines with ⟨rfl, hLines⟩
          rcases hLine number with ⟨hKinds, hIssues, hLevels⟩
          rcases ih hLines with ⟨hLog, hTokens⟩
          have hRoom :
              ¬(Log.empty : Log Issue).isFull = true := by
            decide
          rw [Lexer.lexLines, if_neg hRoom]
          dsimp only
          rw [hIssues, hLevels, List.map_append, hKinds]
          constructor
          · exact hLog
          · rw [show Log.pushAll Log.empty [] =
              (Log.empty : Log Issue) from rfl, hTokens]
            simp

end Lexer

/- The lines of a source are numbered in order. -/
theorem Source.map_numbered
    (source : Source) :
    source.numbered.map (fun line => line.2.toList) =
      source.lines.map (·.toList) := by
  calc
    source.numbered.map (fun line => line.2.toList) =
        (source.lines.zipIdx.map Prod.fst).map
          (·.toList) := by
      rw [numbered, List.map_map, List.map_map]
      rfl
    _ = source.lines.map (·.toList) := by
      rw [List.zipIdx_map_fst]

/- The tokens of a text from what its lines lay out. -/
theorem Lexer.Lays.lex
    {lines : List (List Char)}
    {kinds : List TokenKind}
    {after : List Nat}
    (hLays : Lays [] lines kinds after)
    (hSome : lines ≠ [])
    (hLines : ∀ line ∈ lines, Source.OnOneLine line)
    (name : String) :
    (Source.ofText name
        (String.ofList (['\n'].intercalate lines))).lex.log =
        Log.empty ∧
      (Source.ofText name
          (String.ofList
            (['\n'].intercalate lines))).lex.tokens.map
          (·.kind) =
        kinds ++ List.replicate after.length .dedent ++
          [.endOfFile] := by
  apply hLays.lexLines
  rw [Source.map_numbered, Source.ofText,
    String.toList_ofList,
    Source.splitLines_intercalate hSome hLines]
  simp [Function.comp_def]

end Gantry

------------------------------------------------------------
-- Opening And Closing Levels
------------------------------------------------------------

namespace Gantry

namespace Lexer

/-
  A line of the given width turns the levels into others and
  has the given tokens in front of it.
-/
def Turns
    (levels : List Nat)
    (width : Nat)
    (kinds : List TokenKind)
    (kept : List Nat) : Prop :=
  ∀ number,
    (relayout number width levels).tokens.map (·.kind) =
        kinds ∧
      (relayout number width levels).issues = [] ∧
        (relayout number width levels).levels = kept

/-
  A line of the given width closes levels, each with its own
  token, until its own level is the innermost one.
-/
def Closes
    (levels : List Nat)
    (width : Nat)
    (kinds : List TokenKind)
    (kept : List Nat) : Prop :=
  ∃ wider,
    levels = wider ++ kept ∧
      (∀ level ∈ wider, width < level) ∧
        currentWidth kept = width ∧
          kinds = List.replicate wider.length .dedent

theorem closes_refl
    (levels : List Nat) :
    Closes levels (currentWidth levels) [] levels :=
  ⟨[], rfl, by simp, rfl, rfl⟩

theorem Closes.width_kept
    {levels kept : List Nat}
    {width : Nat}
    {kinds : List TokenKind}
    (hCloses : Closes levels width kinds kept) :
    currentWidth kept = width := by
  rcases hCloses with ⟨_, _, _, hKept, _⟩
  exact hKept

theorem turns_wider
    {levels : List Nat}
    {width : Nat}
    (hWider : currentWidth levels < width) :
    Turns levels width [.indent] (width :: levels) := by
  intro number
  simp [relayout, hWider]

theorem Closes.turns
    {levels kept : List Nat}
    {width : Nat}
    {kinds : List TokenKind}
    (hCloses : Closes levels width kinds kept) :
    Turns levels width kinds kept := by
  intro number
  rcases hCloses with ⟨wider, rfl, hWider, hKept, rfl⟩
  have hStop :
      ∀ level, kept.head? = some level →
        ¬width < level := by
    intro level hHead
    have hLevel : level = width := by
      simpa [currentWidth, hHead,
        List.headD_eq_head?_getD] using hKept
    omega
  have hClosed : closedLevels width (wider ++ kept) = wider := by
    unfold closedLevels
    rw [List.takeWhile_append_of_pos (by simpa using hWider)]
    cases kept with
    | nil => simp
    | cons level kept => simp [hStop level rfl]
  have hOpen : openLevels width (wider ++ kept) = kept := by
    unfold openLevels
    rw [List.dropWhile_append_of_pos (by simpa using hWider)]
    cases kept with
    | nil => simp
    | cons level kept => simp [hStop level rfl]
  have hWide : ¬currentWidth (wider ++ kept) < width := by
    cases wider with
    | nil => simp [hKept]
    | cons level wider =>
        have hLevel := hWider level (by simp)
        simpa [currentWidth] using Nat.le_of_lt hLevel
  rw [relayout, if_neg hWide]
  simp [hClosed, hOpen, hKept, List.map_const']

/- Closing one level more leaves the one outside of it. -/
theorem Closes.outward
    {levels kept : List Nat}
    {width : Nat}
    {kinds : List TokenKind}
    (hWidth : currentWidth kept < width)
    (hCloses : Closes levels width kinds (width :: kept)) :
    Closes levels (currentWidth kept) (kinds ++ [.dedent])
      kept := by
  rcases hCloses with ⟨wider, rfl, hWider, _, rfl⟩
  refine ⟨wider ++ [width], by simp, ?_, rfl, ?_⟩
  · intro level hLevel
    rcases List.mem_append.mp hLevel with hLevel | hLevel
    · exact Nat.lt_trans hWidth (hWider level hLevel)
    · rw [List.mem_singleton.mp hLevel]
      exact hWidth
  · rw [List.length_append, List.length_singleton,
      List.replicate_succ']

/-
  What lines amount to in front of a line of the given
  width: their own tokens and those that close what they
  leave open.
-/
def Amounts
    (levels : List Nat)
    (lines : List (List Char))
    (width : Nat)
    (kept : List Nat)
    (kinds : List TokenKind) : Prop :=
  ∃ own after closing,
    Lays levels lines own after ∧
      Closes after width closing kept ∧
        kinds = own ++ closing

theorem Amounts.cons
    {before levels kept : List Nat}
    {cs : List Char}
    {lines : List (List Char)}
    {width : Nat}
    {kinds others : List TokenKind}
    (hLine : LineLays before cs kinds levels)
    (hLines : Amounts levels lines width kept others) :
    Amounts before (cs :: lines) width kept
      (kinds ++ others) := by
  rcases hLines with ⟨own, after, closing, hLays, hCloses, rfl⟩
  exact ⟨kinds ++ own, after, closing, .cons hLine hLays,
    hCloses, by simp⟩

/-
  Lines follow others at the same width. What the first ones
  leave open is closed by the first line behind them.
-/
theorem Amounts.append
    {levels kept : List Nat}
    {lines more : List (List Char)}
    {width : Nat}
    {kinds others : List TokenKind}
    (hLines : Amounts levels lines width kept kinds)
    (hMore :
      ∀ between closing,
        Closes between width closing kept →
          Amounts between more width kept
            (closing ++ others)) :
    Amounts levels (lines ++ more) width kept
      (kinds ++ others) := by
  rcases hLines with
    ⟨own, between, closing, hLays, hCloses, rfl⟩
  rcases hMore between closing hCloses with
    ⟨further, after, last, hLater, hLast, hKinds⟩
  refine ⟨own ++ further, after, last, hLays.append hLater,
    hLast, ?_⟩
  rw [List.append_assoc, hKinds, List.append_assoc]

end Lexer

end Gantry

------------------------------------------------------------
-- Outlines
------------------------------------------------------------

namespace Gantry

/- A line of words and the lines that hang under it. -/
inductive Outline where
  | line
      (first : Word)
      (others : List Word)
      (children : List Outline)

namespace Outline

mutual

/- The tokens of a line and of what hangs under it. -/
def kinds :
    Outline → List TokenKind
| .line first others children =>
    (first :: others).map Word.kind ++
      .newline :: blockKinds children

/- The tokens of the lines that hang under a line. -/
def blockKinds :
    List Outline → List TokenKind
| [] => []
| child :: children =>
    .indent ::
      (child.kinds ++ listKinds children ++ [.dedent])

/- The tokens of several lines. -/
def listKinds :
    List Outline → List TokenKind
| [] => []
| outline :: outlines =>
    outline.kinds ++ listKinds outlines

end

/- Leading spaces and tabs of the given width. -/
def Margin
    (width : Nat)
    (margin : List Char) : Prop :=
  (∀ c ∈ margin, c = ' ' ∨ c = '\t') ∧
    margin.count ' ' + 4 * margin.count '\t' = width

/- A line of blanks, or of blanks and a comment. -/
def Silent
    (cs : List Char) : Prop :=
  ∃ blanks comment,
    cs = blanks ++ comment ∧
      (∀ c ∈ blanks, Text.isBlank c = true) ∧
        (comment = [] ∨ comment.head? = some '#')

/-
  Lines in which the outlines of one block are laid out with
  the given width. Silent lines stand anywhere.
-/
inductive Laid :
    Nat → List Outline → List (List Char) → Prop where
  | done
      (width : Nat) :
      Laid width [] []
  | silent
      {width : Nat}
      {cs : List Char}
      {outlines : List Outline}
      {lines : List (List Char)}
      (hSilent : Silent cs)
      (hOneLine : Source.OnOneLine cs)
      (hLines : Laid width outlines lines) :
      Laid width outlines (cs :: lines)
  | line
      {width inner : Nat}
      {margin : List Char}
      {first : Word}
      {others : List Word}
      {children outlines : List Outline}
      {below behind : List (List Char)}
      (hMargin : Margin width margin)
      (hWider : width < inner)
      (hBelow : Laid inner children below)
      (hBehind : Laid width outlines behind) :
      Laid width (.line first others children :: outlines)
        ((margin ++ Word.sentence (first :: others)) ::
          (below ++ behind))

end Outline

end Gantry

------------------------------------------------------------
-- Reading Outlines
------------------------------------------------------------

namespace Gantry

namespace Outline

open Lexer

theorem Silent.isIdle
    {cs : List Char}
    (hSilent : Silent cs) :
    isIdle cs = true := by
  rcases hSilent with ⟨blanks, comment, rfl, hBlanks, hRest⟩
  rw [Lexer.isIdle, List.dropWhile_append_of_pos hBlanks]
  rcases hRest with rfl | hComment
  · rfl
  · cases comment with
    | nil => rfl
    | cons c comment =>
        cases hComment
        rw [List.dropWhile_cons_of_neg (by decide)]
        rfl

theorem Silent.lineLays
    {cs : List Char}
    (hSilent : Silent cs)
    (levels : List Nat) :
    LineLays levels cs [] levels := by
  intro number
  simp [lexLine, hSilent.isIdle]

theorem Margin.isBlank
    {width : Nat}
    {margin : List Char}
    (hMargin : Margin width margin) :
    ∀ c ∈ margin, Text.isBlank c = true := by
  intro c hChar
  rcases hMargin.1 c hChar with rfl | rfl
  · rfl
  · rfl

theorem Margin.indentWidth
    {width : Nat}
    {margin : List Char}
    (hMargin : Margin width margin)
    {c : Char}
    (hVisible : Text.isBlank c = false)
    (rest : List Char) :
    indentWidth (margin ++ c :: rest) = width := by
  rcases hMargin with ⟨hChars, rfl⟩
  induction margin with
  | nil =>
      have hSpace : c ≠ ' ' := by
        rintro rfl
        exact absurd hVisible (by decide)
      have hTab : c ≠ '\t' := by
        rintro rfl
        exact absurd hVisible (by decide)
      simp [Lexer.indentWidth, hSpace, hTab]
  | cons d margin ih =>
      rw [List.forall_mem_cons] at hChars
      rcases hChars.1 with rfl | rfl
      · rw [List.cons_append, Lexer.indentWidth,
          ih hChars.2, List.count_cons_self,
          List.count_cons_of_ne (by decide)]
        omega
      · rw [List.cons_append, Lexer.indentWidth,
          ih hChars.2, List.count_cons_self,
          List.count_cons_of_ne (by decide), tabWidth]
        omega

/- A line of tokens, from whatever levels it turns. -/
theorem lineLays_of_yields
    {levels kept : List Nat}
    {width : Nat}
    {opening kinds : List TokenKind}
    {margin rest : List Char}
    {c : Char}
    (hTurns : Turns levels width opening kept)
    (hMargin : Margin width margin)
    (hVisible : Text.isBlank c = false)
    (hComment : c ≠ '#')
    (hYields : Yields false (c :: rest) (kinds.map .token)) :
    LineLays levels (margin ++ c :: rest)
      (opening ++ (kinds ++ [.newline])) kept := by
  intro number
  have hLine := hYields.blanks hMargin.isBlank
  have hBusy : isIdle (margin ++ c :: rest) = false := by
    rw [isIdle, List.dropWhile_append_of_pos hMargin.isBlank,
      List.dropWhile_cons_of_neg (by simp [hVisible])]
    simpa using hComment
  rcases hTurns number with ⟨hOpening, hIssues, hKept⟩
  rcases tokens_of_lexemes (hLine number 1) with
    ⟨hKinds, hClean⟩
  rw [lexLine, if_neg (by simp [hBusy]),
    hMargin.indentWidth hVisible rest]
  simp [hOpening, hIssues, hKept, hKinds, hClean]

theorem lineLays_sentence
    {levels kept : List Nat}
    {width : Nat}
    {opening : List TokenKind}
    {margin : List Char}
    (hTurns : Turns levels width opening kept)
    (hMargin : Margin width margin)
    (first : Word)
    (others : List Word) :
    LineLays levels
      (margin ++ Word.sentence (first :: others))
      (opening ++
        ((first :: others).map Word.kind ++ [.newline]))
      kept := by
  have hYields :=
    Word.yields_sentence false (first :: others)
  rcases Word.sentence_starts first others with
    ⟨c, rest, hSentence, hVisible, hComment⟩
  rw [hSentence] at hYields ⊢
  exact lineLays_of_yields hTurns hMargin hVisible hComment
    hYields

/- Lines without words leave the levels as they are. -/
theorem Laid.lays_of_nil
    {width : Nat}
    {lines : List (List Char)}
    (hLaid : Laid width [] lines)
    (levels : List Nat) :
    Lays levels lines [] levels := by
  generalize hNone : ([] : List Outline) = outlines at hLaid
  induction hLaid with
  | done => exact .nil levels
  | silent hSilent _ _ ih =>
      exact .cons (hSilent.lineLays levels) (ih hNone)
  | line => contradiction

/-
  The lines of a block amount to its tokens behind those
  with which its first line turns the levels.
-/
def Fills
    (width : Nat)
    (outlines : List Outline)
    (lines : List (List Char)) : Prop :=
  ∀ levels opening kept,
    Turns levels width opening kept →
      currentWidth kept = width →
        Amounts levels lines width kept
          (opening ++ listKinds outlines)

/- A block under a line is opened and closed again. -/
theorem Laid.amounts_below
    {inner : Nat}
    {children : List Outline}
    {lines : List (List Char)}
    (hLaid : Laid inner children lines)
    (hFills : children ≠ [] → Fills inner children lines)
    {levels : List Nat}
    (hWider : currentWidth levels < inner) :
    Amounts levels lines (currentWidth levels) levels
      (blockKinds children) := by
  cases children with
  | nil =>
      exact ⟨[], levels, [], hLaid.lays_of_nil levels,
        closes_refl levels, rfl⟩
  | cons child children =>
      rcases hFills (by simp) levels [.indent]
          (inner :: levels) (turns_wider hWider) rfl with
        ⟨own, after, closing, hLays, hCloses, hKinds⟩
      refine ⟨own, after, closing ++ [.dedent], hLays,
        hCloses.outward hWider, ?_⟩
      rw [← List.append_assoc, ← hKinds]
      simp [blockKinds, listKinds]

/- More lines of a block close what is open before them. -/
theorem Laid.amounts_behind
    {width : Nat}
    {outlines : List Outline}
    {lines : List (List Char)}
    (hLaid : Laid width outlines lines)
    (hFills : outlines ≠ [] → Fills width outlines lines)
    {levels kept : List Nat}
    {closing : List TokenKind}
    (hCloses : Closes levels width closing kept) :
    Amounts levels lines width kept
      (closing ++ listKinds outlines) := by
  cases outlines with
  | nil =>
      exact ⟨[], levels, closing, hLaid.lays_of_nil levels,
        hCloses, by simp [listKinds]⟩
  | cons outline outlines =>
      exact hFills (by simp) levels closing kept
        hCloses.turns hCloses.width_kept

/- Lines that lay out a block fill it. -/
theorem Laid.fills
    {width : Nat}
    {outlines : List Outline}
    {lines : List (List Char)}
    (hLaid : Laid width outlines lines) :
    outlines ≠ [] → Fills width outlines lines := by
  induction hLaid with
  | done => exact fun hSome => absurd rfl hSome
  | silent hSilent _ _ ih =>
      intro hSome levels opening kept hTurns hKept
      have hLines :=
        Amounts.cons (hSilent.lineLays levels)
          (ih hSome levels opening kept hTurns hKept)
      exact hLines
  | @line width inner margin first others children outlines
      below behind hMargin hWider hBelow hBehind ihBelow
      ihBehind =>
      intro _ levels opening kept hTurns hKept
      have hLine :=
        lineLays_sentence hTurns hMargin first others
      have hUnder :
          Amounts kept below width kept
            (blockKinds children) := by
        rw [← hKept] at hWider ⊢
        exact hBelow.amounts_below ihBelow hWider
      have hLines :=
        hUnder.append fun between closing hCloses =>
          hBehind.amounts_behind ihBehind hCloses
      have hAll := Amounts.cons hLine hLines
      simpa [listKinds, kinds] using hAll

/- Every line of a layout is one line. -/
theorem Laid.onOneLine
    {width : Nat}
    {outlines : List Outline}
    {lines : List (List Char)}
    (hLaid : Laid width outlines lines) :
    ∀ line ∈ lines, Source.OnOneLine line := by
  induction hLaid with
  | done => simp
  | silent _ hOneLine _ ih =>
      exact List.forall_mem_cons.mpr ⟨hOneLine, ih⟩
  | @line _ _ margin first others _ _ below behind hMargin
      _ _ _ ihBelow ihBehind =>
      rw [List.forall_mem_cons]
      constructor
      · intro c hChar
        rcases List.mem_append.mp hChar with hChar | hChar
        · rcases hMargin.1 c hChar with rfl | rfl <;> decide
        · exact Word.onOneLine_sentence (first :: others) c
            hChar
      · intro line hLine
        rcases List.mem_append.mp hLine with hLine | hLine
        · exact ihBelow line hLine
        · exact ihBehind line hLine

/- No lines are written like one without characters. -/
theorem Laid.exists_ne_nil
    {outlines : List Outline}
    {lines : List (List Char)}
    (hLaid : Laid 0 outlines lines) :
    ∃ shown,
      shown ≠ [] ∧
        ['\n'].intercalate shown =
            ['\n'].intercalate lines ∧
          Laid 0 outlines shown := by
  by_cases hSome : lines = []
  · subst hSome
    have hSilent : Silent [] :=
      ⟨[], [], rfl, by simp, .inl rfl⟩
    have hOneLine : Source.OnOneLine [] := by
      intro c hChar
      contradiction
    exact ⟨[[]], by simp, by simp,
      .silent hSilent hOneLine hLaid⟩
  · exact ⟨lines, hSome, rfl, hLaid⟩

/-
  A tree of lines that is laid out in a text is read without
  an issue, and its tokens are those of the tree.
-/
theorem lex_laid
    (name : String)
    {outlines : List Outline}
    {lines : List (List Char)}
    (hLaid : Laid 0 outlines lines) :
    (Source.ofText name
        (String.ofList (['\n'].intercalate lines))).lex.log =
        Log.empty ∧
      (Source.ofText name
          (String.ofList
            (['\n'].intercalate lines))).lex.tokens.map
          (·.kind) =
        listKinds outlines ++ [.endOfFile] := by
  rcases hLaid.exists_ne_nil with
    ⟨shown, hSome, hText, hShown⟩
  rw [← hText]
  have hAmounts :
      Amounts [] shown 0 [] (listKinds outlines) :=
    hShown.amounts_behind hShown.fills (closes_refl [])
  rcases hAmounts with
    ⟨own, after, closing, hLays, hCloses, hKinds⟩
  rcases hCloses with ⟨wider, hAfter, _, _, rfl⟩
  rw [List.append_nil] at hAfter
  subst hAfter
  rw [hKinds]
  exact hLays.lex hSome hShown.onOneLine name

/- A loop under a condition, and a line behind both. -/
def sample : List Outline :=
  let x : Word :=
    .name ⟨'x', [], by decide, by simp, by decide⟩
  [.line (.keyword .ifWord)
      [x, .symbol .minus,
        .number ⟨'1', ['2'], [], List.all_eq_true.mp rfl⟩,
        .symbol .colon]
      [.line (.keyword .whileWord) [x, .symbol .colon]
        [.line x
          [.symbol .eq, .string "it's # 1" (by decide)] []]],
    .line x
      [.symbol .slashSlash,
        .number ⟨'3', [], ['5'], List.all_eq_true.mp rfl⟩]
      []]

/- Its lines, with a comment and an empty one among them. -/
def sampleLines : List (List Char) :=
  ["if x - 12 :", "\twhile x :", "   # note",
    "  \t  x = 'it\\'s # 1'", "", "x // 3.5"].map
    String.toList

theorem laid_sample :
    Laid 0 sample sampleLines := by
  have hOneLine :
      ∀ line ∈ sampleLines, Source.OnOneLine line := by
    have hAll :
        sampleLines.all (fun line =>
          line.all fun c => c != '\n' && c != '\r') =
          true := by
      decide
    simpa [Source.OnOneLine] using hAll
  have hEmpty : Silent [] :=
    ⟨[], [], rfl, by simp, .inl rfl⟩
  have hNote : Silent "   # note".toList :=
    ⟨"   ".toList, "# note".toList, rfl,
      List.all_eq_true.mp rfl, .inr rfl⟩
  have hInner (first : Word) (others : List Word) :=
    @Laid.line 8 9 [' ', ' ', '\t', ' ', ' '] first others
      [] [] [] [[]] ⟨by simp, rfl⟩ (by decide) (.done 9)
      (.silent hEmpty (hOneLine [] (by decide)) (.done 8))
  have hLoop
      (first next : Word)
      (others further : List Word) :=
    @Laid.line 4 8 ['\t'] first others _ [] _ []
      ⟨by simp, rfl⟩ (by decide)
      (.silent hNote (hOneLine _ (by decide))
        (hInner next further))
      (.done 4)
  have hMargin : Margin 0 [] := ⟨by simp, rfl⟩
  exact .line hMargin (by decide) (hLoop _ _ _ _)
    (.line hMargin (by decide) (.done 1) (.done 0))

/- Both levels end in front of the last line. -/
theorem lex_laid_sample :
    Laid 0 sample sampleLines ∧
      (Source.ofText "sample"
          (String.ofList
            (['\n'].intercalate sampleLines))).lex.log =
        Log.empty ∧
      (Source.ofText "sample"
          (String.ofList
            (['\n'].intercalate sampleLines))).lex.tokens.map
          (·.kind) =
        [.keyword .ifWord, .name "x", .symbol .minus,
          .number (Numeral.ofFloat 12), .symbol .colon,
          .newline, .indent, .keyword .whileWord,
          .name "x", .symbol .colon, .newline, .indent,
          .name "x", .symbol .eq, .string "it's # 1",
          .newline, .dedent, .dedent, .name "x",
          .symbol .slashSlash,
          .number (Numeral.ofFloat 3.5), .newline,
          .endOfFile] := by
  rcases lex_laid "sample" laid_sample with ⟨hLog, hKinds⟩
  refine ⟨laid_sample, hLog, hKinds.trans ?_⟩
  decide +kernel

end Outline

end Gantry
