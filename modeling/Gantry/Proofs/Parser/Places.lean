import Gantry.Proofs.Parser.Invariant
import Gantry.Proofs.Token.Partition

/-
  This file shows that what is wrong with a script is shown
  where it stands: every diagnostic starts and ends in the
  script, and comes with the line on which it starts.

  The parser takes places from tokens and merges them, so
  that a property of spans which merging keeps passes from
  the tokens of a script to its issues.

  A line that matches no open level is marked through the
  width of its indentation, in which a tab counts for
  several characters. So where it is indented with tabs, the
  mark can end behind the line.

  Key definitions include:
    * `Gantry.Span.Mergeable`
    * `Gantry.Cursor.Placed`
    * `Gantry.Source.Holds`
    * `Gantry.Source.Marks`
    * `Gantry.Source.MarksWidth`
    * `Gantry.Source.Shows`

  Main statements:
    * `Gantry.Parser.placed_parse`
    * `Gantry.Source.mergeable_marks`
    * `Gantry.Lexer.marks_lexLine`
    * `Gantry.Source.errors_point_into_source`
    * `Gantry.Source.tabs_point_past_line`
-/

------------------------------------------------------------
-- Placed Cursors
------------------------------------------------------------

namespace Gantry

/-
  Spans of which any two may be merged, with the first place
  of a text among them.
-/
structure Span.Mergeable
    (placed : Span → Prop) : Prop where
  origin : placed (point 1 1)
  merge :
    ∀ s t, placed s → placed t → placed (s.merge t)

namespace Cursor

/- The tokens ahead and the issues so far are placed. -/
structure Placed
    (placed : Span → Prop)
    (cursor : Cursor) : Prop where
  rest : ∀ token ∈ cursor.rest, placed token.span
  issues : ∀ issue ∈ cursor.log.kept, placed issue.span

variable
    {placed : Span → Prop}
    {cursor : Cursor}

theorem Placed.here
    (hMergeable : Span.Mergeable placed)
    (hPlaced : cursor.Placed placed) :
    placed cursor.here := by
  rcases cursor with ⟨rest, previous, log⟩
  cases rest with
  | nil => exact hMergeable.origin
  | cons token rest =>
      exact hPlaced.rest token List.mem_cons_self

theorem Placed.next
    (hPlaced : cursor.Placed placed) :
    cursor.next.Placed placed := by
  rcases cursor with ⟨rest, previous, log⟩
  cases rest with
  | nil => exact hPlaced
  | cons token rest =>
      exact ⟨(List.forall_mem_cons.mp hPlaced.rest).2,
        hPlaced.issues⟩

theorem Placed.report
    (hPlaced : cursor.Placed placed)
    (fault : Fault)
    {span : Span}
    (hSpan : placed span) :
    (cursor.report fault span).Placed placed := by
  refine ⟨hPlaced.rest, ?_⟩
  intro issue hIssue
  unfold Cursor.report Log.push at hIssue
  dsimp only at hIssue
  split at hIssue
  · rcases List.mem_append.mp hIssue with hOld | hNew
    · exact hPlaced.issues issue hOld
    · rw [List.mem_singleton.mp hNew]
      exact hSpan
  · exact hPlaced.issues issue hIssue

/- Tokens may be dropped. -/
theorem Placed.drop
    (hPlaced : cursor.Placed placed)
    {rest : List Token}
    (hRest : rest <:+ cursor.rest)
    (previous : Span) :
    Cursor.Placed placed ⟨rest, previous, cursor.log⟩ :=
  ⟨fun token hToken =>
      hPlaced.rest token (hRest.mem hToken),
    hPlaced.issues⟩

end Cursor

namespace Parser

theorem dropNewlines_suffix
    (previous : Span)
    (tokens : List Token) :
    (dropNewlines previous tokens).2 <:+ tokens := by
  induction tokens generalizing previous with
  | nil => exact List.suffix_refl _
  | cons token rest ih =>
      rw [dropNewlines]
      split
      · exact (ih token.span).trans
          (List.suffix_cons token rest)
      · exact List.suffix_refl _

theorem dropRegion_suffix
    (depth : Nat)
    (previous : Span)
    (tokens : List Token) :
    (dropRegion depth previous tokens).2 <:+ tokens := by
  induction tokens generalizing depth previous with
  | nil => exact List.suffix_refl _
  | cons token rest ih =>
      have hRest := List.suffix_cons token rest
      rw [dropRegion]
      split
      · exact List.suffix_refl _
      · exact (ih _ _).trans hRest
      · split
        · exact hRest
        · exact (ih _ _).trans hRest
      · exact (ih _ _).trans hRest

theorem dropLine_suffix
    (previous : Span)
    (tokens : List Token) :
    (dropLine previous tokens).2 <:+ tokens := by
  induction tokens generalizing previous with
  | nil => exact List.suffix_refl _
  | cons token rest ih =>
      have hRest := List.suffix_cons token rest
      rw [dropLine]
      split
      · exact List.suffix_refl _
      · exact List.suffix_refl _
      · exact List.suffix_refl _
      · split
        · exact (dropRegion_suffix _ _ _).trans hRest
        · exact hRest
      · exact (ih _).trans hRest

end Parser

namespace Cursor

variable
    {placed : Span → Prop}
    {cursor : Cursor}

theorem Placed.pastNewlines
    (hPlaced : cursor.Placed placed) :
    cursor.pastNewlines.Placed placed :=
  hPlaced.drop (Parser.dropNewlines_suffix _ _) _

theorem Placed.synchronized
    (hPlaced : cursor.Placed placed) :
    cursor.synchronized.Placed placed :=
  hPlaced.drop (Parser.dropLine_suffix _ _) _

end Cursor

namespace Parser

variable {placed : Span → Prop}

/- What is read keeps the cursor placed. -/
theorem invariant_placed
    (hMergeable : Span.Mergeable placed) :
    Invariant (Cursor.Placed placed) placed where
  here hPlaced := hPlaced.here hMergeable
  next hPlaced := hPlaced.next
  report fault hPlaced hSpan := hPlaced.report fault hSpan
  pastNewlines hPlaced := hPlaced.pastNewlines
  synchronized hPlaced := hPlaced.synchronized
  merge := hMergeable.merge _ _

/- The issues of a script stand where its tokens do. -/
theorem placed_parse
    (hMergeable : Span.Mergeable placed)
    {tokens : List Token}
    (hTokens : ∀ token ∈ tokens, placed token.span) :
    ∀ issue ∈ (parse tokens).log.kept, placed issue.span := by
  have hStart : Cursor.Placed placed { rest := tokens } :=
    ⟨hTokens, by simp [Log.empty]⟩
  rw [parse_eq]
  exact (good_topLevel (invariant_placed hMergeable)
    (boundFor tokens) hStart).issues

end Parser

end Gantry

------------------------------------------------------------
-- Reading Order
------------------------------------------------------------

namespace Gantry

namespace Position

theorem le_iff
    (p q : Position) :
    p ≤ q ↔
      p.line < q.line ∨
        (p.line = q.line ∧ p.column ≤ q.column) :=
  Iff.rfl

theorem le_total
    (p q : Position) :
    p ≤ q ∨ q ≤ p := by
  rw [le_iff, le_iff]
  omega

theorem le_trans
    {p q r : Position}
    (hFirst : p ≤ q)
    (hSecond : q ≤ r) :
    p ≤ r := by
  rw [le_iff] at *
  omega

theorem first_le_left
    (p q : Position) :
    p.first q ≤ p := by
  unfold first
  split
  · exact (le_iff p p).mpr (.inr ⟨rfl, Nat.le_refl _⟩)
  · rename_i hAfter
    exact (le_total p q).resolve_left hAfter

theorem left_le_last
    (p q : Position) :
    p ≤ p.last q := by
  unfold last
  split
  · assumption
  · exact (le_iff p p).mpr (.inr ⟨rfl, Nat.le_refl _⟩)

end Position

end Gantry

------------------------------------------------------------
-- Places In A Script
------------------------------------------------------------

namespace Gantry

namespace Source

/-
  The place is on a line of the script, at one of its
  characters or just behind the last one.
-/
def Holds
    (source : Source)
    (p : Position) : Prop :=
  ∃ text, source.line? p.line = some text ∧
    1 ≤ p.column ∧ p.column ≤ text.length + 1

/- The span leads from a place in the script to a later one. -/
structure Marks
    (source : Source)
    (span : Span) : Prop where
  ordered : span.start ≤ span.stop
  start : source.Holds span.start
  stop : source.Holds span.stop

variable {source : Source}

/- Some columns of a line. -/
theorem marks_columns
    {number first last : Nat}
    {text : String}
    (hLine : source.line? number = some text)
    (hFirst : 1 ≤ first)
    (hOrder : first ≤ last)
    (hLast : last ≤ text.length + 1) :
    source.Marks ⟨⟨number, first⟩, ⟨number, last⟩⟩ where
  ordered := (Position.le_iff _ _).mpr (.inr ⟨rfl, hOrder⟩)
  start := ⟨text, hLine, hFirst, hOrder.trans hLast⟩
  stop := ⟨text, hLine, hFirst.trans hOrder, hLast⟩

/- Spans of a script may be merged. -/
theorem mergeable_marks
    (hLines : source.lines ≠ []) :
    Span.Mergeable source.Marks where
  origin := by
    rcases List.exists_cons_of_ne_nil hLines with
      ⟨line, lines, hLines⟩
    have hLine : source.line? 1 = some line := by
      rw [line?, hLines]
      rfl
    exact marks_columns hLine (Nat.le_refl 1)
      (Nat.le_refl 1) (Nat.le_add_left 1 line.length)
  merge s t hS hT := by
    have hFirst := Position.first_le_left s.start t.start
    have hLast := Position.left_le_last s.stop t.stop
    refine ⟨Position.le_trans hFirst
      (Position.le_trans hS.ordered hLast), ?_, ?_⟩
    · unfold Span.merge Position.first
      dsimp only
      split
      · exact hS.start
      · exact hT.start
    · unfold Span.merge Position.last
      dsimp only
      split
      · exact hT.stop
      · exact hS.stop

end Source

end Gantry

------------------------------------------------------------
-- Places On A Line
------------------------------------------------------------

namespace Gantry

namespace Lexer

/- Among the spaces a line starts with there is a tab. -/
def StartsTabbed
    (cs : List Char) : Prop :=
  ∃ spaces more,
    cs = spaces ++ '\t' :: more ∧ ∀ c ∈ spaces, c = ' '

/- Without a tab an indentation is as wide as it is long. -/
theorem indentWidth_le_or_startsTabbed
    (cs : List Char) :
    indentWidth cs ≤ cs.length ∨ StartsTabbed cs := by
  fun_induction indentWidth cs with
  | case1 rest ih =>
      rcases ih with hWidth | ⟨spaces, more, rfl, hSpaces⟩
      · exact .inl (Nat.succ_le_succ hWidth)
      · exact .inr ⟨' ' :: spaces, more, rfl,
          List.forall_mem_cons.mpr ⟨rfl, hSpaces⟩⟩
  | case2 rest => exact .inr ⟨[], rest, rfl, by simp⟩
  | case3 => exact .inl (Nat.zero_le _)

end Lexer

open Lexer

namespace Source

/-
  The span is as long as the line's indentation is wide, but
  in the indentation there are tabs.
-/
def MarksWidth
    (text : String)
    (span : Span) : Prop :=
  StartsTabbed text.toList ∧
    span =
      Span.onLine span.start.line 1
        (indentWidth text.toList)

/-
  The issue starts on a line of the script. It ends in the
  script behind its start, unless it is about the width of
  the line.
-/
def Shows
    (source : Source)
    (issue : Issue) : Prop :=
  source.Marks issue.span ∨
    ∃ text,
      source.line? issue.span.start.line = some text ∧
        issue.fault = .inconsistentDedent ∧
          MarksWidth text issue.span

end Source

namespace Lexer

variable
    {source : Source}
    {number : Nat}
    {text : String}

theorem marks_scan
    (hLine : source.line? number = some text) :
    ∀ item ∈ scan number 1 false text.toList,
      source.Marks item.span := by
  intro item hItem
  rcases (cuts_scan number 0 false text.toList).within item
    hItem with ⟨hOn, hFirst, hOrder, hLast⟩
  rcases item with ⟨lexeme, ⟨⟨_, first⟩, ⟨_, last⟩⟩⟩
  rcases hOn with ⟨hStart, hStop⟩
  cases hStart
  cases hStop
  rw [String.length_toList, Nat.zero_add] at hLast
  exact Source.marks_columns hLine hFirst hOrder
    (Nat.le_succ_of_le hLast)

theorem marks_point
    (hLine : source.line? number = some text)
    {column : Nat}
    (hFirst : 1 ≤ column)
    (hLast : column ≤ text.length + 1) :
    source.Marks (Span.point number column) :=
  Source.marks_columns hLine hFirst (Nat.le_refl column)
    hLast

theorem marks_relayout
    (hLine : source.line? number = some text)
    (levels : List Nat) :
    let layout :=
      relayout number (indentWidth text.toList) levels
    (∀ token ∈ layout.tokens, source.Marks token.span) ∧
      ∀ issue ∈ layout.issues, source.Shows issue := by
  have hStart : source.Marks (Span.point number 1) :=
    marks_point hLine (Nat.le_refl 1)
      (Nat.le_add_left 1 text.length)
  have hUneven :
      source.Shows
        ⟨.inconsistentDedent,
          Span.onLine number 1
            (indentWidth text.toList)⟩ := by
    rcases indentWidth_le_or_startsTabbed text.toList with
      hWidth | hTabbed
    · rw [String.length_toList] at hWidth
      refine .inl (Source.marks_columns hLine ?_ ?_ ?_)
      · exact Nat.le_refl 1
      · exact Nat.le_add_right 1 _
      · omega
    · exact .inr ⟨text, hLine, rfl, hTabbed, rfl⟩
  unfold relayout
  dsimp only
  split
  · exact ⟨by simpa using hStart, by simp⟩
  · split
    · exact ⟨List.forall_mem_map.mpr fun _ _ => hStart,
        by simp⟩
    · exact ⟨List.forall_mem_map.mpr fun _ _ => hStart,
        by simpa using hUneven⟩

/- What is found on a line is shown there. -/
theorem marks_lexLine
    (hLine : source.line? number = some text)
    (levels : List Nat) :
    (∀ token ∈ (lexLine number levels text.toList).tokens,
        source.Marks token.span) ∧
      ∀ issue ∈ (lexLine number levels text.toList).issues,
        source.Shows issue := by
  refine spans_lexLine (fun issue hMarks => .inl hMarks)
    (marks_relayout hLine levels) (marks_scan hLine) ?_
  rw [String.length_toList]
  exact marks_point hLine (Nat.le_add_left 1 _)
    (Nat.le_refl _)

end Lexer

end Gantry

------------------------------------------------------------
-- Scripts
------------------------------------------------------------

namespace Gantry

open Lexer

namespace Source

variable {source : Source}

theorem marks_passage
    (source : Source) :
    (∀ token ∈ source.passage.tokens,
        source.Marks token.span) ∧
      ∀ issue ∈ source.passage.issues,
        source.Shows issue := by
  apply Line.addAll_keeps
    (P := fun passed =>
      (∀ token ∈ passed.tokens, source.Marks token.span) ∧
        ∀ issue ∈ passed.issues, source.Shows issue)
  · rintro passed ⟨number, text⟩ hLine _ ⟨hTokens, hIssues⟩
    have hNext :=
      marks_lexLine (mem_numbered.mp hLine) passed.levels
    exact ⟨List.forall_mem_append.mpr ⟨hTokens, hNext.1⟩,
      List.forall_mem_append.mpr ⟨hIssues, hNext.2⟩⟩
  · simp [Line.start]

theorem marks_finish
    (hLines : source.lines ≠ []) :
    source.Marks source.finish := by
  rw [finish_eq hLines]
  exact marks_point (line?_length hLines)
    (Nat.le_add_left 1 _) (Nat.le_refl _)

/- Every token of a script stands in it. -/
theorem marks_lex
    (hLines : source.lines ≠ []) :
    ∀ token ∈ source.lex.tokens,
      source.Marks token.span := by
  have hFinish := marks_finish hLines
  rw [lex_eq]
  refine List.forall_mem_append.mpr
    ⟨source.marks_passage.1, ?_⟩
  intro token hToken
  rcases List.mem_append.mp hToken with hDedent | hEnd
  · rcases List.mem_map.mp hDedent with ⟨_, _, rfl⟩
    exact hFinish
  · rw [List.mem_singleton.mp hEnd]
    exact hFinish

/- Every issue of a script is shown where it stands. -/
theorem shows_parse
    (hLines : source.lines ≠ []) :
    ∀ issue ∈ source.parse.log.kept, source.Shows issue := by
  intro issue hIssue
  unfold parse at hIssue
  dsimp only at hIssue
  split at hIssue
  · exact .inl
      (Parser.placed_parse (mergeable_marks hLines)
        (marks_lex hLines) issue hIssue)
  · dsimp only at hIssue
    rw [kept_lex] at hIssue
    exact source.marks_passage.2 issue
      (List.mem_of_mem_take hIssue)

/- Where an issue starts, and how it goes on from there. -/
theorem Shows.start
    {issue : Issue}
    (hShows : source.Shows issue) :
    ∃ text,
      source.line? issue.span.start.line = some text ∧
        issue.span.start ≤ issue.span.stop ∧
          1 ≤ issue.span.start.column ∧
            issue.span.start.column ≤ text.length + 1 ∧
              (source.Holds issue.span.stop ∨
                issue.fault = .inconsistentDedent ∧
                  MarksWidth text issue.span) := by
  rcases hShows with
    ⟨hOrder, ⟨text, hLine, hFirst, hLast⟩, hStop⟩ |
      ⟨text, hLine, hUneven, hWidth⟩
  · exact ⟨text, hLine, hOrder, hFirst, hLast, .inl hStop⟩
  · refine ⟨text, hLine, ?_, ?_, ?_, .inr ⟨hUneven, hWidth⟩⟩
    · rw [hWidth.2]
      exact (Position.le_iff _ _).mpr
        (.inr ⟨rfl, Nat.le_add_right 1 _⟩)
    · rw [hWidth.2]
      exact Nat.le_refl 1
    · rw [hWidth.2]
      exact Nat.le_add_left 1 text.length

/-
  Everything that is wrong with a script is shown on a line
  of it, from a character of that line or from its end up to
  a later place in the script. Only a line that matches no
  open level may be marked further than it goes, if it is
  indented with tabs.
-/
theorem errors_point_into_source
    (name text : String)
    {error : Diagnostic}
    (hError : error ∈ (ofText name text).errors) :
    let source := ofText name text
    let start := error.span.start
    1 ≤ start.line ∧
      start.line ≤ source.lines.length ∧
        source.line? start.line = some error.sourceLine ∧
          start ≤ error.span.stop ∧
            1 ≤ start.column ∧
              start.column ≤ error.sourceLine.length + 1 ∧
                (source.Holds error.span.stop ∨
                  error.code = 103 ∧
                    MarksWidth error.sourceLine
                      error.span) := by
  intro source start
  rcases List.mem_map.mp hError with ⟨issue, hIssue, rfl⟩
  have hShows : source.Shows issue :=
    shows_parse (lines_ne_nil name text) issue hIssue
  rcases hShows.start with
    ⟨line, hLine, hOrder, hFirst, hLast, hStop⟩
  have hSourceLine :
      (source.diagnose issue).sourceLine = line := by
    rw [diagnose, hLine]
    rfl
  have hBounds :=
    bounds_numberedFrom 0 source.lines _
      (mem_numbered.mpr hLine)
  rw [hSourceLine]
  refine ⟨hBounds.1, ?_, hLine, hOrder, hFirst, hLast,
    hStop.imp_right fun ⟨hUneven, hWidth⟩ =>
      ⟨congrArg Fault.code hUneven, hWidth⟩⟩
  exact hBounds.2.trans (Nat.le_of_eq (Nat.zero_add _))

/- A call is no target; the mark ends with the equals sign. -/
theorem errors_point_into_source_target :
    let source := ofText "main.py" "if x:\n\tf(y) = 1\n"
    let error :=
      source.diagnose ⟨.invalidTarget, ⟨⟨2, 2⟩, ⟨2, 7⟩⟩⟩
    error ∈ source.errors ∧
      source.line? 2 = some error.sourceLine ∧
        source.Holds ⟨2, 7⟩ := by
  intro source error
  have hError : error ∈ source.errors := by decide +kernel
  rcases errors_point_into_source "main.py" _ hError with
    ⟨_, _, hLine, _, _, _, hStop⟩
  have hCode : error.code ≠ 103 := by decide
  exact ⟨hError, hLine,
    hStop.resolve_right fun hUneven => hCode hUneven.1⟩

/-
  The third line has two characters, but it is marked up to
  a fourth one.
-/
theorem tabs_point_past_line :
    ∃ error ∈
        (ofText "main.py" "if a:\n\t\tb\n\tc\n").errors,
      error.sourceLine = "\tc" ∧
        error.span = ⟨⟨3, 1⟩, ⟨3, 4⟩⟩ ∧
          error.sourceLine.length + 1 <
            error.span.stop.column := by
  decide +kernel

end Source

end Gantry
