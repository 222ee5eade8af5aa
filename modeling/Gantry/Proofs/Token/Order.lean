import Gantry.Proofs.Parser.Places

/-
  This file shows that the tokens of a script come in the
  order in which they stand in it, and that so do the issues
  that the lexer reports.

  A token ends before the next one starts. Only where lines
  and blocks end may tokens share a place: the dedents in
  front of a line stand at its first character, and the
  tokens that end a script all stand behind its last one.

  Key definitions include:
    * `Gantry.Span.Before`
    * `Gantry.Token.Precedes`
    * `Gantry.Token.InOrder`
    * `Gantry.Issue.InOrder`

  Main statements:
    * `Gantry.Lexer.inOrder_lexLine`
    * `Gantry.Lexer.Line.inOrder_addAll`
    * `Gantry.Source.inOrder_lex`
    * `Gantry.Source.inOrder_issues`
-/

------------------------------------------------------------
-- Places One Behind The Other
------------------------------------------------------------

namespace Gantry

namespace Position

/- Strictly earlier in reading order. -/
def Earlier
    (p q : Position) : Prop :=
  p.line < q.line ∨
    (p.line = q.line ∧ p.column < q.column)

instance : LT Position where
  lt := Earlier

theorem lt_iff
    (p q : Position) :
    p < q ↔
      p.line < q.line ∨
        (p.line = q.line ∧ p.column < q.column) :=
  Iff.rfl

theorem le_refl
    (p : Position) :
    p ≤ p :=
  .inr ⟨rfl, Nat.le_refl _⟩

theorem le_of_lt
    {p q : Position}
    (hLess : p < q) :
    p ≤ q := by
  rw [lt_iff] at hLess
  rw [le_iff]
  omega

theorem right_le_last
    (p q : Position) :
    q ≤ p.last q := by
  unfold last
  split
  · exact le_refl q
  · rename_i hAfter
    exact (le_total p q).resolve_left hAfter

theorem lt_of_le_of_lt
    {p q r : Position}
    (hFirst : p ≤ q)
    (hSecond : q < r) :
    p < r := by
  rw [le_iff] at hFirst
  rw [lt_iff] at *
  omega

theorem lt_of_lt_of_le
    {p q r : Position}
    (hFirst : p < q)
    (hSecond : q ≤ r) :
    p < r := by
  rw [le_iff] at hSecond
  rw [lt_iff] at *
  omega

end Position

namespace Span

/- The span leads from a place to a later one, or to itself. -/
def Proper
    (s : Span) : Prop :=
  s.start ≤ s.stop

/- One span ends before another one starts. -/
def Before
    (s t : Span) : Prop :=
  s.stop < t.start

theorem proper_point
    (line column : Nat) :
    (point line column).Proper :=
  Position.le_refl _

/- Of two spans in order the first starts before the second. -/
theorem Before.start_lt
    {s t : Span}
    (hBefore : s.Before t)
    (hProper : s.Proper) :
    s.start < t.start :=
  Position.lt_of_le_of_lt hProper hBefore

theorem Before.stop_lt
    {s t : Span}
    (hBefore : s.Before t)
    (hProper : t.Proper) :
    s.stop < t.stop :=
  Position.lt_of_lt_of_le hBefore hProper

/- What covers two spans in order starts and stops with them. -/
theorem Before.merge_eq
    {s t : Span}
    (hBefore : s.Before t)
    (hFirst : s.Proper)
    (hSecond : t.Proper) :
    s.merge t = ⟨s.start, t.stop⟩ := by
  have hStart := hBefore.start_lt hFirst
  have hStop := hBefore.stop_lt hSecond
  unfold merge Position.first Position.last
  rw [if_pos (Position.le_of_lt hStart),
    if_pos (Position.le_of_lt hStop)]

end Span

end Gantry

------------------------------------------------------------
-- Tokens And Issues In Order
------------------------------------------------------------

namespace Gantry

/- The end of a line, of a block or of the script. -/
def TokenKind.endsLine :
    TokenKind → Bool
| .newline => true
| .dedent => true
| .endOfFile => true
| _ => false

theorem TokenKind.endsLine_of_isLayout
    {kind : TokenKind}
    (hWord : kind.isLayout = false) :
    kind.endsLine = false := by
  cases kind with
  | dedent => contradiction
  | newline => contradiction
  | endOfFile => contradiction
  | _ => rfl

namespace Token

/-
  A token ends where a later one starts, or before. Only the
  end of a line may share its place with what follows it.
-/
structure Precedes
    (token later : Token) : Prop where
  le : token.span.stop ≤ later.span.start
  lt :
    token.kind.endsLine = false →
      token.span.Before later.span

/- Tokens one behind the other. -/
structure InOrder
    (tokens : List Token) : Prop where
  proper : ∀ token ∈ tokens, token.span.Proper
  ordered : tokens.Pairwise Precedes

theorem precedes_of_before
    {token later : Token}
    (hBefore : token.span.Before later.span) :
    token.Precedes later :=
  ⟨Position.le_of_lt hBefore, fun _ => hBefore⟩

theorem inOrder_nil :
    InOrder [] :=
  ⟨by simp, .nil⟩

theorem inOrder_cons
    {token : Token}
    {rest : List Token} :
    InOrder (token :: rest) ↔
      token.span.Proper ∧
        (∀ later ∈ rest, token.Precedes later) ∧
          InOrder rest := by
  constructor
  · rintro ⟨hProper, hOrdered⟩
    rw [List.forall_mem_cons] at hProper
    rw [List.pairwise_cons] at hOrdered
    exact ⟨hProper.1, hOrdered.1, hProper.2, hOrdered.2⟩
  · rintro ⟨hToken, hLater, hProper, hOrdered⟩
    exact ⟨List.forall_mem_cons.mpr ⟨hToken, hProper⟩,
      List.pairwise_cons.mpr ⟨hLater, hOrdered⟩⟩

theorem InOrder.append
    {tokens more : List Token}
    (hTokens : InOrder tokens)
    (hMore : InOrder more)
    (hBoth :
      ∀ token ∈ tokens, ∀ later ∈ more,
        token.Precedes later) :
    InOrder (tokens ++ more) :=
  ⟨List.forall_mem_append.mpr
      ⟨hTokens.proper, hMore.proper⟩,
    List.pairwise_append.mpr
      ⟨hTokens.ordered, hMore.ordered, hBoth⟩⟩

/- A token starts no later than those behind it. -/
theorem Precedes.start_le
    {token later : Token}
    (hPrecedes : token.Precedes later)
    (hProper : token.span.Proper) :
    token.span.start ≤ later.span.start :=
  Position.le_trans hProper hPrecedes.le

end Token

/- Issues that start one behind the other, or together. -/
def Issue.InOrder
    (issues : List Issue) : Prop :=
  issues.Pairwise fun issue later =>
    issue.span.start ≤ later.span.start

end Gantry

------------------------------------------------------------
-- One Line
------------------------------------------------------------

namespace Gantry

namespace Lexer

/-
  The layout in front of a line stands at its first
  character. A level is opened only by blanks.
-/
theorem layout_relayout
    (number width : Nat)
    (levels : List Nat) :
    let layout := relayout number width levels
    (∀ token ∈ layout.tokens,
      token.span = Span.point number 1 ∧
        (token.kind = .dedent ∨
          token.kind = .indent ∧ 0 < width)) ∧
      Token.InOrder layout.tokens ∧
        Issue.InOrder layout.issues ∧
          ∀ issue ∈ layout.issues,
            issue.span.start = ⟨number, 1⟩ := by
  have hDedents :
      ∀ closed : List Nat,
        Token.InOrder
          (closed.map fun _ =>
            (⟨.dedent, Span.point number 1⟩ : Token)) := by
    intro closed
    constructor
    · exact List.forall_mem_map.mpr fun _ _ =>
        Span.proper_point number 1
    · rw [List.pairwise_map]
      refine List.pairwise_of_forall fun _ _ => ⟨?_, nofun⟩
      exact Position.le_refl _
  unfold relayout
  dsimp only
  split
  · rename_i hWider
    refine ⟨?_, ?_, .nil, by simp⟩
    · rw [List.forall_mem_singleton]
      exact ⟨rfl, .inr ⟨rfl, by omega⟩⟩
    · rw [Token.inOrder_cons]
      exact ⟨Span.proper_point number 1, by simp,
        Token.inOrder_nil⟩
  · split
    · exact ⟨List.forall_mem_map.mpr fun _ _ =>
          ⟨rfl, .inl rfl⟩,
        hDedents _, .nil, by simp⟩
    · refine ⟨List.forall_mem_map.mpr fun _ _ =>
          ⟨rfl, .inl rfl⟩,
        hDedents _, List.pairwise_singleton _ _, ?_⟩
      rw [List.forall_mem_singleton]
      rfl

/- Behind a blank the first column is used up. -/
theorem column_scan_of_indented
    {number : Nat}
    {cs : List Char}
    (hWidth : 0 < indentWidth cs) :
    ∀ item ∈ scan number 1 false cs,
      1 < item.span.start.column := by
  have hBlank :
      ∀ c rest, Text.isBlank c = true →
        ∀ item ∈ scan number 1 false (c :: rest),
          1 < item.span.start.column := by
    intro c rest hC item hItem
    rw [scan, if_pos hC] at hItem
    exact ((cuts_scan number 1 false rest).within item
      hItem).2.1
  unfold indentWidth at hWidth
  split at hWidth
  · exact hBlank ' ' _ (by decide)
  · exact hBlank '\t' _ (by decide)
  · contradiction

/- Every item of a line stands among its characters. -/
theorem bounds_scan
    (number : Nat)
    (cs : List Char) :
    ∀ item ∈ scan number 1 false cs,
      item.span.On number ∧
        1 ≤ item.span.start.column ∧
          item.span.Proper ∧
            item.span.stop.column ≤ cs.length := by
  intro item hItem
  rcases (cuts_scan number 0 false cs).within item hItem with
    ⟨hOn, hFirst, hOrder, hLast⟩
  refine ⟨hOn, hFirst, .inr ⟨?_, hOrder⟩, by omega⟩
  rw [hOn.1, hOn.2]

/- Items of a line stand one behind the other. -/
theorem ordered_scan
    (number : Nat)
    (cs : List Char) :
    (scan number 1 false cs).Pairwise fun item later =>
      item.span.Before later.span := by
  refine List.Pairwise.imp_of_mem ?_
    (cuts_scan number 0 false cs).ordered
  intro item later hItem hLater hColumns
  have hOn := (bounds_scan number cs item hItem).1
  have hOther := (bounds_scan number cs later hLater).1
  exact .inr ⟨by rw [hOn.2, hOther.1], hColumns⟩

end Lexer

end Gantry

------------------------------------------------------------
-- The Tokens Of One Line
------------------------------------------------------------

namespace Gantry

namespace Lexer

/-
  Tokens and issues in order, all of them on lines whose
  numbers are used up.
-/
structure Line.InOrder
    (used : Nat)
    (passed : Line) : Prop where
  tokens : Token.InOrder passed.tokens
  issues : Issue.InOrder passed.issues
  tokens_le :
    ∀ token ∈ passed.tokens, token.span.stop.line ≤ used
  issues_le :
    ∀ issue ∈ passed.issues, issue.span.start.line ≤ used

/- Where a token of a line stands among its characters. -/
structure FitsLine
    (number : Nat)
    (cs : List Char)
    (token : Token) : Prop where
  on : token.span.On number
  first : 1 ≤ token.span.start.column
  last : token.span.stop.column ≤ cs.length + 1
  inside :
    token.kind.endsLine = false →
      token.span.stop.column ≤ cs.length

/- An item that is a token is a word and has its span. -/
theorem item_of_token?
    {number : Nat}
    {cs : List Char}
    {token : Token}
    (hToken :
      token ∈
        (scan number 1 false cs).filterMap Item.token?) :
    token.kind.endsLine = false ∧
      ∃ item ∈ scan number 1 false cs,
        item.span = token.span := by
  rcases List.mem_filterMap.mp hToken with
    ⟨⟨lexeme, span⟩, hItem, hSome⟩
  refine ⟨TokenKind.endsLine_of_isLayout
    (isLayout_scan number 1 false cs _ hItem token hSome),
    _, hItem, ?_⟩
  cases lexeme with
  | token kind =>
      cases hSome
      rfl
  | fault cause => contradiction

/- Items in order that are tokens are tokens in order. -/
theorem inOrder_words
    (number : Nat)
    (cs : List Char) :
    Token.InOrder
      ((scan number 1 false cs).filterMap Item.token?) where
  proper := by
    intro token hToken
    rcases item_of_token? hToken with
      ⟨_, item, hItem, hSpan⟩
    rw [← hSpan]
    exact (bounds_scan number cs item hItem).2.2.1
  ordered := by
    refine (ordered_scan number cs).filterMap _ ?_
    rintro ⟨lexeme, span⟩ ⟨other, later⟩ hBefore token hToken
      next hNext
    cases lexeme with
    | fault cause => contradiction
    | token kind =>
        cases other with
        | fault cause => contradiction
        | token otherKind =>
            cases hToken
            cases hNext
            exact Token.precedes_of_before hBefore

/- So are items that are issues. -/
theorem inOrder_faults
    (number : Nat)
    (cs : List Char) :
    Issue.InOrder
      ((scan number 1 false cs).filterMap Item.issue?) := by
  refine List.Pairwise.filterMap _ ?_
    (List.Pairwise.and_mem.mp (ordered_scan number cs))
  rintro ⟨lexeme, span⟩ ⟨other, later⟩
    ⟨hItem, _, hBefore⟩ issue hIssue next hNext
  have hProper := (bounds_scan number cs _ hItem).2.2.1
  cases lexeme with
  | token kind => contradiction
  | fault cause =>
      cases other with
      | token kind => contradiction
      | fault otherCause =>
          cases hIssue
          cases hNext
          exact Position.le_of_lt (hBefore.start_lt hProper)

theorem fitsLine_words
    (number : Nat)
    (cs : List Char) :
    ∀ token ∈
        (scan number 1 false cs).filterMap Item.token?,
      FitsLine number cs token := by
  intro token hToken
  rcases item_of_token? hToken with ⟨_, item, hItem, hSpan⟩
  rcases bounds_scan number cs item hItem with
    ⟨hOn, hFirst, _, hLast⟩
  rw [hSpan] at hOn hFirst hLast
  exact ⟨hOn, hFirst, Nat.le_succ_of_le hLast,
    fun _ => hLast⟩

/- An indented line has characters. -/
theorem length_pos_of_indented
    {cs : List Char}
    (hWidth : 0 < indentWidth cs) :
    1 ≤ cs.length := by
  cases cs with
  | nil => contradiction
  | cons c rest => exact Nat.le_add_left 1 rest.length

/- The layout in front of a line. -/
theorem fitsLine_layout
    (number : Nat)
    (levels : List Nat)
    (cs : List Char) :
    ∀ token ∈
        (relayout number (indentWidth cs) levels).tokens,
      FitsLine number cs token := by
  intro token hToken
  rcases (layout_relayout number (indentWidth cs)
    levels).1 token hToken with ⟨hSpan, hKind⟩
  constructor
  · rw [hSpan]
    exact Span.on_point number 1
  · rw [hSpan]
    exact Nat.le_refl 1
  · rw [hSpan]
    exact Nat.le_add_left 1 cs.length
  · intro hWord
    rw [hSpan]
    rcases hKind with hDedent | ⟨_, hWidth⟩
    · rw [hDedent] at hWord
      contradiction
    · exact length_pos_of_indented hWidth

/- The layout of a line stands in front of its words. -/
theorem precedes_layout
    {number : Nat}
    {levels : List Nat}
    {cs : List Char}
    {token word : Token}
    (hToken :
      token ∈
        (relayout number (indentWidth cs) levels).tokens)
    (hWord :
      word ∈
        (scan number 1 false cs).filterMap Item.token?) :
    token.Precedes word := by
  rcases (layout_relayout number (indentWidth cs)
    levels).1 token hToken with ⟨hSpan, hKind⟩
  rcases item_of_token? hWord with ⟨_, item, hItem, hSame⟩
  rcases bounds_scan number cs item hItem with
    ⟨hOn, hFirst, _, _⟩
  rw [hSame] at hOn hFirst
  constructor
  · rw [hSpan, Position.le_iff]
    exact .inr ⟨hOn.1.symm, hFirst⟩
  · intro hOpens
    rcases hKind with hDedent | ⟨_, hWidth⟩
    · rw [hDedent] at hOpens
      contradiction
    · have hColumn := column_scan_of_indented hWidth item hItem
      rw [hSame] at hColumn
      rw [Span.Before, hSpan, Position.lt_iff]
      exact .inr ⟨hOn.1.symm, hColumn⟩

/- A token of a line stands in front of the line's end. -/
theorem FitsLine.precedes_newline
    {number : Nat}
    {cs : List Char}
    {token : Token}
    (hFits : FitsLine number cs token) :
    token.Precedes
      ⟨.newline, Span.point number (cs.length + 1)⟩ where
  le := .inr ⟨hFits.on.2, hFits.last⟩
  lt hWord :=
    .inr ⟨hFits.on.2, Nat.lt_succ_of_le (hFits.inside hWord)⟩

theorem fitsLine_lexLine
    (number : Nat)
    (levels : List Nat)
    (cs : List Char) :
    ∀ token ∈ (lexLine number levels cs).tokens,
      FitsLine number cs token := by
  unfold lexLine
  split
  · simp
  · dsimp only
    rw [List.forall_mem_append, List.forall_mem_append,
      List.forall_mem_singleton]
    refine ⟨⟨fitsLine_layout number levels cs,
      fitsLine_words number cs⟩, ?_⟩
    exact ⟨Span.on_point _ _, Nat.le_add_left 1 _,
      Nat.le_refl _, nofun⟩

/- Everything on one line comes in order. -/
theorem inOrder_lexLine
    (number : Nat)
    (levels : List Nat)
    (cs : List Char) :
    (lexLine number levels cs).InOrder number := by
  have hOn := on_lexLine number levels cs
  have hLayout :=
    layout_relayout number (indentWidth cs) levels
  refine ⟨?_, ?_, fun token hToken =>
      Nat.le_of_eq (hOn.1 token hToken).2,
    fun issue hIssue =>
      Nat.le_of_eq (hOn.2 issue hIssue).1⟩
  · unfold lexLine
    split
    · exact Token.inOrder_nil
    · dsimp only
      have hFront :=
        hLayout.2.1.append (inOrder_words number cs)
          fun token hToken word hWord =>
            precedes_layout hToken hWord
      refine hFront.append ?_ ?_
      · rw [Token.inOrder_cons]
        exact ⟨Span.proper_point _ _, by simp,
          Token.inOrder_nil⟩
      · intro token hToken newline hNewline
        rw [List.mem_singleton.mp hNewline]
        apply FitsLine.precedes_newline
        rcases List.mem_append.mp hToken with hOpened | hWord
        · exact fitsLine_layout number levels cs token hOpened
        · exact fitsLine_words number cs token hWord
  · unfold lexLine
    split
    · exact .nil
    · refine List.pairwise_append.mpr
        ⟨hLayout.2.2.1, inOrder_faults number cs, ?_⟩
      intro issue hIssue later hLater
      rcases List.mem_filterMap.mp hLater with
        ⟨⟨lexeme, span⟩, hItem, hSome⟩
      rcases bounds_scan number cs _ hItem with
        ⟨hHere, hFirst, _, _⟩
      cases lexeme with
      | token kind => contradiction
      | fault cause =>
          cases hSome
          rw [hLayout.2.2.2 issue hIssue, Position.le_iff]
          exact .inr ⟨hHere.1.symm, hFirst⟩

end Lexer

end Gantry

------------------------------------------------------------
-- Scripts
------------------------------------------------------------

namespace Gantry

namespace Lexer

/- What is on later lines comes behind what was found. -/
theorem Line.InOrder.append
    {used number : Nat}
    {passed next : Line}
    (hPassed : passed.InOrder used)
    (hNext : next.InOrder number)
    (hTokens : ∀ token ∈ next.tokens, token.span.On number)
    (hIssues : ∀ issue ∈ next.issues, issue.span.On number)
    (hNumber : used < number) :
    (passed.append next).InOrder number where
  tokens := by
    refine hPassed.tokens.append hNext.tokens ?_
    intro token hToken later hLater
    have hLine := hPassed.tokens_le token hToken
    have hOn := hTokens later hLater
    apply Token.precedes_of_before
    refine .inl ?_
    rw [hOn.1]
    omega
  issues := by
    refine List.pairwise_append.mpr
      ⟨hPassed.issues, hNext.issues, ?_⟩
    intro issue hIssue later hLater
    have hLine := hPassed.issues_le issue hIssue
    have hOn := hIssues later hLater
    refine .inl ?_
    rw [hOn.1]
    omega
  tokens_le := by
    refine List.forall_mem_append.mpr ⟨?_, hNext.tokens_le⟩
    intro token hToken
    have hLine := hPassed.tokens_le token hToken
    omega
  issues_le := by
    refine List.forall_mem_append.mpr ⟨?_, hNext.issues_le⟩
    intro issue hIssue
    have hLine := hPassed.issues_le issue hIssue
    omega

theorem Line.InOrder.add
    {used number : Nat}
    {passed : Line}
    (hPassed : passed.InOrder used)
    (text : String)
    (hNumber : used < number) :
    (passed.add (number, text)).InOrder number := by
  unfold Line.add
  split
  · exact ⟨hPassed.tokens, hPassed.issues,
      fun token hToken =>
        (hPassed.tokens_le token hToken).trans
          (Nat.le_of_lt hNumber),
      fun issue hIssue =>
        (hPassed.issues_le issue hIssue).trans
          (Nat.le_of_lt hNumber)⟩
  · have hOn :=
      on_lexLine number passed.levels text.toList
    exact hPassed.append (inOrder_lexLine _ _ _) hOn.1 hOn.2
      hNumber

/- Lines with rising numbers, by induction on them. -/
theorem Line.inOrder_addAll
    {used : Nat}
    {passed : Line}
    (hPassed : passed.InOrder used)
    (lines : List String) :
    (passed.addAll (Source.numberedFrom used lines)).InOrder
      (used + lines.length) := by
  induction lines generalizing used passed with
  | nil => exact hPassed
  | cons text lines ih =>
      have hCount :
          used + (lines.length + 1) =
            used + 1 + lines.length := by
        omega
      rw [Source.numberedFrom_cons, Line.addAll_cons,
        List.length_cons, hCount]
      exact ih (hPassed.add text (Nat.lt_succ_self used))

end Lexer

namespace Source

open Lexer

variable (source : Source)

theorem inOrder_passage :
    source.passage.InOrder source.lines.length := by
  have hStart : Line.start.InOrder 0 :=
    ⟨Token.inOrder_nil, .nil, by simp [Line.start],
      by simp [Line.start]⟩
  have hAll := Line.inOrder_addAll hStart source.lines
  rwa [Nat.zero_add] at hAll

/- Every token that was found fits the line it is on. -/
theorem fitsLine_passage :
    ∀ token ∈ source.passage.tokens,
      ∃ number text,
        source.line? number = some text ∧
          FitsLine number text.toList token := by
  apply Line.addAll_keeps
    (P := fun passed =>
      ∀ token ∈ passed.tokens,
        ∃ number text,
          source.line? number = some text ∧
            FitsLine number text.toList token)
  · rintro passed ⟨number, text⟩ hLine _ hPassed
    refine List.forall_mem_append.mpr ⟨hPassed, ?_⟩
    intro token hToken
    exact ⟨number, text, mem_numbered.mp hLine,
      fitsLine_lexLine number passed.levels text.toList token
        hToken⟩
  · simp [Line.start]

/- Every token that was found is in front of the end. -/
theorem precedes_finish
    (kind : TokenKind) :
    ∀ token ∈ source.passage.tokens,
      token.Precedes ⟨kind, source.finish⟩ := by
  intro token hToken
  rcases source.fitsLine_passage token hToken with
    ⟨number, text, hLine, hFits⟩
  have hLines : source.lines ≠ [] := by
    intro hNone
    cases number with
    | zero => contradiction
    | succ index => simp [line?, hNone] at hLine
  have hNumber : number ≤ source.lines.length := by
    have hBounds :=
      bounds_numberedFrom 0 source.lines _
        (mem_numbered.mpr hLine)
    omega
  have hStop := hFits.on.2
  have hLast := hFits.last
  have hInside := hFits.inside
  rw [String.length_toList] at hLast hInside
  have hFinish := finish_eq hLines
  rcases Nat.lt_or_eq_of_le hNumber with hBefore | hEq
  · apply Token.precedes_of_before
    rw [Span.Before, hFinish, Position.lt_iff]
    exact .inl (hStop ▸ hBefore)
  · have hText := line?_length hLines
    rw [← hEq, hLine, Option.some.injEq] at hText
    constructor
    · rw [hFinish, Position.le_iff, ← hText]
      exact .inr ⟨hStop.trans hEq, hLast⟩
    · intro hWord
      rw [Span.Before, hFinish, Position.lt_iff, ← hText]
      exact .inr ⟨hStop.trans hEq,
        Nat.lt_succ_of_le (hInside hWord)⟩

/- The tokens that end a script share their place. -/
theorem inOrder_closing
    (levels : List Nat) :
    Token.InOrder (closing source.finish levels) := by
  have hFinish : source.finish.Proper :=
    Span.proper_point _ _
  unfold closing
  induction levels with
  | nil =>
      rw [List.map_nil, List.nil_append, Token.inOrder_cons]
      exact ⟨hFinish, by simp, Token.inOrder_nil⟩
  | cons level levels ih =>
      rw [List.map_cons, List.cons_append, Token.inOrder_cons]
      refine ⟨hFinish, ?_, ih⟩
      have hLater :
          ∀ later : Token, later.span = source.finish →
            Token.Precedes ⟨.dedent, source.finish⟩
              later := by
        intro later hSpan
        refine ⟨?_, nofun⟩
        rw [hSpan]
        exact Position.le_refl _
      rw [List.forall_mem_append, List.forall_mem_singleton]
      exact ⟨List.forall_mem_map.mpr fun _ _ =>
        hLater _ rfl, hLater _ rfl⟩

/- The tokens of a script come in order. -/
theorem inOrder_lex :
    Token.InOrder source.lex.tokens := by
  rw [lex_eq]
  refine source.inOrder_passage.tokens.append
    (source.inOrder_closing _) ?_
  intro token hToken later hLater
  rcases List.mem_append.mp hLater with hDedent | hEnd
  · rcases List.mem_map.mp hDedent with ⟨_, _, rfl⟩
    exact source.precedes_finish .dedent token hToken
  · rw [List.mem_singleton.mp hEnd]
    exact source.precedes_finish .endOfFile token hToken

/- So do the issues about its characters. -/
theorem inOrder_issues :
    Issue.InOrder source.lex.log.kept := by
  rw [kept_lex]
  exact source.inOrder_passage.issues.sublist
    (List.take_sublist _ _)

end Source

end Gantry
