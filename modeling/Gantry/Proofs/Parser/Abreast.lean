import Gantry.Proofs.Script.Moved
import Gantry.Proofs.Token.Layout

/-
  This file reads one line of a script twice: once on its
  own and once further down, between other lines. As long as
  neither reading has left the line, both stand at the same
  word of it and have reported the same issues about it, and
  nothing in front of the line or behind it makes a
  difference.

  Key definitions include:
    * `Gantry.Frame`
    * `Gantry.Frame.Within`
    * `Gantry.Frame.Outcome`
    * `Gantry.Frame.Agree`

  Main statements:
    * `Gantry.Frame.Outcome.bind`
    * `Gantry.Frame.outcome_commaList`
    * `Gantry.Frame.agree_expressionWithin`
    * `Gantry.Frame.agree_expression`
-/

------------------------------------------------------------
-- Two Places Of One Line
------------------------------------------------------------

namespace Gantry

/-
  Where one line stands in two token streams. Its number in
  the first one is given, and how many lines further down it
  is in the second. The token that ends it is given as well,
  with what follows it and what was reported before the line
  in either stream. No level is opened behind it.
-/
structure Frame where
  number : Nat
  lines : Nat
  mark : Token
  isNewline : mark.kind = .newline
  onLine : mark.span.On number
  tail : List Token
  flush : tail.head?.any (·.kind == .indent) = false
  otherTail : List Token
  otherFlush : otherTail.head?.any (·.kind == .indent) = false
  log : Log Issue
  otherLog : Log Issue

namespace Frame

variable (frame : Frame)

/-
  Both readings have the same words of the line before them,
  and have reported the same about it.
-/
structure Abreast
    (words : List Token)
    (issues : List Issue)
    (one other : Cursor) : Prop where
  words_flat :
    ∀ word ∈ words,
      word.kind.isLayout = false ∧
        word.span.On frame.number
  issues_on : ∀ issue ∈ issues, issue.span.On frame.number
  rest : one.rest = words ++ frame.mark :: frame.tail
  otherRest :
    other.rest =
      words.map (Token.down frame.lines) ++
        frame.mark.down frame.lines :: frame.otherTail
  logged : one.log = frame.log.pushAll issues
  otherLogged :
    other.log =
      frame.otherLog.pushAll
        (issues.map (Issue.down frame.lines))

/- So many words of the line are left at most. -/
def Within
    (count : Nat)
    (one other : Cursor) : Prop :=
  ∃ words issues,
    words.length ≤ count ∧
      frame.Abreast words issues one other

/- A span of the line and where it is further down. -/
def SpanPair
    (span other : Span) : Prop :=
  other = span.down frame.lines ∧ span.On frame.number

/- An expression of the line and where it is further down. -/
def ExprPair
    (expr other : Expr) : Prop :=
  other = expr.down frame.lines ∧
    expr.span.On frame.number

variable {frame}
variable {count : Nat}
variable {one other : Cursor}

theorem SpanPair.merge
    {s t u v : Span}
    (hFirst : frame.SpanPair s t)
    (hLast : frame.SpanPair u v) :
    frame.SpanPair (s.merge u) (t.merge v) := by
  rcases hFirst with ⟨rfl, hS⟩
  rcases hLast with ⟨rfl, hU⟩
  exact ⟨(Span.down_merge _ s u).symm, hS.merge hU⟩

theorem ExprPair.span
    {expr other : Expr}
    (hPair : frame.ExprPair expr other) :
    frame.SpanPair expr.span other.span := by
  rcases hPair with ⟨rfl, hOn⟩
  exact ⟨Expr.span_down _ expr, hOn⟩

namespace Within

theorem mono
    {more : Nat}
    (hWithin : frame.Within count one other)
    (hMore : count ≤ more) :
    frame.Within more one other := by
  rcases hWithin with ⟨words, issues, hCount, hAbreast⟩
  exact ⟨words, issues, Nat.le_trans hCount hMore, hAbreast⟩

theorem kind
    (hWithin : frame.Within count one other) :
    other.kind = one.kind := by
  rcases hWithin with ⟨words, issues, _, hAbreast⟩
  unfold Cursor.kind
  rw [hAbreast.rest, hAbreast.otherRest]
  cases words <;> rfl

theorem here
    (hWithin : frame.Within count one other) :
    frame.SpanPair one.here other.here := by
  rcases hWithin with ⟨words, issues, _, hAbreast⟩
  unfold Cursor.here
  rw [hAbreast.rest, hAbreast.otherRest]
  cases words with
  | nil => exact ⟨rfl, frame.onLine⟩
  | cons word words =>
      exact ⟨rfl,
        (hAbreast.words_flat word List.mem_cons_self).2⟩

/- The line goes on, or it ends here. -/
theorem kind_cases
    (hWithin : frame.Within count one other) :
    one.kind = .newline ∨ one.kind.isLayout = false := by
  rcases hWithin with ⟨words, issues, _, hAbreast⟩
  unfold Cursor.kind
  rw [hAbreast.rest]
  cases words with
  | nil => exact .inl frame.isNewline
  | cons word words =>
      exact .inr
        (hAbreast.words_flat word List.mem_cons_self).1

/- A word that is taken is no longer left. -/
theorem next
    (hWithin : frame.Within count one other)
    (hKind : one.kind ≠ .newline) :
    ∃ fewer < count,
      frame.Within fewer one.next other.next := by
  rcases hWithin with ⟨words, issues, hCount, hAbreast⟩
  cases words with
  | nil =>
      apply absurd frame.isNewline
      simpa [Cursor.kind, hAbreast.rest] using hKind
  | cons word words =>
      refine ⟨words.length, hCount, words, issues,
        Nat.le_refl _, ?_⟩
      have hRest := hAbreast.rest
      have hOther := hAbreast.otherRest
      have hLog := hAbreast.logged
      have hOtherLog := hAbreast.otherLogged
      refine ⟨fun token hToken => hAbreast.words_flat token
          (List.mem_cons_of_mem word hToken),
        hAbreast.issues_on, ?_, ?_, ?_, ?_⟩
      · simp [Cursor.next, hRest]
      · simp [Cursor.next, hOther]
      · simpa using hLog
      · simpa using hOtherLog

/- Both readings report the same about the line. -/
theorem report
    (hWithin : frame.Within count one other)
    (fault : Fault)
    {span otherSpan : Span}
    (hSpan : frame.SpanPair span otherSpan) :
    frame.Within count (one.report fault span)
      (other.report fault otherSpan) := by
  rcases hWithin with ⟨words, issues, hCount, hAbreast⟩
  rcases hSpan with ⟨rfl, hOn⟩
  refine ⟨words, issues ++ [⟨fault, span⟩], hCount,
    hAbreast.words_flat, ?_, hAbreast.rest,
    hAbreast.otherRest, ?_, ?_⟩
  · intro issue hIssue
    rcases List.mem_append.mp hIssue with hIssue | hIssue
    · exact hAbreast.issues_on issue hIssue
    · cases List.mem_singleton.mp hIssue
      exact hOn
  · simp [Cursor.report, hAbreast.logged, Log.pushAll]
  · simp [Cursor.report, hAbreast.otherLogged, Log.pushAll,
      Issue.down]

end Within

end Frame

end Gantry

------------------------------------------------------------
-- Readings That Agree
------------------------------------------------------------

namespace Gantry

namespace Frame

open Gantry.Parser

variable {α β γ δ : Type}

/-
  Both readings have yielded related values and stand where
  they should, or both have failed on the line.
-/
inductive Outcome
    (frame : Frame)
    (After : Cursor → Cursor → Prop)
    (Pair : α → β → Prop) :
    Option α × Cursor → Option β × Cursor → Prop where
  | gives {a : α} {b : β} {one other : Cursor}
      (hPair : Pair a b)
      (hAfter : After one other) :
      Outcome frame After Pair (some a, one) (some b, other)
  | fails {count : Nat} {one other : Cursor}
      (hWithin : frame.Within count one other) :
      Outcome frame After Pair (none, one) (none, other)

/- Two parsers agree on the line, however much is left. -/
def Agree
    (frame : Frame)
    (Pair : α → β → Prop)
    (parser : Parser α)
    (next : Parser β) : Prop :=
  ∀ count one other,
    frame.Within count one other →
    Outcome frame (frame.Within count) Pair
      (exec parser one) (exec next other)

variable {frame : Frame}
variable {After Later : Cursor → Cursor → Prop}
variable {Pair : α → β → Prop}
variable {Next : γ → δ → Prop}
variable {count : Nat}
variable {one other : Cursor}

/- What follows two readings that agree. -/
theorem Outcome.bind
    {parser : Parser α}
    {twin : Parser β}
    {rest : α → Parser γ}
    {others : β → Parser δ}
    (hFirst :
      Outcome frame After Pair (exec parser one)
        (exec twin other))
    (hRest :
      ∀ a b one other, Pair a b → After one other →
        Outcome frame Later Next (exec (rest a) one)
          (exec (others b) other)) :
    Outcome frame Later Next (exec (parser >>= rest) one)
      (exec (twin >>= others) other) := by
  rw [exec_bind, exec_bind]
  revert hFirst
  cases exec parser one with
  | mk value? after =>
      cases exec twin other with
      | mk other? behind =>
          intro hFirst
          cases hFirst with
          | gives hPair hAfter =>
              exact hRest _ _ _ _ hPair hAfter
          | fails hWithin => exact .fails hWithin

theorem Outcome.mono
    {x : Option α × Cursor}
    {y : Option β × Cursor}
    (hOutcome : Outcome frame After Pair x y)
    (hLater :
      ∀ one other, After one other → Later one other) :
    Outcome frame Later Pair x y := by
  cases hOutcome with
  | gives hPair hAfter =>
      exact .gives hPair (hLater _ _ hAfter)
  | fails hWithin => exact .fails hWithin

/- Fewer words are left than there might be. -/
theorem Outcome.within
    {fewer : Nat}
    {x : Option α × Cursor}
    {y : Option β × Cursor}
    (hOutcome : Outcome frame (frame.Within fewer) Pair x y)
    (hFewer : fewer ≤ count) :
    Outcome frame (frame.Within count) Pair x y :=
  hOutcome.mono fun _ _ hWithin => hWithin.mono hFewer

/- Both fail at the next token. -/
theorem outcome_rejectHere
    (hWithin : frame.Within count one other)
    (fault : Fault) :
    Outcome frame After Pair
      (exec (rejectHere fault) one)
      (exec (rejectHere fault) other) := by
  rw [exec_rejectHere, exec_rejectHere]
  exact .fails (hWithin.report fault hWithin.here)

theorem outcome_tooDeep
    (hWithin : frame.Within count one other) :
    Outcome frame After Pair (exec tooDeep one)
      (exec tooDeep other) :=
  outcome_rejectHere hWithin .nestingTooDeep

/- Both take a word of the line and go on behind it. -/
theorem outcome_advance
    {rest : Span → Parser α}
    {others : Span → Parser β}
    (hWithin : frame.Within count one other)
    (hKind : one.kind ≠ .newline)
    (hRest :
      ∀ fewer span otherSpan one other, fewer < count →
        frame.SpanPair span otherSpan →
        frame.Within fewer one other →
        Outcome frame After Pair (exec (rest span) one)
          (exec (others otherSpan) other)) :
    Outcome frame After Pair (exec (advance >>= rest) one)
      (exec (advance >>= others) other) := by
  rcases hWithin.next hKind with ⟨fewer, hFewer, hNext⟩
  rw [exec_advance_bind, exec_advance_bind]
  exact hRest fewer _ _ _ _ hFewer hWithin.here hNext

/- Both take the same branch. -/
theorem outcome_check
    {kind : TokenKind}
    {yes no : Parser α}
    {otherYes otherNo : Parser β}
    (hWithin : frame.Within count one other)
    (hYes :
      one.kind = kind →
        Outcome frame After Pair (exec yes one)
          (exec otherYes other))
    (hNo :
      Outcome frame After Pair (exec no one)
        (exec otherNo other)) :
    Outcome frame After Pair
      (exec (do if ← check kind then yes else no) one)
      (exec (do if ← check kind then otherYes else otherNo)
        other) := by
  rw [exec_check_branch, exec_check_branch, hWithin.kind]
  by_cases hKind : one.kind = kind
  · rw [if_pos hKind, if_pos hKind]
    exact hYes hKind
  · rw [if_neg hKind, if_neg hKind]
    exact hNo

theorem agree_expect
    {kind : TokenKind}
    (hKind : kind ≠ .newline) :
    Agree frame frame.SpanPair (expect kind)
      (expect kind) := by
  intro count one other hWithin
  rw [exec_expect, exec_expect, hWithin.kind]
  by_cases hFound : one.kind = kind
  · rw [if_pos hFound, if_pos hFound]
    rcases hWithin.next (hFound ▸ hKind) with
      ⟨fewer, hFewer, hNext⟩
    exact .gives hWithin.here
      (hNext.mono (Nat.le_of_lt hFewer))
  · rw [if_neg hFound, if_neg hFound]
    exact .fails (hWithin.report _ hWithin.here)

theorem agree_identifier :
    Agree frame
      (fun ident twin =>
        twin = ident.down frame.lines ∧
          ident.span.On frame.number)
      identifier identifier := by
  intro count one other hWithin
  rw [identifier, exec_peek_bind, exec_peek_bind,
    hWithin.kind]
  cases hKind : one.kind with
  | name word =>
      refine outcome_advance hWithin (by simp [hKind]) ?_
      rintro fewer span _ one other hFewer ⟨rfl, hOn⟩ hNext
      exact .gives ⟨rfl, hOn⟩
        (hNext.mono (Nat.le_of_lt hFewer))
  | keyword word => exact outcome_rejectHere hWithin _
  | _ => exact outcome_rejectHere hWithin _

end Frame

end Gantry

------------------------------------------------------------
-- Operators
------------------------------------------------------------

namespace Gantry

namespace Frame

open Gantry.Parser

variable {frame : Frame}

theorem ExprPair.join
    (op : BinaryOp)
    {left right twin other : Expr}
    (hLeft : frame.ExprPair left twin)
    (hRight : frame.ExprPair right other) :
    frame.ExprPair (Parser.join op left right)
      (Parser.join op twin other) := by
  have hSpan := hLeft.span.merge hRight.span
  rcases hLeft with ⟨rfl, _⟩
  rcases hRight with ⟨rfl, _⟩
  refine ⟨?_, hSpan.2⟩
  rw [Parser.join, Parser.join, hSpan.1]
  rfl

/- The further links of a chain, by induction on the room. -/
theorem agree_chain
    {op? : TokenKind → Option BinaryOp}
    (hOp : op? .newline = none)
    {operand : Nat → Parser Expr}
    (hOperand :
      ∀ room, Agree frame frame.ExprPair (operand room)
        (operand room))
    (room : Nat)
    {left twin : Expr}
    (hLeft : frame.ExprPair left twin) :
    Agree frame frame.ExprPair (chain op? operand room left)
      (chain op? operand room twin) := by
  have hWord :
      ∀ {kind : TokenKind} {op : BinaryOp},
        op? kind = some op → kind ≠ .newline := by
    rintro _ op hFound rfl
    rw [hOp] at hFound
    contradiction
  induction room generalizing left twin with
  | zero =>
      intro count one other hWithin
      rw [chain, chain, exec_peek_bind, exec_peek_bind,
        hWithin.kind]
      cases hFound : op? one.kind with
      | none => exact .gives hLeft hWithin
      | some op =>
          refine outcome_advance hWithin (hWord hFound) ?_
          intro _ _ _ _ _ _ _ hNext
          exact outcome_tooDeep hNext
  | succ room ih =>
      intro count one other hWithin
      rw [chain, chain, exec_peek_bind, exec_peek_bind,
        hWithin.kind]
      cases hFound : op? one.kind with
      | none => exact .gives hLeft hWithin
      | some op =>
          refine outcome_advance hWithin (hWord hFound) ?_
          intro fewer _ _ _ _ hFewer _ hNext
          refine (hOperand room _ _ _ hNext).bind ?_
          intro right otherRight one other hRight hWithin
          exact (ih (hLeft.join op hRight) _ _ _
            hWithin).within (Nat.le_of_lt hFewer)

theorem agree_level
    (op? : TokenKind → Option BinaryOp)
    (hOp : op? .newline = none)
    {operand : Nat → Parser Expr}
    (hOperand :
      ∀ room, Agree frame frame.ExprPair (operand room)
        (operand room))
    (room : Nat) :
    Agree frame frame.ExprPair (level op? operand room)
      (level op? operand room) := by
  intro count one other hWithin
  refine (hOperand room _ _ _ hWithin).bind ?_
  intro left twin one other hLeft hWithin
  exact agree_chain hOp hOperand room hLeft _ _ _ hWithin

theorem agree_prefixed
    (op : UnaryOp)
    (mark : TokenKind)
    (hMark : mark ≠ .newline)
    {operand : Nat → Parser Expr}
    (hOperand :
      ∀ room, Agree frame frame.ExprPair (operand room)
        (operand room))
    (room : Nat) :
    Agree frame frame.ExprPair
      (prefixed op mark operand room)
      (prefixed op mark operand room) := by
  induction room with
  | zero =>
      intro count one other hWithin
      refine outcome_check hWithin ?_
        (hOperand 0 _ _ _ hWithin)
      intro hKind
      refine outcome_advance hWithin (hKind ▸ hMark) ?_
      intro _ _ _ _ _ _ _ hNext
      exact outcome_tooDeep hNext
  | succ room ih =>
      intro count one other hWithin
      refine outcome_check hWithin ?_
        (hOperand (room + 1) _ _ _ hWithin)
      intro hKind
      refine outcome_advance hWithin (hKind ▸ hMark) ?_
      intro fewer start otherStart _ _ hFewer hStart hNext
      refine (ih _ _ _ hNext).bind ?_
      intro inner twin one other hInner hWithin
      have hSpan := hStart.merge hInner.span
      rcases hInner with ⟨rfl, _⟩
      refine .gives ⟨?_, hSpan.2⟩
        (hWithin.mono (Nat.le_of_lt hFewer))
      rw [hSpan.1]
      rfl

end Frame

end Gantry

------------------------------------------------------------
-- Primaries And Suffixes
------------------------------------------------------------

namespace Gantry

namespace Frame

open Gantry.Parser

variable {frame : Frame}

/- Expressions of the line and where they are further down. -/
def ListPair
    (frame : Frame)
    (items others : List Expr) : Prop :=
  others = Expr.listDown frame.lines items

/-
  Expressions between commas. The rounds are more than the
  words that are left, in either reading, so that neither
  runs out of them.
-/
theorem outcome_commaList
    {item : Parser Expr}
    (hItem : Agree frame frame.ExprPair item item)
    (close : Symbol)
    {rounds others : List Token}
    {count : Nat}
    {one other : Cursor}
    (hWithin : frame.Within count one other)
    (hRounds : count < rounds.length)
    (hOthers : count < others.length) :
    Outcome frame (frame.Within count) frame.ListPair
      (exec (commaList item close rounds) one)
      (exec (commaList item close others) other) := by
  induction rounds generalizing others count one other with
  | nil => exact absurd hRounds (Nat.not_lt_zero count)
  | cons token rounds ih =>
      cases others with
      | nil => exact absurd hOthers (Nat.not_lt_zero count)
      | cons twin others =>
          refine outcome_check hWithin
            (fun _ => .gives rfl hWithin) ?_
          refine (hItem _ _ _ hWithin).bind ?_
          intro first otherFirst one other hFirst hWithin
          rw [exec_eat_bind, exec_eat_bind, hWithin.kind]
          by_cases hComma : one.kind = .symbol .comma
          · rw [if_pos hComma, if_pos hComma]
            rcases hWithin.next (by simp [hComma]) with
              ⟨fewer, hFewer, hNext⟩
            rw [List.length_cons] at hRounds hOthers
            refine (ih hNext (by omega) (by omega)).bind ?_
            rintro items _ one other rfl hWithin
            refine .gives ?_
              (hWithin.mono (Nat.le_of_lt hFewer))
            rw [ListPair, Expr.listDown, hFirst.1]
          · rw [if_neg hComma, if_neg hComma]
            refine .gives ?_ hWithin
            rw [ListPair, Expr.listDown, hFirst.1]
            rfl

theorem agree_enclosed
    {item : Parser Expr}
    (hItem : Agree frame frame.ExprPair item item)
    (close : Symbol) :
    Agree frame
      (fun a b =>
        frame.ListPair a.1 b.1 ∧ frame.SpanPair a.2 b.2)
      (enclosed item close) (enclosed item close) := by
  rintro count one other ⟨words, issues, hCount, hAbreast⟩
  -- The two streams differ in length, but either has more
  -- tokens than the line has words left.
  have hExact : frame.Within words.length one other :=
    ⟨words, issues, Nat.le_refl _, hAbreast⟩
  have hItems :=
    outcome_commaList hItem close hExact
      (by simp [hAbreast.rest] : _ < one.rest.length)
      (by simp [hAbreast.otherRest] : _ < other.rest.length)
  refine Outcome.within ?_ hCount
  refine hItems.bind ?_
  intro items others one other hItems hWithin
  refine (agree_expect (by simp) _ _ _ hWithin).bind ?_
  intro stop otherStop one other hStop hWithin
  exact .gives ⟨hItems, hStop⟩ hWithin

/- A literal, or nothing that starts an expression. -/
theorem outcome_literal
    {count : Nat}
    {one other : Cursor}
    (hWithin : frame.Within count one other)
    (found : TokenKind)
    (hFound : one.kind = found) :
    Outcome frame (frame.Within count) frame.ExprPair
      (exec (match literal? found with
        | some value => do
            let _ ← advance
            return .literal value one.here
        | none => rejectHere (.expectedExpression found)) one)
      (exec (match literal? found with
        | some value => do
            let _ ← advance
            return .literal value other.here
        | none => rejectHere (.expectedExpression found))
        other) := by
  have hHere := hWithin.here
  cases hValue : literal? found with
  | none => exact outcome_rejectHere hWithin _
  | some value =>
      refine outcome_advance hWithin ?_ ?_
      · rintro hKind
        rw [← hFound, hKind] at hValue
        contradiction
      · intro fewer _ _ _ _ hFewer _ hNext
        refine .gives ⟨?_, hHere.2⟩
          (hNext.mono (Nat.le_of_lt hFewer))
        rw [hHere.1]
        rfl

theorem agree_primary
    {inner : Parser Expr}
    (hInner : Agree frame frame.ExprPair inner inner) :
    Agree frame frame.ExprPair (primary inner)
      (primary inner) := by
  intro count one other hWithin
  have hHere := hWithin.here
  rw [primary, exec_here_bind, exec_here_bind,
    exec_peek_bind, exec_peek_bind, hWithin.kind]
  cases hKind : one.kind with
  | name word =>
      refine outcome_advance hWithin (by simp [hKind]) ?_
      intro fewer _ _ _ _ hFewer _ hNext
      refine .gives ⟨?_, hHere.2⟩
        (hNext.mono (Nat.le_of_lt hFewer))
      rw [hHere.1]
      rfl
  | symbol mark =>
      cases mark with
      | leftBracket =>
          refine outcome_advance hWithin (by simp [hKind]) ?_
          intro fewer _ _ _ _ hFewer _ hNext
          refine (agree_enclosed hInner .rightBracket _ _ _
            hNext).bind ?_
          rintro ⟨items, stop⟩ ⟨others, otherStop⟩ one other
            ⟨rfl, hStop⟩ hWithin
          have hSpan := hHere.merge hStop
          refine .gives ⟨?_, hSpan.2⟩
            (hWithin.mono (Nat.le_of_lt hFewer))
          rw [Expr.down, hSpan.1]
      | leftParen =>
          refine outcome_advance hWithin (by simp [hKind]) ?_
          intro fewer _ _ _ _ hFewer _ hNext
          refine (hInner _ _ _ hNext).bind ?_
          rintro expr _ one other ⟨rfl, _⟩ hWithin
          refine (agree_expect (by simp) _ _ _
            hWithin).bind ?_
          intro stop otherStop one other hStop hWithin
          have hSpan := hHere.merge hStop
          refine .gives ⟨?_, ?_⟩
            (hWithin.mono (Nat.le_of_lt hFewer))
          · rw [Expr.down_withSpan, hSpan.1]
          · rw [Expr.span_withSpan]
            exact hSpan.2
      | _ => exact outcome_literal hWithin _ hKind
  | _ => exact outcome_literal hWithin _ hKind

theorem outcome_suffix
    {inner : Parser Expr}
    (hInner : Agree frame frame.ExprPair inner inner)
    {object twin : Expr}
    (hObject : frame.ExprPair object twin)
    {count : Nat}
    {one other : Cursor}
    (hWithin : frame.Within count one other)
    (hStarts : startsSuffix one.kind = true) :
    Outcome frame (frame.Within count) frame.ExprPair
      (exec (suffix inner object) one)
      (exec (suffix inner twin) other) := by
  have hWord : one.kind ≠ .newline := by
    intro hKind
    rw [hKind] at hStarts
    contradiction
  rw [suffix, suffix, exec_peek_bind, exec_peek_bind,
    hWithin.kind]
  have hSpan := hObject.span
  rcases hObject with ⟨rfl, _⟩
  split
  · refine outcome_advance hWithin hWord ?_
    intro fewer _ _ _ _ hFewer _ hNext
    refine (agree_enclosed hInner .rightParen _ _ _
      hNext).bind ?_
    rintro ⟨args, stop⟩ ⟨others, otherStop⟩ one other
      ⟨rfl, hStop⟩ hWithin
    refine .gives ⟨?_, (hSpan.merge hStop).2⟩
      (hWithin.mono (Nat.le_of_lt hFewer))
    rw [Expr.down, (hSpan.merge hStop).1]
  · refine outcome_advance hWithin hWord ?_
    intro fewer _ _ _ _ hFewer _ hNext
    refine (hInner _ _ _ hNext).bind ?_
    rintro key _ one other ⟨rfl, _⟩ hWithin
    refine (agree_expect (by simp) _ _ _ hWithin).bind ?_
    intro stop otherStop one other hStop hWithin
    refine .gives ⟨?_, (hSpan.merge hStop).2⟩
      (hWithin.mono (Nat.le_of_lt hFewer))
    rw [Expr.down, (hSpan.merge hStop).1]
  · refine outcome_advance hWithin hWord ?_
    intro fewer _ _ _ _ hFewer _ hNext
    refine (agree_identifier _ _ _ hNext).bind ?_
    rintro field _ one other ⟨rfl, hField⟩ hWithin
    have hMerged :
        frame.SpanPair (object.span.merge field.span)
          ((object.down frame.lines).span.merge
            (field.down frame.lines).span) :=
      hSpan.merge ⟨rfl, hField⟩
    refine .gives ⟨?_, hMerged.2⟩
      (hWithin.mono (Nat.le_of_lt hFewer))
    rw [Expr.down, hMerged.1]

/- Suffixes one after the other, by induction on the room. -/
theorem agree_suffixes
    {inner : Nat → Parser Expr}
    (hInner :
      ∀ room, Agree frame frame.ExprPair (inner room)
        (inner room))
    (room : Nat)
    {object twin : Expr}
    (hObject : frame.ExprPair object twin) :
    Agree frame frame.ExprPair (suffixes inner room object)
      (suffixes inner room twin) := by
  induction room generalizing object twin with
  | zero =>
      intro count one other hWithin
      rw [suffixes, suffixes, exec_peek_bind, exec_peek_bind,
        hWithin.kind]
      split
      · exact outcome_tooDeep hWithin
      · exact .gives hObject hWithin
  | succ room ih =>
      intro count one other hWithin
      rw [suffixes, suffixes, exec_peek_bind, exec_peek_bind,
        hWithin.kind]
      split
      · rename_i hStarts
        refine (outcome_suffix (hInner room) hObject hWithin
          hStarts).bind ?_
        intro longer twin one other hLonger hWithin
        exact ih hLonger _ _ _ hWithin
      · exact .gives hObject hWithin

theorem agree_operand
    {inner : Nat → Parser Expr}
    (hInner :
      ∀ room, Agree frame frame.ExprPair (inner room)
        (inner room))
    (room : Nat) :
    Agree frame frame.ExprPair (operand inner room)
      (operand inner room) := by
  intro count one other hWithin
  refine (agree_primary (hInner room) _ _ _ hWithin).bind ?_
  intro object twin one other hObject hWithin
  exact agree_suffixes hInner room hObject _ _ _ hWithin

end Frame

end Gantry

------------------------------------------------------------
-- Levels
------------------------------------------------------------

namespace Gantry

namespace Frame

open Gantry.Parser

variable {frame : Frame}

/- No operator is the end of a line. -/
theorem agree_disjunction
    {inner : Nat → Parser Expr}
    (hInner :
      ∀ room, Agree frame frame.ExprPair (inner room)
        (inner room))
    (room : Nat) :
    Agree frame frame.ExprPair (disjunction inner room)
      (disjunction inner room) := by
  apply agree_level orOp? rfl
  apply agree_level andOp? rfl
  apply agree_prefixed .not (.keyword .notWord) (by simp)
  apply agree_level comparisonOp? rfl
  apply agree_level sumOp? rfl
  apply agree_level productOp? rfl
  apply agree_prefixed .neg (.symbol .minus) (by simp)
  exact agree_operand hInner

theorem agree_expressionWithin
    (brackets room : Nat) :
    Agree frame frame.ExprPair
      (expressionWithin brackets room)
      (expressionWithin brackets room) := by
  induction brackets generalizing room with
  | zero =>
      intro count one other hWithin
      exact outcome_tooDeep hWithin
  | succ brackets ih =>
      cases room with
      | zero =>
          intro count one other hWithin
          exact outcome_tooDeep hWithin
      | succ room => exact agree_disjunction ih room

theorem agree_expression :
    Agree frame frame.ExprPair expression expression :=
  agree_expressionWithin maxNesting maxNesting

end Frame

end Gantry
