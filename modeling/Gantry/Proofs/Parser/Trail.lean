import Gantry.Proofs.Parser.Quiet
import Gantry.Proofs.Script.Nested
import Gantry.Proofs.Script.Words

/-
  This file follows the spans that a parser has passed. They
  stand one behind the other, and in front of all that is
  still to be read. What covers the last few of them takes
  their place, so that the tree of an expression nests.

  The issues reported so far stand in order as well, and none
  of them behind the next token.

  Key definitions include:
    * `Gantry.Cursor.InOrder`
    * `Gantry.Cursor.Trail`
    * `Gantry.Parser.Onward`
    * `Gantry.Parser.Passes`

  Main statements:
    * `Gantry.Cursor.Trail.word`
    * `Gantry.Cursor.Trail.report`
    * `Gantry.Cursor.Trail.merge`
    * `Gantry.Parser.Passes.bind`
    * `Gantry.Parser.passes_expression`
-/

------------------------------------------------------------
-- Cursors In Order
------------------------------------------------------------

namespace Gantry

namespace Cursor

/-
  The tokens ahead come in order, and the last of them ends
  the file. Nothing that was taken or reported stands behind
  the next token.
-/
structure InOrder
    (cursor : Cursor) : Prop where
  tokens : Token.InOrder cursor.rest
  ends : ∃ token ∈ cursor.rest, token.kind = .endOfFile
  behind : cursor.previous.stop ≤ cursor.here.start
  issues : Issue.InOrder cursor.log.kept
  passed :
    ∀ issue ∈ cursor.log.kept,
      issue.span.start ≤ cursor.here.start

variable {cursor : Cursor}

theorem InOrder.proper_here
    (hOrder : cursor.InOrder) :
    cursor.here.Proper := by
  rcases cursor with ⟨rest, previous, log⟩
  cases rest with
  | nil => simpa using hOrder.ends
  | cons token rest =>
      exact hOrder.tokens.proper token List.mem_cons_self

/- Behind a token that does not end the file is another. -/
theorem InOrder.rest_eq
    (hOrder : cursor.InOrder)
    (hKind : cursor.kind ≠ .endOfFile) :
    ∃ token later rest,
      cursor.rest = token :: later :: rest := by
  rcases cursor with ⟨rest, previous, log⟩
  rcases hOrder.ends with ⟨last, hLast, hEnd⟩
  cases rest with
  | nil => contradiction
  | cons token rest =>
      cases rest with
      | nil =>
          rw [List.mem_singleton.mp hLast] at hEnd
          exact absurd hEnd hKind
      | cons later rest => exact ⟨token, later, rest, rfl⟩

/- The next token stands in front of the one behind it. -/
theorem InOrder.precedes
    (hOrder : cursor.InOrder)
    (hKind : cursor.kind ≠ .endOfFile) :
    Token.Precedes ⟨cursor.kind, cursor.here⟩
      ⟨cursor.next.kind, cursor.next.here⟩ := by
  rcases hOrder.rest_eq hKind with
    ⟨token, later, rest, hRest⟩
  rcases cursor with ⟨tokens, previous, log⟩
  subst hRest
  exact (Token.inOrder_cons.mp hOrder.tokens).2.1 later
    List.mem_cons_self

theorem InOrder.previous_next
    (hOrder : cursor.InOrder)
    (hKind : cursor.kind ≠ .endOfFile) :
    cursor.next.previous = cursor.here := by
  rcases hOrder.rest_eq hKind with
    ⟨token, later, rest, hRest⟩
  unfold Cursor.next Cursor.here
  rw [hRest]

theorem InOrder.stop_le_next
    (hOrder : cursor.InOrder)
    (hKind : cursor.kind ≠ .endOfFile) :
    cursor.previous.stop ≤ cursor.next.previous.stop := by
  rw [hOrder.previous_next hKind]
  exact Position.le_trans hOrder.behind hOrder.proper_here

theorem InOrder.next
    (hOrder : cursor.InOrder)
    (hKind : cursor.kind ≠ .endOfFile) :
    cursor.next.InOrder := by
  have hPrecedes := hOrder.precedes hKind
  have hStart := hPrecedes.start_le hOrder.proper_here
  rcases hOrder.rest_eq hKind with
    ⟨token, later, rest, hRest⟩
  rcases hOrder.ends with ⟨last, hLast, hEnd⟩
  rcases cursor with ⟨tokens, previous, log⟩
  subst hRest
  refine ⟨(Token.inOrder_cons.mp hOrder.tokens).2.2,
    ⟨last, ?_, hEnd⟩, hPrecedes.le, hOrder.issues, ?_⟩
  · refine (List.mem_cons.mp hLast).resolve_left ?_
    rintro rfl
    exact hKind hEnd
  · intro issue hIssue
    exact Position.le_trans (hOrder.passed issue hIssue)
      hStart

end Cursor

end Gantry

------------------------------------------------------------
-- Trails
------------------------------------------------------------

namespace Gantry

namespace Cursor

/-
  The spans that were passed on the way from one cursor to
  another, one behind the other.
-/
structure Trail
    (origin : Cursor)
    (passed : List Span)
    (cursor : Cursor) : Prop where
  order : cursor.InOrder
  here : origin.here.start ≤ cursor.here.start
  previous : origin.previous.stop ≤ cursor.previous.stop
  proper : ∀ span ∈ passed, span.Proper
  starts : ∀ span ∈ passed, origin.here.start ≤ span.start
  stops : ∀ span ∈ passed, span.stop ≤ cursor.previous.stop
  clear : ∀ span ∈ passed, span.stop < cursor.here.start
  ordered : passed.Pairwise Span.Before

variable
    {origin cursor : Cursor}
    {passed : List Span}

theorem InOrder.trail
    (hOrder : cursor.InOrder) :
    Trail cursor [] cursor :=
  ⟨hOrder, Position.le_refl _, Position.le_refl _,
    by simp, by simp, by simp, by simp, .nil⟩

/- One trail may be followed by another. -/
theorem Trail.append
    {after : Cursor}
    {more : List Span}
    (hPassed : Trail origin passed cursor)
    (hMore : Trail cursor more after) :
    Trail origin (passed ++ more) after where
  order := hMore.order
  here := Position.le_trans hPassed.here hMore.here
  previous :=
    Position.le_trans hPassed.previous hMore.previous
  proper :=
    List.forall_mem_append.mpr
      ⟨hPassed.proper, hMore.proper⟩
  starts :=
    List.forall_mem_append.mpr
      ⟨hPassed.starts, fun span hSpan =>
        Position.le_trans hPassed.here
          (hMore.starts span hSpan)⟩
  stops :=
    List.forall_mem_append.mpr
      ⟨fun span hSpan =>
        Position.le_trans (hPassed.stops span hSpan)
          hMore.previous,
        hMore.stops⟩
  clear :=
    List.forall_mem_append.mpr
      ⟨fun span hSpan =>
        Position.lt_of_lt_of_le (hPassed.clear span hSpan)
          hMore.here,
        hMore.clear⟩
  ordered :=
    List.pairwise_append.mpr
      ⟨hPassed.ordered, hMore.ordered,
        fun span hSpan later hLater =>
          Position.lt_of_lt_of_le (hPassed.clear span hSpan)
            (hMore.starts later hLater)⟩

theorem Trail.sublist
    {fewer : List Span}
    (hTrail : Trail origin passed cursor)
    (hFewer : fewer.Sublist passed) :
    Trail origin fewer cursor where
  order := hTrail.order
  here := hTrail.here
  previous := hTrail.previous
  proper span hSpan := hTrail.proper span (hFewer.mem hSpan)
  starts span hSpan := hTrail.starts span (hFewer.mem hSpan)
  stops span hSpan := hTrail.stops span (hFewer.mem hSpan)
  clear span hSpan := hTrail.clear span (hFewer.mem hSpan)
  ordered := hTrail.ordered.sublist hFewer

/- A token may be taken, unless it ends the file. -/
theorem Trail.next
    (hTrail : Trail origin passed cursor)
    (hKind : cursor.kind ≠ .endOfFile) :
    Trail origin passed cursor.next := by
  have hOrder := hTrail.order
  have hStart :=
    (hOrder.precedes hKind).start_le hOrder.proper_here
  have hBehind := hOrder.stop_le_next hKind
  refine ⟨hOrder.next hKind,
    Position.le_trans hTrail.here hStart,
    Position.le_trans hTrail.previous hBehind,
    hTrail.proper, hTrail.starts, ?_, ?_, hTrail.ordered⟩
  · intro span hSpan
    exact Position.le_trans (hTrail.stops span hSpan)
      hBehind
  · intro span hSpan
    exact Position.lt_of_lt_of_le (hTrail.clear span hSpan)
      hStart

/- A word that is taken comes behind what was passed. -/
theorem Trail.word
    (hTrail : Trail origin passed cursor)
    (hWord : cursor.kind.endsLine = false) :
    Trail origin (passed ++ [cursor.here]) cursor.next := by
  have hOrder := hTrail.order
  have hKind : cursor.kind ≠ .endOfFile := by
    intro hEnd
    rw [hEnd] at hWord
    contradiction
  have hNext := hTrail.next hKind
  have hPrevious := hOrder.previous_next hKind
  refine ⟨hNext.order, hNext.here, hNext.previous,
    ?_, ?_, ?_, ?_, ?_⟩
  · exact List.forall_mem_append.mpr
      ⟨hNext.proper, by simpa using hOrder.proper_here⟩
  · exact List.forall_mem_append.mpr
      ⟨hNext.starts, by simpa using hTrail.here⟩
  · refine List.forall_mem_append.mpr ⟨hNext.stops, ?_⟩
    rw [List.forall_mem_singleton, hPrevious]
    exact Position.le_refl _
  · refine List.forall_mem_append.mpr ⟨hNext.clear, ?_⟩
    rw [List.forall_mem_singleton]
    exact (hOrder.precedes hKind).lt hWord
  · refine List.pairwise_append.mpr
      ⟨hTrail.ordered, List.pairwise_singleton _ _, ?_⟩
    intro span hSpan later hLater
    rw [List.mem_singleton.mp hLater]
    exact hTrail.clear span hSpan

theorem Trail.word_of_kind
    {kind : TokenKind}
    (hTrail : Trail origin passed cursor)
    (hKind : cursor.kind = kind)
    (hWord : kind.endsLine = false) :
    Trail origin (passed ++ [cursor.here]) cursor.next :=
  hTrail.word (by rw [hKind, hWord])

/- The first word on the way. -/
theorem InOrder.word
    {kind : TokenKind}
    (hOrder : cursor.InOrder)
    (hKind : cursor.kind = kind)
    (hWord : kind.endsLine = false) :
    Trail cursor [cursor.here] cursor.next :=
  hOrder.trail.word_of_kind hKind hWord

/-
  An issue may be reported at a place that none of the
  earlier ones is behind.
-/
theorem Trail.report
    {span : Span}
    (hTrail : Trail origin passed cursor)
    (fault : Fault)
    (hIssues :
      ∀ issue ∈ cursor.log.kept,
        issue.span.start ≤ span.start)
    (hHere : span.start ≤ cursor.here.start) :
    Trail origin passed (cursor.report fault span) := by
  have hOrder := hTrail.order
  have hReported : (cursor.report fault span).InOrder := by
    refine ⟨hOrder.tokens, hOrder.ends, hOrder.behind,
      ?_, ?_⟩
    · unfold Cursor.report Log.push
      dsimp only
      split
      · refine List.pairwise_append.mpr
          ⟨hOrder.issues, List.pairwise_singleton _ _, ?_⟩
        intro issue hIssue later hLater
        rw [List.mem_singleton.mp hLater]
        exact hIssues issue hIssue
      · exact hOrder.issues
    · unfold Cursor.report Log.push
      dsimp only
      split
      · exact List.forall_mem_append.mpr
          ⟨hOrder.passed,
            List.forall_mem_singleton.mpr hHere⟩
      · exact hOrder.passed
  exact ⟨hReported, hTrail.here, hTrail.previous,
    hTrail.proper, hTrail.starts, hTrail.stops,
    hTrail.clear, hTrail.ordered⟩

theorem Trail.reportHere
    (hTrail : Trail origin passed cursor)
    (fault : Fault) :
    Trail origin passed
      (cursor.report fault cursor.here) :=
  hTrail.report fault hTrail.order.passed
    (Position.le_refl _)

/- What covers the spans takes their place. -/
theorem Trail.merge
    {first last : Span}
    {rest : List Span}
    (hTrail : Trail origin (first :: rest) cursor)
    (hLast : rest.getLast? = some last) :
    (first.merge last).Encloses (first :: rest) ∧
      Trail origin [first.merge last] cursor := by
  rcases List.getLast?_eq_some_iff.mp hLast with
    ⟨inner, rfl⟩
  have hFirst : first ∈ first :: (inner ++ [last]) := by simp
  have hEnd : last ∈ first :: (inner ++ [last]) := by simp
  rcases Span.encloses_merge hTrail.proper hTrail.ordered
    with ⟨hBefore, hEncloses⟩
  refine ⟨hEncloses, ?_⟩
  rw [hBefore.merge_eq (hTrail.proper _ hFirst)
    (hTrail.proper _ hEnd)] at *
  exact ⟨hTrail.order, hTrail.here, hTrail.previous,
    List.forall_mem_singleton.mpr hEncloses.proper,
    List.forall_mem_singleton.mpr
      (hTrail.starts first hFirst),
    List.forall_mem_singleton.mpr (hTrail.stops last hEnd),
    List.forall_mem_singleton.mpr (hTrail.clear last hEnd),
    List.pairwise_singleton _ _⟩

end Cursor

end Gantry

------------------------------------------------------------
-- Dropped Tokens
------------------------------------------------------------

namespace Gantry

namespace Parser

/-
  What stays true of a span and the tokens behind it when
  one of them is taken that does not end the file.
-/
def Taking
    (good : Span → List Token → Prop) : Prop :=
  ∀ (previous : Span) (token : Token) (rest : List Token),
    token.kind ≠ .endOfFile →
      good previous (token :: rest) → good token.span rest

variable
    {good : Span → List Token → Prop}
    {previous : Span}
    {tokens : List Token}

theorem Taking.dropNewlines
    (hTaking : Taking good)
    (hGood : good previous tokens) :
    good (dropNewlines previous tokens).1
      (dropNewlines previous tokens).2 := by
  induction tokens generalizing previous with
  | nil => exact hGood
  | cons token rest ih =>
      rw [Parser.dropNewlines]
      split
      · rename_i hKind
        exact ih (hTaking _ _ _ (by simp [hKind]) hGood)
      · exact hGood

theorem Taking.dropRegion
    (hTaking : Taking good)
    (depth : Nat)
    (hGood : good previous tokens) :
    good (dropRegion depth previous tokens).1
      (dropRegion depth previous tokens).2 := by
  induction tokens generalizing depth previous with
  | nil => exact hGood
  | cons token rest ih =>
      rw [Parser.dropRegion]
      split
      · exact hGood
      · rename_i hKind
        exact ih _ (hTaking _ _ _ (by simp [hKind]) hGood)
      · rename_i hKind
        have hRest :=
          hTaking _ _ _ (by simp [hKind]) hGood
        split
        · exact hRest
        · exact ih _ hRest
      · rename_i hEnd _ _
        exact ih _ (hTaking _ _ _ hEnd hGood)

theorem Taking.dropLine
    (hTaking : Taking good)
    (hGood : good previous tokens) :
    good (dropLine previous tokens).1
      (dropLine previous tokens).2 := by
  induction tokens generalizing previous with
  | nil => exact hGood
  | cons token rest ih =>
      rw [Parser.dropLine]
      split
      · exact hGood
      · exact hGood
      · exact hGood
      · rename_i hKind
        have hRest :=
          hTaking _ _ _ (by simp [hKind]) hGood
        split
        · exact hTaking.dropRegion 0 hRest
        · exact hRest
      · rename_i hEnd _ _ _
        exact ih (hTaking _ _ _ hEnd hGood)

end Parser

namespace Cursor

variable
    {origin cursor : Cursor}
    {passed : List Span}

theorem taking_trail
    (origin : Cursor)
    (passed : List Span)
    (log : Log Issue) :
    Parser.Taking fun previous tokens =>
      Trail origin passed ⟨tokens, previous, log⟩ :=
  fun _ _ _ hKind hTrail => hTrail.next hKind

theorem Trail.pastNewlines
    (hTrail : Trail origin passed cursor) :
    Trail origin passed cursor.pastNewlines :=
  (taking_trail origin passed cursor.log).dropNewlines
    hTrail

theorem Trail.synchronized
    (hTrail : Trail origin passed cursor) :
    Trail origin passed cursor.synchronized :=
  (taking_trail origin passed cursor.log).dropLine hTrail

end Cursor

end Gantry

------------------------------------------------------------
-- Parsers On A Trail
------------------------------------------------------------

namespace Gantry

namespace Parser

open Cursor (Trail)

variable
    {α β : Type}
    {origin cursor : Cursor}
    {passed : List Span}

/-
  Wherever reading has stopped, the cursor is in order, and
  `post` describes what was yielded.
-/
def Onward
    (origin : Cursor)
    (result : Option α × Cursor)
    (post : α → Cursor → Prop) : Prop :=
  Trail origin [] result.2 ∧
    ∀ value, result.1 = some value → post value result.2

/- The parser passes the given spans of what it yields. -/
def Passes
    (parser : Parser α)
    (good : α → Prop)
    (spans : α → List Span) : Prop :=
  ∀ cursor : Cursor, cursor.InOrder →
    Onward cursor (exec parser cursor) fun value after =>
      good value ∧ Trail cursor (spans value) after

variable {post : α → Cursor → Prop}

theorem onward_pure
    {value : α}
    (hTrail : Trail origin passed cursor)
    (hPost : post value cursor) :
    Onward origin (exec (pure value) cursor) post := by
  refine ⟨hTrail.sublist (List.nil_sublist _), ?_⟩
  rintro _ ⟨⟩
  exact hPost

theorem onward_rejectHere
    (hTrail : Trail origin passed cursor)
    (fault : Fault) :
    Onward origin (exec (rejectHere fault) cursor) post :=
  ⟨(hTrail.reportHere fault).sublist (List.nil_sublist _),
    nofun⟩

/- What follows goes on where the first step has stopped. -/
theorem Onward.bind
    {parser : Parser α}
    {next : α → Parser β}
    {post : β → Cursor → Prop}
    {middle : α → Cursor → Prop}
    (hFirst : Onward origin (exec parser cursor) middle)
    (hNext :
      ∀ value after,
        middle value after →
          Onward origin (exec (next value) after) post) :
    Onward origin (exec (parser >>= next) cursor) post := by
  rw [exec_bind]
  cases hExec : exec parser cursor with
  | mk value? after =>
      rw [hExec] at hFirst
      cases value? with
      | none => exact ⟨hFirst.1, nofun⟩
      | some value =>
          exact hNext value after (hFirst.2 value rfl)

/- The same result, seen from an earlier cursor. -/
theorem Onward.after
    {result : Option α × Cursor}
    {middle : α → Cursor → Prop}
    (hOnward : Onward cursor result middle)
    (hTrail : Trail origin passed cursor)
    (hPost :
      ∀ value after, middle value after → post value after) :
    Onward origin result post :=
  ⟨(hTrail.append hOnward.1).sublist (List.nil_sublist _),
    fun value hValue =>
      hPost value _ (hOnward.2 value hValue)⟩

theorem Passes.bind
    {parser : Parser α}
    {good : α → Prop}
    {spans : α → List Span}
    {next : α → Parser β}
    {post : β → Cursor → Prop}
    (hParser : Passes parser good spans)
    (hTrail : Trail origin passed cursor)
    (hNext :
      ∀ value after,
        good value →
          Trail origin (passed ++ spans value) after →
            Onward origin (exec (next value) after) post) :
    Onward origin (exec (parser >>= next) cursor) post := by
  have hFirst :
      Onward origin (exec parser cursor) fun value after =>
        good value ∧
          Trail origin (passed ++ spans value) after :=
    (hParser cursor hTrail.order).after hTrail
      fun _ _ hValue =>
        ⟨hValue.1, hTrail.append hValue.2⟩
  exact hFirst.bind fun value after hValue =>
    hNext value after hValue.1 hValue.2

/- What is yielded is not described any further. -/
def Anything
    (_ : α) : Prop := True

theorem passes_expect
    {kind : TokenKind}
    (hWord : kind.endsLine = false) :
    Passes (expect kind) Anything fun span => [span] := by
  intro cursor hOrder
  have hTrail := hOrder.trail
  rw [expect, exec_peek_bind]
  split
  · rename_i hKind
    rw [beq_iff_eq] at hKind
    have hNext := hOrder.word hKind hWord
    exact onward_pure hNext ⟨trivial, hNext⟩
  · exact onward_rejectHere hTrail _

theorem passes_identifier :
    Passes identifier Anything fun ident =>
      [ident.span] := by
  intro cursor hOrder
  have hTrail := hOrder.trail
  rw [identifier, exec_peek_bind]
  split
  · rename_i name hKind
    have hNext := hOrder.word hKind rfl
    exact onward_pure hNext ⟨trivial, hNext⟩
  · exact onward_rejectHere hTrail _
  · exact onward_rejectHere hTrail _

end Parser

end Gantry

------------------------------------------------------------
-- Chains And Prefixes
------------------------------------------------------------

namespace Gantry

namespace Parser

open Cursor (Trail)

/- The parser yields nested expressions. -/
def PassesExpr
    (parser : Parser Expr) : Prop :=
  Passes parser Expr.Nested fun expr => [expr.span]

/- The table lists no kind that ends a line. -/
def Inline
    (op? : TokenKind → Option BinaryOp) : Prop :=
  ∀ kind op, op? kind = some op → kind.endsLine = false

variable
    {op? : TokenKind → Option BinaryOp}
    {operand : Nat → Parser Expr}
    {origin cursor : Cursor}

theorem inline_of_kind
    (hOp :
      ∀ kind op, op? kind = some op → kind = op.kind) :
    Inline op? := by
  intro kind op hFound
  rw [hOp kind op hFound]
  cases op <;> rfl

theorem passes_tooDeep :
    PassesExpr tooDeep :=
  fun _ hOrder => onward_rejectHere hOrder.trail _

/- Every link covers the links in front of it. -/
theorem onward_chain
    (hInline : Inline op?)
    (hOperand : ∀ room, PassesExpr (operand room))
    (room : Nat)
    {left : Expr}
    (hLeft : left.Nested)
    (hTrail : Trail origin [left.span] cursor) :
    Onward origin
      (exec (chain op? operand room left) cursor)
      fun expr after =>
        expr.Nested ∧ Trail origin [expr.span] after := by
  induction room generalizing left cursor with
  | zero =>
      rw [chain, exec_peek_bind]
      split
      · exact onward_pure hTrail ⟨hLeft, hTrail⟩
      · rename_i op hFound
        have hNext := hTrail.word (hInline _ op hFound)
        exact onward_rejectHere hNext _
  | succ room ih =>
      rw [chain, exec_peek_bind]
      split
      · exact onward_pure hTrail ⟨hLeft, hTrail⟩
      · rename_i op hFound
        have hMark := hTrail.word (hInline _ op hFound)
        rw [exec_advance_bind]
        refine (hOperand room).bind hMark
          fun right middle hRight hMiddle => ?_
        have hBoth :
            Trail origin [left.span, right.span] middle :=
          hMiddle.sublist (by simp)
        rcases hBoth.merge rfl with ⟨hEncloses, hJoin⟩
        exact ih ⟨hEncloses, hLeft, hRight⟩ hJoin

theorem passes_level
    (hInline : Inline op?)
    (hOperand : ∀ room, PassesExpr (operand room))
    (room : Nat) :
    PassesExpr (level op? operand room) := by
  intro cursor hOrder
  refine (hOperand room).bind hOrder.trail
    fun left middle hLeft hMiddle => ?_
  exact onward_chain hInline hOperand room hLeft hMiddle

theorem passes_prefixed
    (op : UnaryOp)
    {mark : TokenKind}
    (hMark : mark.endsLine = false)
    (hOperand : ∀ room, PassesExpr (operand room))
    (room : Nat) :
    PassesExpr (prefixed op mark operand room) := by
  induction room with
  | zero =>
      intro cursor hOrder
      rw [prefixed, exec_check_branch]
      by_cases hKind : cursor.kind = mark
      · rw [if_pos hKind]
        exact onward_rejectHere (hOrder.word hKind hMark) _
      · rw [if_neg hKind]
        exact hOperand 0 cursor hOrder
  | succ room ih =>
      intro cursor hOrder
      rw [prefixed, exec_check_branch]
      by_cases hKind : cursor.kind = mark
      · have hStart := hOrder.word hKind hMark
        rw [if_pos hKind, exec_advance_bind]
        refine ih.bind hStart
          fun inner after hInner hAfter => ?_
        rcases hAfter.merge rfl with ⟨hEncloses, hWhole⟩
        exact onward_pure hWhole
          ⟨⟨hEncloses.tail, hInner⟩, hWhole⟩
      · rw [if_neg hKind]
        exact hOperand (room + 1) cursor hOrder

end Parser

end Gantry

------------------------------------------------------------
-- Primaries And Suffixes
------------------------------------------------------------

namespace Gantry

namespace Parser

open Cursor (Trail)

variable
    {item : Parser Expr}
    {inner : Nat → Parser Expr}
    {origin cursor : Cursor}

theorem passes_commaList
    (hItem : PassesExpr item)
    (close : Symbol)
    (rounds : List Token) :
    Passes (commaList item close rounds) Expr.ListNested
      fun items => items.map Expr.span := by
  induction rounds with
  | nil =>
      intro cursor hOrder
      refine hItem.bind hOrder.trail
        fun last after hLast hAfter => ?_
      exact onward_pure hAfter ⟨⟨hLast, trivial⟩, hAfter⟩
  | cons token rounds ih =>
      intro cursor hOrder
      rw [commaList, exec_check_branch]
      by_cases hClose : cursor.kind = .symbol close
      · rw [if_pos hClose]
        exact onward_pure hOrder.trail
          ⟨trivial, hOrder.trail⟩
      · rw [if_neg hClose]
        refine hItem.bind hOrder.trail
          fun first middle hFirst hMiddle => ?_
        rw [exec_eat_bind]
        by_cases hComma : middle.kind = .symbol .comma
        · rw [if_pos hComma]
          have hNext := hMiddle.next (by simp [hComma])
          refine ih.bind hNext
            fun others after hOthers hAfter => ?_
          exact onward_pure hAfter
            ⟨⟨hFirst, hOthers⟩, hAfter⟩
        · rw [if_neg hComma]
          exact onward_pure hMiddle
            ⟨⟨hFirst, trivial⟩, hMiddle⟩

theorem passes_enclosed
    (hItem : PassesExpr item)
    (close : Symbol) :
    Passes (enclosed item close)
      (fun found => Expr.ListNested found.1)
      fun found => found.1.map Expr.span ++ [found.2] := by
  intro cursor hOrder
  rw [enclosed, exec_get_bind]
  refine (passes_commaList hItem close _).bind hOrder.trail
    fun items middle hItems hMiddle => ?_
  refine (passes_expect rfl).bind hMiddle
    fun stop after _ hAfter => ?_
  exact onward_pure hAfter ⟨hItems, hAfter⟩

theorem passes_primary
    (hItem : PassesExpr item) :
    PassesExpr (primary item) := by
  intro cursor hOrder
  have hTrail := hOrder.trail
  rw [primary, exec_here_bind, exec_peek_bind]
  split
  · rename_i word hKind
    have hWord := hOrder.word hKind rfl
    have hNested := Span.encloses_nil.mpr hOrder.proper_here
    exact onward_pure hWord ⟨hNested, hWord⟩
  · rename_i hKind
    have hStart := hOrder.word hKind rfl
    rw [exec_advance_bind]
    refine (passes_enclosed hItem _).bind hStart
      fun found after hItems hAfter => ?_
    rcases hAfter.merge List.getLast?_concat with
      ⟨hEncloses, hWhole⟩
    have hParts := hEncloses.tail.sublist
      (List.sublist_append_left _ [found.2])
    exact onward_pure hWhole ⟨⟨hParts, hItems⟩, hWhole⟩
  · rename_i hKind
    have hStart := hOrder.word hKind rfl
    rw [exec_advance_bind]
    refine hItem.bind hStart
      fun expr middle hExpr hMiddle => ?_
    refine (passes_expect rfl).bind hMiddle
      fun stop after _ hAfter => ?_
    rcases hAfter.merge rfl with ⟨hEncloses, hWhole⟩
    refine onward_pure hWhole
      ⟨Expr.nested_withSpan hExpr hEncloses, ?_⟩
    dsimp only
    rw [Expr.span_withSpan]
    exact hWhole
  · split
    · rename_i value hLiteral
      have hKind :=
        (literal?_eq_some_iff cursor.kind value).mp hLiteral
      have hWord := hTrail.word (by
        rw [hKind]
        unfold Literal.kind
        split <;> rfl)
      have hNested :=
        Span.encloses_nil.mpr hOrder.proper_here
      exact onward_pure hWord ⟨hNested, hWord⟩
    · exact onward_rejectHere hTrail _

/- A suffix covers the object in front of it. -/
theorem onward_suffix
    (hItem : PassesExpr item)
    {object : Expr}
    (hObject : object.Nested)
    (hTrail : Trail origin [object.span] cursor)
    (hStarts : startsSuffix cursor.kind = true) :
    Onward origin (exec (suffix item object) cursor)
      fun expr after =>
        expr.Nested ∧ Trail origin [expr.span] after := by
  have hKind : cursor.kind ≠ .endOfFile := by
    intro hEnd
    rw [hEnd] at hStarts
    contradiction
  have hNext := hTrail.next hKind
  rw [suffix, exec_peek_bind]
  split
  · rw [exec_advance_bind]
    refine (passes_enclosed hItem _).bind hNext
      fun found after hItems hAfter => ?_
    rcases hAfter.merge List.getLast?_concat with
      ⟨hEncloses, hWhole⟩
    have hParts := hEncloses.sublist
      ((List.sublist_append_left _ [found.2]).cons_cons
        object.span)
    exact onward_pure hWhole
      ⟨⟨hParts, hObject, hItems⟩, hWhole⟩
  · rw [exec_advance_bind]
    refine hItem.bind hNext
      fun key middle hKey hMiddle => ?_
    refine (passes_expect rfl).bind hMiddle
      fun stop after _ hAfter => ?_
    rcases hAfter.merge rfl with ⟨hEncloses, hWhole⟩
    have hParts := hEncloses.sublist
      (List.sublist_append_left
        [object.span, key.span] [stop])
    exact onward_pure hWhole
      ⟨⟨hParts, hObject, hKey⟩, hWhole⟩
  · rw [exec_advance_bind]
    refine passes_identifier.bind hNext
      fun field after _ hAfter => ?_
    rcases hAfter.merge rfl with ⟨hEncloses, hWhole⟩
    exact onward_pure hWhole ⟨⟨hEncloses, hObject⟩, hWhole⟩

theorem onward_suffixes
    (hInner : ∀ room, PassesExpr (inner room))
    (room : Nat)
    {object : Expr}
    (hObject : object.Nested)
    (hTrail : Trail origin [object.span] cursor) :
    Onward origin
      (exec (suffixes inner room object) cursor)
      fun expr after =>
        expr.Nested ∧ Trail origin [expr.span] after := by
  induction room generalizing object cursor with
  | zero =>
      rw [suffixes, exec_peek_bind]
      split
      · exact onward_rejectHere hTrail _
      · exact onward_pure hTrail ⟨hObject, hTrail⟩
  | succ room ih =>
      rw [suffixes, exec_peek_bind]
      split
      · rename_i hStarts
        refine (onward_suffix (hInner room) hObject hTrail
          hStarts).bind fun longer middle hLonger => ?_
        exact ih hLonger.1 hLonger.2
      · exact onward_pure hTrail ⟨hObject, hTrail⟩

theorem passes_operand
    (hInner : ∀ room, PassesExpr (inner room))
    (room : Nat) :
    PassesExpr (Parser.operand inner room) := by
  intro cursor hOrder
  refine (passes_primary (hInner room)).bind hOrder.trail
    fun object middle hObject hMiddle => ?_
  exact onward_suffixes hInner room hObject hMiddle

theorem passes_disjunction
    (hInner : ∀ room, PassesExpr (inner room))
    (room : Nat) :
    PassesExpr (disjunction inner room) := by
  apply passes_level (inline_of_kind fun _ _ => kind_of_orOp?)
  apply passes_level
    (inline_of_kind fun _ _ => kind_of_andOp?)
  apply passes_prefixed .not rfl
  apply passes_level
    (inline_of_kind fun _ _ => kind_of_comparisonOp?)
  apply passes_level
    (inline_of_kind fun _ _ => kind_of_sumOp?)
  apply passes_level
    (inline_of_kind fun _ _ => kind_of_productOp?)
  apply passes_prefixed .neg rfl
  exact passes_operand hInner

theorem passes_expressionWithin
    (brackets room : Nat) :
    PassesExpr (expressionWithin brackets room) := by
  induction brackets generalizing room with
  | zero => exact passes_tooDeep
  | succ brackets ih =>
      cases room with
      | zero => exact passes_tooDeep
      | succ room => exact passes_disjunction ih room

theorem passes_expression :
    PassesExpr expression :=
  passes_expressionWithin maxNesting maxNesting

end Parser

end Gantry
