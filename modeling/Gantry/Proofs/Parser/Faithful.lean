import Gantry.Proofs.Parser.Growth
import Gantry.Proofs.Script.Words

/-
  This file follows the words of an expression from its
  tokens into its tree. A parser of expressions takes just
  the words of the tree that it gives, each of them once and
  in order, unless it reports something.

  Key definitions include:
    * `Gantry.Cursor.Took`
    * `Gantry.Parser.Reported`
    * `Gantry.Parser.Faithful`

  Main statements:
    * `Gantry.Parser.gives_chain`
    * `Gantry.Parser.gives_suffixes`
    * `Gantry.Parser.faithful_expressionWithin`
    * `Gantry.Parser.faithful_expression`
-/

------------------------------------------------------------
-- Taking Tokens
------------------------------------------------------------

namespace Gantry

namespace Cursor

/-
  The tokens between two cursors, none of which ends the
  file, hold the given words.
-/
def Took
    (cursor : Cursor)
    (words : List TokenKind)
    (after : Cursor) : Prop :=
  ∃ used,
    cursor.rest = used ++ after.rest ∧
      (∀ token ∈ used, token.kind ≠ .endOfFile) ∧
      content used = words

theorem Took.refl
    (cursor : Cursor) :
    cursor.Took [] cursor :=
  ⟨[], rfl, by simp, rfl⟩

theorem Took.trans
    {cursor middle after : Cursor}
    {words more : List TokenKind}
    (hFirst : cursor.Took words middle)
    (hSecond : middle.Took more after) :
    cursor.Took (words ++ more) after := by
  rcases hFirst with ⟨used, hUsed, hInside, rfl⟩
  rcases hSecond with ⟨later, hLater, hBehind, rfl⟩
  refine ⟨used ++ later, ?_, ?_, content_append _ _⟩
  · rw [hUsed, hLater, List.append_assoc]
  · intro token hToken
    rcases List.mem_append.mp hToken with hHere | hThere
    · exact hInside token hHere
    · exact hBehind token hThere

/- The next token, unless it ends the file, is one token. -/
theorem rest_of_kind
    {cursor : Cursor}
    (hKind : cursor.kind ≠ .endOfFile) :
    ∃ token,
      cursor.rest = token :: cursor.next.rest ∧
        token.kind = cursor.kind := by
  unfold kind next at *
  cases hRest : cursor.rest with
  | nil => simp [hRest] at hKind
  | cons token rest => exact ⟨token, by simp, rfl⟩

theorem took_word
    {cursor : Cursor}
    {kind : TokenKind}
    (hKind : cursor.kind = kind)
    (hEnd : kind ≠ .endOfFile)
    (hWord : kind.groups = false) :
    cursor.Took [kind] cursor.next := by
  subst hKind
  rcases rest_of_kind hEnd with ⟨token, hRest, hToken⟩
  refine ⟨[token], by simpa using hRest, ?_, ?_⟩
  · simpa [hToken] using hEnd
  · simp [content, hToken, hWord]

theorem took_group
    {cursor : Cursor}
    {kind : TokenKind}
    (hKind : cursor.kind = kind)
    (hEnd : kind ≠ .endOfFile)
    (hGroup : kind.groups = true) :
    cursor.Took [] cursor.next := by
  subst hKind
  rcases rest_of_kind hEnd with ⟨token, hRest, hToken⟩
  refine ⟨[token], by simpa using hRest, ?_, ?_⟩
  · simpa [hToken] using hEnd
  · simp [content, hToken, hGroup]

theorem length_next_lt
    {cursor : Cursor}
    (hKind : cursor.kind ≠ .endOfFile) :
    cursor.next.rest.length < cursor.rest.length := by
  rcases rest_of_kind hKind with ⟨token, hRest, _⟩
  rw [hRest]
  simp

theorem Took.length_le
    {cursor after : Cursor}
    {words : List TokenKind}
    (hTook : cursor.Took words after) :
    after.rest.length ≤ cursor.rest.length := by
  rcases hTook with ⟨used, hUsed, _⟩
  rw [hUsed]
  simp

end Cursor

end Gantry

------------------------------------------------------------
-- Faithful Parsers
------------------------------------------------------------

namespace Gantry

namespace Parser

variable {α β : Type}

/- Something was reported. -/
def Reported
    (log : Log Issue) : Prop :=
  0 < log.total

theorem lasting_reported :
    Lasting Reported := by
  rintro log later ⟨entries, rfl⟩ hReported
  unfold Log.pushAll
  induction entries generalizing log with
  | nil => exact hReported
  | cons entry entries ih =>
      exact ih (log.push entry) (Nat.succ_pos _)

/- A step that reports something needs no words. -/
theorem gives_report
    {result : Option α × Cursor}
    {post : α → Cursor → Prop}
    (cursor : Cursor)
    (fault : Fault)
    (span : Span)
    (hAfter : result.2 = cursor.report fault span) :
    Gives Reported result post := by
  left
  rw [hAfter]
  exact Nat.succ_pos _

/-
  A parser reports something, or it takes tokens with just
  the words of what it yields.
-/
def Faithful
    (parser : Parser α)
    (words : α → List TokenKind) : Prop :=
  ∀ cursor : Cursor, cursor.log = Log.empty →
    Gives Reported (exec parser cursor) fun value after =>
      cursor.Took (words value) after

/- What follows a faithful parser adds words to its own. -/
theorem Faithful.gives_bind
    {parser : Parser α}
    {words : α → List TokenKind}
    {next : α → Parser β}
    {cursor : Cursor}
    {post : β → Cursor → Prop}
    (hParser : Faithful parser words)
    (hGrows : ∀ value, Grows (next value))
    (hLog : cursor.log = Log.empty)
    (hNext :
      ∀ value after, after.log = Log.empty →
        cursor.Took (words value) after →
          Gives Reported (exec (next value) after) post) :
    Gives Reported (exec (parser >>= next) cursor) post :=
  Gives.bind lasting_reported hGrows (hParser cursor hLog)
    hNext

theorem faithful_expectWord
    {kind : TokenKind}
    (hEnd : kind ≠ .endOfFile)
    (hWord : kind.groups = false) :
    Faithful (expect kind) fun _ => [kind] := by
  intro cursor hLog
  rw [exec_expect]
  by_cases hKind : cursor.kind = kind
  · rw [if_pos hKind]
    apply gives_some
    · simpa using hLog
    · exact Cursor.took_word hKind hEnd hWord
  · rw [if_neg hKind]
    exact gives_report cursor _ _ rfl

theorem faithful_expectGroup
    {kind : TokenKind}
    (hEnd : kind ≠ .endOfFile)
    (hGroup : kind.groups = true) :
    Faithful (expect kind) fun _ => [] := by
  intro cursor hLog
  rw [exec_expect]
  by_cases hKind : cursor.kind = kind
  · rw [if_pos hKind]
    apply gives_some
    · simpa using hLog
    · exact Cursor.took_group hKind hEnd hGroup
  · rw [if_neg hKind]
    exact gives_report cursor _ _ rfl

theorem faithful_identifier :
    Faithful identifier fun ident =>
      [.name ident.name] := by
  intro cursor hLog
  rw [identifier, exec_peek_bind]
  split
  · rename_i name hKind
    rw [exec_advance_bind, exec_pure]
    apply gives_some
    · simpa using hLog
    · exact Cursor.took_word hKind (by simp) rfl
  · exact gives_report cursor _ _ rfl
  · exact gives_report cursor _ _ rfl

theorem faithful_lineEnd :
    Faithful lineEnd fun _ => [] := by
  intro cursor hLog
  rw [lineEnd, exec_peek_bind]
  split
  · rename_i hKind
    rw [exec_advance_bind, exec_pure]
    apply gives_some
    · simpa using hLog
    · exact Cursor.took_group hKind (by simp) rfl
  · exact gives_some hLog (Cursor.Took.refl cursor)
  · exact gives_some hLog (Cursor.Took.refl cursor)
  · exact gives_report cursor _ _ rfl

end Parser

end Gantry

------------------------------------------------------------
-- Chains And Prefixes
------------------------------------------------------------

namespace Gantry

namespace Parser

variable {inner operand : Nat → Parser Expr}

theorem groups_kind
    (op : BinaryOp) :
    op.kind.groups = false ∧ op.kind ≠ .endOfFile := by
  cases op <;> exact ⟨rfl, by simp [BinaryOp.kind]⟩

theorem groups_literal
    (value : Literal) :
    value.kind.groups = false ∧
      value.kind ≠ .endOfFile := by
  unfold Literal.kind
  split <;> exact ⟨rfl, by simp⟩

/- A chain adds its operators and operands to its start. -/
theorem gives_chain
    {op? : TokenKind → Option BinaryOp}
    (hOp :
      ∀ kind op, op? kind = some op → kind = op.kind)
    (hGrows : ∀ room, Grows (operand room))
    (hOperand :
      ∀ room, Faithful (operand room) Expr.words)
    (room : Nat)
    (left : Expr)
    (cursor : Cursor)
    (hLog : cursor.log = Log.empty) :
    Gives Reported (exec (chain op? operand room left) cursor)
      fun expr after =>
        ∃ words, cursor.Took words after ∧
          expr.words = left.words ++ words := by
  induction room generalizing left cursor with
  | zero =>
      rw [chain, exec_peek_bind]
      split
      · apply gives_some hLog
        exact ⟨[], .refl cursor, by simp⟩
      · exact gives_report cursor.next _ _ rfl
  | succ room ih =>
      rw [chain, exec_peek_bind]
      split
      · apply gives_some hLog
        exact ⟨[], .refl cursor, by simp⟩
      · rename_i op hFound
        have hKind := hOp _ _ hFound
        rcases groups_kind op with ⟨hWord, hEnd⟩
        have hTook := Cursor.took_word hKind hEnd hWord
        rw [exec_advance_bind]
        refine (hOperand room).gives_bind
          (fun _ => grows_chain op? hGrows room _)
          (by simpa using hLog) ?_
        intro right middle hMiddle hRight
        refine (ih (join op left right) middle hMiddle).imp ?_
        rintro expr after ⟨words, hWords, hExpr⟩
        refine ⟨_, (hTook.trans hRight).trans hWords, ?_⟩
        rw [hExpr]
        simp [join, Expr.words]

theorem faithful_level
    {op? : TokenKind → Option BinaryOp}
    (hOp :
      ∀ kind op, op? kind = some op → kind = op.kind)
    (hGrows : ∀ room, Grows (operand room))
    (hOperand :
      ∀ room, Faithful (operand room) Expr.words)
    (room : Nat) :
    Faithful (level op? operand room) Expr.words := by
  intro cursor hLog
  refine (hOperand room).gives_bind
    (fun _ => grows_chain op? hGrows room _) hLog ?_
  intro left middle hMiddle hLeft
  refine (gives_chain hOp hGrows hOperand room left middle
    hMiddle).imp ?_
  rintro expr after ⟨words, hWords, hExpr⟩
  rw [hExpr]
  exact hLeft.trans hWords

theorem faithful_prefixed
    (op : UnaryOp)
    (hOperand :
      ∀ room, Faithful (operand room) Expr.words)
    (room : Nat) :
    Faithful (prefixed op op.kind operand room)
      Expr.words := by
  have hMark : op.kind.groups = false ∧
      op.kind ≠ .endOfFile := by
    cases op <;> exact ⟨rfl, by simp [UnaryOp.kind]⟩
  induction room with
  | zero =>
      intro cursor hLog
      rw [prefixed, exec_check_branch]
      by_cases hKind : cursor.kind = op.kind
      · rw [if_pos hKind]
        exact gives_report cursor.next _ _ rfl
      · rw [if_neg hKind]
        exact hOperand 0 cursor hLog
  | succ room ih =>
      intro cursor hLog
      rw [prefixed, exec_check_branch]
      by_cases hKind : cursor.kind = op.kind
      · have hTook :=
          Cursor.took_word hKind hMark.2 hMark.1
        rw [if_pos hKind, exec_advance_bind]
        refine ih.gives_bind (fun _ => grows_pure _)
          (by simpa using hLog) ?_
        intro inside middle hMiddle hInside
        exact gives_some hMiddle (hTook.trans hInside)
      · rw [if_neg hKind]
        exact hOperand (room + 1) cursor hLog

end Parser

end Gantry

------------------------------------------------------------
-- Primaries And Suffixes
------------------------------------------------------------

namespace Gantry

namespace Parser

variable
    {item : Parser Expr}
    {inner : Nat → Parser Expr}

theorem faithful_commaList
    (hGrows : Grows item)
    (hItem : Faithful item Expr.words)
    (close : Symbol)
    (rounds : List Token) :
    Faithful (commaList item close rounds)
      Expr.listWords := by
  induction rounds with
  | nil =>
      intro cursor hLog
      refine hItem.gives_bind (fun _ => grows_pure _) hLog ?_
      intro last after hAfter hLast
      apply gives_some hAfter
      simpa [Expr.listWords] using hLast
  | cons token rounds ih =>
      intro cursor hLog
      rw [commaList, exec_check_branch]
      by_cases hClose : cursor.kind = .symbol close
      · rw [if_pos hClose]
        exact gives_some hLog (.refl cursor)
      · rw [if_neg hClose]
        refine hItem.gives_bind
          (grows_furtherItems
            (grows_commaList hGrows close rounds)) hLog ?_
        intro first middle hMiddle hFirst
        rw [exec_eat_bind]
        by_cases hComma : middle.kind = .symbol .comma
        · have hTook :=
            Cursor.took_group hComma (by simp) rfl
          rw [if_pos hComma]
          refine ih.gives_bind (fun _ => grows_pure _)
            (by simpa using hMiddle) ?_
          intro others after hAfter hOthers
          apply gives_some hAfter
          simpa [Expr.listWords] using
            (hFirst.trans hTook).trans hOthers
        · rw [if_neg hComma]
          apply gives_some hMiddle
          simpa [Expr.listWords] using hFirst

theorem faithful_enclosed
    {close : Symbol}
    {words : List TokenKind}
    (hGrows : Grows item)
    (hItem : Faithful item Expr.words)
    (hClose :
      Faithful (expect (.symbol close)) fun _ => words) :
    Faithful (enclosed item close) fun found =>
      Expr.listWords found.1 ++ words := by
  intro cursor hLog
  rw [enclosed, exec_get_bind]
  refine (faithful_commaList hGrows hItem close _).gives_bind
    (fun _ => (grows_expect _).bind fun _ => grows_pure _)
    hLog ?_
  intro items middle hMiddle hItems
  refine hClose.gives_bind (fun _ => grows_pure _) hMiddle ?_
  intro stop after hAfter hStop
  exact gives_some hAfter (hItems.trans hStop)

theorem faithful_closeParen :
    Faithful (expect (.symbol .rightParen)) fun _ => [] :=
  faithful_expectGroup (by simp) rfl

theorem faithful_closeBracket :
    Faithful (expect (.symbol .rightBracket)) fun _ =>
      [.symbol .rightBracket] :=
  faithful_expectWord (by simp) rfl

theorem faithful_primary
    (hGrows : Grows item)
    (hItem : Faithful item Expr.words) :
    Faithful (primary item) Expr.words := by
  intro cursor hLog
  rw [primary, exec_here_bind, exec_peek_bind]
  have hNext : cursor.next.log = Log.empty := by
    simpa using hLog
  split
  · rename_i word hKind
    have hTook := Cursor.took_word hKind (by simp) rfl
    exact gives_some hNext hTook
  · rename_i hKind
    have hTook := Cursor.took_word hKind (by simp) rfl
    rw [exec_advance_bind]
    refine (faithful_enclosed hGrows hItem
      faithful_closeBracket).gives_bind
      (fun _ => grows_pure _) hNext ?_
    intro found after hAfter hFound
    exact gives_some hAfter (hTook.trans hFound)
  · rename_i hKind
    have hTook := Cursor.took_group hKind (by simp) rfl
    rw [exec_advance_bind]
    refine hItem.gives_bind
      (fun _ => (grows_expect _).bind fun _ => grows_pure _)
      hNext ?_
    intro expr middle hMiddle hExpr
    refine faithful_closeParen.gives_bind
      (fun _ => grows_pure _) hMiddle ?_
    intro stop after hAfter hStop
    apply gives_some hAfter
    simpa using (hTook.trans hExpr).trans hStop
  · split
    · rename_i value hLiteral
      have hKind :=
        (literal?_eq_some_iff cursor.kind value).mp hLiteral
      rcases groups_literal value with ⟨hWord, hEnd⟩
      exact gives_some hNext
        (Cursor.took_word hKind hEnd hWord)
    · exact gives_report cursor _ _ rfl

/- A suffix adds to the words of what it stands behind. -/
theorem gives_suffix
    (hGrows : Grows item)
    (hItem : Faithful item Expr.words)
    (object : Expr)
    (cursor : Cursor)
    (hLog : cursor.log = Log.empty)
    (hStarts : startsSuffix cursor.kind = true) :
    Gives Reported (exec (suffix item object) cursor)
      fun expr after =>
        ∃ words, cursor.Took words after ∧
          expr.words = object.words ++ words := by
  have hNext : cursor.next.log = Log.empty := by
    simpa using hLog
  rw [suffix, exec_peek_bind]
  split
  · rename_i hKind
    have hTook := Cursor.took_group hKind (by simp) rfl
    rw [exec_advance_bind]
    refine (faithful_enclosed hGrows hItem
      faithful_closeParen).gives_bind
      (fun _ => grows_pure _) hNext ?_
    intro found after hAfter hFound
    apply gives_some hAfter
    exact ⟨_, hTook.trans hFound, by simp [Expr.words]⟩
  · rename_i hKind
    have hTook := Cursor.took_word hKind (by simp) rfl
    rw [exec_advance_bind]
    refine hItem.gives_bind
      (fun _ => (grows_expect _).bind fun _ => grows_pure _)
      hNext ?_
    intro key middle hMiddle hKey
    refine faithful_closeBracket.gives_bind
      (fun _ => grows_pure _) hMiddle ?_
    intro stop after hAfter hStop
    apply gives_some hAfter
    exact ⟨_, (hTook.trans hKey).trans hStop,
      by simp [Expr.words]⟩
  · rename_i hParen hBracket
    have hKind : cursor.kind = .symbol .dot := by
      unfold startsSuffix at hStarts
      split at hStarts
      · contradiction
      · contradiction
      · assumption
      · contradiction
    have hTook := Cursor.took_word hKind (by simp) rfl
    rw [exec_advance_bind]
    refine faithful_identifier.gives_bind
      (fun _ => grows_pure _) hNext ?_
    intro field after hAfter hField
    apply gives_some hAfter
    exact ⟨_, hTook.trans hField, by simp [Expr.words]⟩

theorem gives_suffixes
    (hGrows : ∀ room, Grows (inner room))
    (hInner : ∀ room, Faithful (inner room) Expr.words)
    (room : Nat)
    (object : Expr)
    (cursor : Cursor)
    (hLog : cursor.log = Log.empty) :
    Gives Reported
      (exec (suffixes inner room object) cursor)
      fun expr after =>
        ∃ words, cursor.Took words after ∧
          expr.words = object.words ++ words := by
  induction room generalizing object cursor with
  | zero =>
      rw [suffixes, exec_peek_bind]
      split
      · exact gives_report cursor _ _ rfl
      · apply gives_some hLog
        exact ⟨[], .refl cursor, by simp⟩
  | succ room ih =>
      rw [suffixes, exec_peek_bind]
      split
      · rename_i hStarts
        refine Gives.bind lasting_reported
          (fun _ => grows_suffixes hGrows room _)
          (gives_suffix (hGrows room) (hInner room) object
            cursor hLog hStarts) ?_
        rintro longer middle hMiddle ⟨words, hWords, hLonger⟩
        refine (ih longer middle hMiddle).imp ?_
        rintro expr after ⟨more, hMore, hExpr⟩
        refine ⟨_, hWords.trans hMore, ?_⟩
        rw [hExpr, hLonger, List.append_assoc]
      · apply gives_some hLog
        exact ⟨[], .refl cursor, by simp⟩

theorem faithful_operand
    (hGrows : ∀ room, Grows (inner room))
    (hInner : ∀ room, Faithful (inner room) Expr.words)
    (room : Nat) :
    Faithful (operand inner room) Expr.words := by
  intro cursor hLog
  refine (faithful_primary (hGrows room)
    (hInner room)).gives_bind
    (fun _ => grows_suffixes hGrows room _) hLog ?_
  intro object middle hMiddle hObject
  refine (gives_suffixes hGrows hInner room object middle
    hMiddle).imp ?_
  rintro expr after ⟨words, hWords, hExpr⟩
  rw [hExpr]
  exact hObject.trans hWords

theorem faithful_disjunction
    (hGrows : ∀ room, Grows (inner room))
    (hInner : ∀ room, Faithful (inner room) Expr.words)
    (room : Nat) :
    Faithful (disjunction inner room) Expr.words := by
  have hOperand := faithful_operand hGrows hInner
  have gOperand := grows_operand hGrows
  have hSigned := faithful_prefixed .neg hOperand
  have gSigned :=
    grows_prefixed .neg (.symbol .minus) gOperand
  have hProduct :=
    faithful_level (fun _ _ => kind_of_productOp?) gSigned
      hSigned
  have gProduct := grows_level productOp? gSigned
  have hSum :=
    faithful_level (fun _ _ => kind_of_sumOp?) gProduct
      hProduct
  have gSum := grows_level sumOp? gProduct
  have hComparison :=
    faithful_level (fun _ _ => kind_of_comparisonOp?) gSum
      hSum
  have gComparison := grows_level comparisonOp? gSum
  have hNegation := faithful_prefixed .not hComparison
  have gNegation :=
    grows_prefixed .not (.keyword .notWord) gComparison
  have hConjunction :=
    faithful_level (fun _ _ => kind_of_andOp?) gNegation
      hNegation
  have gConjunction := grows_level andOp? gNegation
  exact faithful_level (fun _ _ => kind_of_orOp?)
    gConjunction hConjunction room

theorem faithful_expressionWithin
    (brackets room : Nat) :
    Faithful (expressionWithin brackets room)
      Expr.words := by
  induction brackets generalizing room with
  | zero =>
      intro cursor hLog
      exact gives_report cursor _ _ rfl
  | succ brackets ih =>
      cases room with
      | zero =>
          intro cursor hLog
          exact gives_report cursor _ _ rfl
      | succ room =>
          exact faithful_disjunction
            (grows_expressionWithin brackets) ih room

theorem faithful_expression :
    Faithful expression Expr.words :=
  faithful_expressionWithin maxNesting maxNesting

end Parser

end Gantry
