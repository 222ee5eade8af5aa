import Gantry.Proofs.Token.Layout

/-
  This file counts the levels of indentation that tokens open
  and close. In a script in which no character is at fault
  no level is closed that is not open, and at its end all of
  them are closed.

  Key definitions include:
    * `Gantry.Token.Balanced`
    * `Gantry.Token.climb`
    * `Gantry.Token.Closed`

  Main statements:
    * `Gantry.Token.climb_append`
    * `Gantry.Token.balanced_of_climb`
    * `Gantry.Token.climb_injective`
    * `Gantry.Source.climb_lex`
    * `Gantry.Source.closed_lex`
-/

------------------------------------------------------------
-- Opening And Closing
------------------------------------------------------------

namespace Gantry

namespace Token

/- How often tokens open a level. -/
def indents
    (tokens : List Token) : Nat :=
  tokens.countP (·.kind == .indent)

/- How often tokens close a level. -/
def dedents
    (tokens : List Token) : Nat :=
  tokens.countP (·.kind == .dedent)

/-
  Every level that is opened is closed again, and none is
  closed that was not opened before.
-/
def Balanced
    (tokens : List Token) : Prop :=
  indents tokens = dedents tokens ∧
    ∀ front, front <+: tokens →
      dedents front ≤ indents front

/-
  How many levels are open behind tokens, if `level` are in
  front of them. There is no answer where a level is closed
  that is not open. What stands behind the end of the file
  does not count.
-/
def climb
    (level : Nat) :
    List Token → Option Nat
| [] => some level
| token :: rest =>
    match token.kind with
    | .endOfFile => some level
    | .indent => climb (level + 1) rest
    | .dedent =>
        if level = 0 then none else climb (level - 1) rest
    | _ => climb level rest

theorem climb_indent
    {token : Token}
    (hKind : token.kind = .indent)
    (level : Nat)
    (rest : List Token) :
    climb level (token :: rest) =
      climb (level + 1) rest := by
  rw [climb, hKind]

theorem climb_dedent
    {token : Token}
    (hKind : token.kind = .dedent)
    (level : Nat)
    (rest : List Token) :
    climb (level + 1) (token :: rest) =
      climb level rest := by
  rw [climb, hKind]
  exact if_neg (Nat.succ_ne_zero level)

theorem climb_dedent_zero
    {token : Token}
    (hKind : token.kind = .dedent)
    (rest : List Token) :
    climb 0 (token :: rest) = none := by
  rw [climb, hKind]
  exact if_pos rfl

theorem climb_endOfFile
    {token : Token}
    (hKind : token.kind = .endOfFile)
    (level : Nat)
    (rest : List Token) :
    climb level (token :: rest) = some level := by
  rw [climb, hKind]

/- A token that neither opens nor closes a level. -/
theorem climb_other
    {token : Token}
    (hEnd : token.kind ≠ .endOfFile)
    (hIndent : token.kind ≠ .indent)
    (hDedent : token.kind ≠ .dedent)
    (level : Nat)
    (rest : List Token) :
    climb level (token :: rest) = climb level rest := by
  rw [climb]
  split
  · contradiction
  · contradiction
  · contradiction
  · rfl

/- Tokens may be counted in two parts. -/
theorem climb_append
    {tokens : List Token}
    (hTokens : ∀ token ∈ tokens, token.kind ≠ .endOfFile)
    (level : Nat)
    (rest : List Token) :
    climb level (tokens ++ rest) =
      (climb level tokens).bind (climb · rest) := by
  induction tokens generalizing level with
  | nil => rfl
  | cons token tokens ih =>
      rw [List.forall_mem_cons] at hTokens
      have hRest := ih hTokens.2
      rw [List.cons_append]
      by_cases hIndent : token.kind = .indent
      · rw [climb_indent hIndent, climb_indent hIndent,
          hRest]
      · by_cases hDedent : token.kind = .dedent
        · cases level with
          | zero =>
              rw [climb_dedent_zero hDedent,
                climb_dedent_zero hDedent]
              rfl
          | succ level =>
              rw [climb_dedent hDedent,
                climb_dedent hDedent, hRest]
        · rw [climb_other hTokens.1 hIndent hDedent,
            climb_other hTokens.1 hIndent hDedent, hRest]

/- Levels further out do not matter. -/
theorem climb_add
    {tokens : List Token}
    {level last : Nat}
    (hClimb : climb level tokens = some last)
    (outer : Nat) :
    climb (level + outer) tokens = some (last + outer) := by
  induction tokens generalizing level with
  | nil =>
      cases hClimb
      rfl
  | cons token tokens ih =>
      by_cases hEnd : token.kind = .endOfFile
      · rw [climb_endOfFile hEnd] at hClimb ⊢
        cases hClimb
        rfl
      · by_cases hIndent : token.kind = .indent
        · rw [climb_indent hIndent] at hClimb ⊢
          rw [Nat.add_right_comm]
          exact ih hClimb
        · by_cases hDedent : token.kind = .dedent
          · cases level with
            | zero =>
                rw [climb_dedent_zero hDedent] at hClimb
                cases hClimb
            | succ level =>
                rw [climb_dedent hDedent] at hClimb
                rw [Nat.add_right_comm,
                  climb_dedent hDedent]
                exact ih hClimb
          · rw [climb_other hEnd hIndent hDedent]
              at hClimb ⊢
            exact ih hClimb

/- Where tokens lead tells where they have come from. -/
theorem climb_injective
    {tokens : List Token}
    {level other last : Nat}
    (hLevel : climb level tokens = some last)
    (hOther : climb other tokens = some last) :
    level = other := by
  rcases Nat.le_total level other with hLe | hLe
  · rcases Nat.exists_eq_add_of_le hLe with ⟨outer, rfl⟩
    rw [climb_add hLevel outer, Option.some.injEq] at hOther
    omega
  · rcases Nat.exists_eq_add_of_le hLe with ⟨outer, rfl⟩
    rw [climb_add hOther outer, Option.some.injEq] at hLevel
    omega

/- Tokens that open and close nothing leave the level. -/
theorem climb_flat
    {tokens : List Token}
    (hTokens :
      ∀ token ∈ tokens,
        token.kind ≠ .indent ∧ token.kind ≠ .dedent)
    (level : Nat) :
    climb level tokens = some level := by
  induction tokens with
  | nil => rfl
  | cons token tokens ih =>
      rw [List.forall_mem_cons] at hTokens
      by_cases hEnd : token.kind = .endOfFile
      · exact climb_endOfFile hEnd level tokens
      · rw [climb_other hEnd hTokens.1.1 hTokens.1.2]
        exact ih hTokens.2

end Token

end Gantry

------------------------------------------------------------
-- Counting
------------------------------------------------------------

namespace Gantry

namespace Token

theorem indents_cons
    (token : Token)
    (tokens : List Token) :
    indents (token :: tokens) =
      indents tokens +
        if token.kind = .indent then 1 else 0 := by
  simp [indents, List.countP_cons]

theorem dedents_cons
    (token : Token)
    (tokens : List Token) :
    dedents (token :: tokens) =
      dedents tokens +
        if token.kind = .dedent then 1 else 0 := by
  simp [dedents, List.countP_cons]

/- The level changes by what is opened and closed. -/
theorem add_indents_of_climb
    {tokens : List Token}
    (hTokens : ∀ token ∈ tokens, token.kind ≠ .endOfFile)
    {level last : Nat}
    (hClimb : climb level tokens = some last) :
    level + indents tokens = last + dedents tokens := by
  induction tokens generalizing level with
  | nil =>
      cases hClimb
      rfl
  | cons token tokens ih =>
      rw [List.forall_mem_cons] at hTokens
      rw [indents_cons, dedents_cons]
      by_cases hIndent : token.kind = .indent
      · rw [climb_indent hIndent] at hClimb
        have := ih hTokens.2 hClimb
        simp only [hIndent, if_true, reduceCtorEq, if_false]
        omega
      · by_cases hDedent : token.kind = .dedent
        · cases level with
          | zero =>
              rw [climb_dedent_zero hDedent] at hClimb
              cases hClimb
          | succ level =>
              rw [climb_dedent hDedent] at hClimb
              have := ih hTokens.2 hClimb
              simp only [hDedent, if_true, reduceCtorEq,
                if_false]
              omega
        · rw [climb_other hTokens.1 hIndent hDedent]
            at hClimb
          rw [if_neg hIndent, if_neg hDedent]
          exact ih hTokens.2 hClimb

/- Tokens that lead back to where they started. -/
theorem balanced_of_climb
    {tokens : List Token}
    (hTokens : ∀ token ∈ tokens, token.kind ≠ .endOfFile)
    (hClimb : climb 0 tokens = some 0) :
    Balanced tokens := by
  constructor
  · simpa using add_indents_of_climb hTokens hClimb
  · rintro front ⟨back, rfl⟩
    have hFront :
        ∀ token ∈ front, token.kind ≠ .endOfFile :=
      fun token hToken =>
        hTokens token (List.mem_append_left back hToken)
    rw [climb_append hFront, Option.bind_eq_some_iff]
      at hClimb
    rcases hClimb with ⟨middle, hMiddle, _⟩
    have := add_indents_of_climb hFront hMiddle
    omega

end Token

end Gantry

------------------------------------------------------------
-- Closed Streams
------------------------------------------------------------

namespace Gantry

namespace Token

/- The last token ends the file. -/
def Closed
    (tokens : List Token) : Prop :=
  ∃ front last,
    tokens = front ++ [last] ∧ last.kind = .endOfFile

/- Where the end of the file was not taken, it is ahead. -/
theorem Closed.of_append
    {taken rest : List Token}
    (hClosed : Closed (taken ++ rest))
    (hTaken : ∀ token ∈ taken, token.kind ≠ .endOfFile) :
    Closed rest := by
  rcases hClosed with ⟨front, last, hTokens, hLast⟩
  rcases List.append_eq_append_iff.mp hTokens with
    ⟨middle, rfl, hRest⟩ | ⟨middle, rfl, hRest⟩
  · exact ⟨middle, last, hRest, hLast⟩
  · cases middle with
    | nil => exact ⟨[], last, by simpa using hRest.symm, hLast⟩
    | cons token middle =>
        rw [List.cons_append, List.cons.injEq] at hRest
        refine absurd hLast (hTaken last ?_)
        rw [hRest.1]
        simp

theorem Closed.length_pos
    {tokens : List Token}
    (hClosed : Closed tokens) :
    0 < tokens.length := by
  rcases hClosed with ⟨front, last, rfl, _⟩
  simp

/- A token that does not end the file has one behind it. -/
theorem Closed.two_le_length
    {token : Token}
    {rest : List Token}
    (hClosed : Closed (token :: rest))
    (hKind : token.kind ≠ .endOfFile) :
    ∃ next tokens, rest = next :: tokens := by
  rcases hClosed with ⟨front, last, hTokens, hLast⟩
  cases rest with
  | cons next tokens => exact ⟨next, tokens, rfl⟩
  | nil =>
      cases front with
      | nil =>
          cases hTokens
          contradiction
      | cons first front => simp at hTokens

end Token

end Gantry

------------------------------------------------------------
-- Scripts
------------------------------------------------------------

namespace Gantry

namespace Lexer

/- Closing some of the open levels. -/
theorem climb_dedents
    {α : Type}
    (place : Span)
    (closed : List α)
    (level : Nat)
    (rest : List Token) :
    Token.climb (closed.length + level)
        (closed.map (fun _ => (⟨.dedent, place⟩ : Token)) ++
          rest) =
      Token.climb level rest := by
  induction closed with
  | nil => simp
  | cons width closed ih =>
      rw [List.length_cons, Nat.add_right_comm,
        List.map_cons, List.cons_append,
        Token.climb_dedent rfl]
      exact ih

/- A level is closed by a line or stays open. -/
theorem length_levels
    (width : Nat)
    (levels : List Nat) :
    levels.length =
      (closedLevels width levels).length +
        (openLevels width levels).length := by
  unfold closedLevels openLevels
  rw [← List.length_append, List.takeWhile_append_dropWhile]

/-
  A line is at the level that its indentation asks for, if
  it asks for one that is open.
-/
theorem climb_relayout
    {line width : Nat}
    {levels : List Nat}
    (hEven :
      ∀ issue ∈ (relayout line width levels).issues,
        issue.fault ≠ .inconsistentDedent)
    (rest : List Token) :
    Token.climb levels.length
        ((relayout line width levels).tokens ++ rest) =
      Token.climb (relayout line width levels).levels.length
        rest := by
  unfold relayout at hEven ⊢
  dsimp only at hEven ⊢
  split
  · exact Token.climb_indent rfl _ _
  · rename_i hNarrow
    rw [if_neg hNarrow] at hEven
    split
    · rw [length_levels width levels]
      exact climb_dedents _ _ _ _
    · rename_i hUneven
      rw [if_neg hUneven] at hEven
      exact absurd rfl (hEven _ List.mem_cons_self)

/- The words of a line and its end open and close nothing. -/
theorem plain_words
    (number : Nat)
    (cs : List Char) :
    ∀ token ∈
        (scan number 1 false cs).filterMap Item.token? ++
          [⟨.newline, Span.point number (cs.length + 1)⟩],
      token.kind ≠ .endOfFile ∧
        token.kind ≠ .indent ∧ token.kind ≠ .dedent := by
  intro token hToken
  rcases List.mem_append.mp hToken with hWord | hEnd
  · rcases List.mem_filterMap.mp hWord with
      ⟨item, hItem, hKind⟩
    have hWord :=
      isLayout_scan number 1 false cs item hItem token hKind
    refine ⟨?_, ?_, ?_⟩ <;>
      (intro hEq; rw [hEq] at hWord; cases hWord)
  · rw [List.mem_singleton.mp hEnd]
    simp

/- The words of a line stay at its level. -/
theorem climb_lexLine
    {number : Nat}
    {levels : List Nat}
    {cs : List Char}
    (hEven :
      ∀ issue ∈ (lexLine number levels cs).issues,
        issue.fault ≠ .inconsistentDedent)
    (rest : List Token) :
    Token.climb levels.length
        ((lexLine number levels cs).tokens ++ rest) =
      Token.climb (lexLine number levels cs).levels.length
        rest := by
  unfold lexLine at hEven ⊢
  split
  · rfl
  · rename_i hBusy
    rw [if_neg hBusy] at hEven
    dsimp only at hEven ⊢
    have hLayout := (List.forall_mem_append.mp hEven).1
    rw [List.append_assoc, List.append_assoc,
      climb_relayout hLayout, ← List.append_assoc]
    have hWords := plain_words number cs
    rw [Token.climb_append fun token hToken =>
        (hWords token hToken).1,
      Token.climb_flat fun token hToken =>
        (hWords token hToken).2]
    rfl

theorem climb_closing
    (finish : Span)
    (levels : List Nat) :
    Token.climb levels.length (closing finish levels) =
      some 0 :=
  climb_dedents finish levels 0 _

theorem climb_lexLines
    (finish : Span)
    (levels : List Nat)
    (log : Log Issue)
    (lines : List (Nat × String))
    (hClean :
      (lexLines finish levels log lines).log.total = 0) :
    Token.climb levels.length
        (lexLines finish levels log lines).tokens =
      some 0 := by
  induction lines generalizing levels log with
  | nil => exact climb_closing finish levels
  | cons line lines ih =>
      rcases line with ⟨number, text⟩
      rw [lexLines] at hClean ⊢
      split at hClean
      · rename_i hFull
        rw [if_pos hFull]
        exact climb_closing finish levels
      · rename_i hRoom
        rw [if_neg hRoom]
        dsimp only at hClean ⊢
        have hIssues := issues_of_clean hClean
        rw [climb_lexLine (by simp [hIssues])]
        exact ih _ _ hClean

theorem closed_lexLines
    (finish : Span)
    (levels : List Nat)
    (log : Log Issue)
    (lines : List (Nat × String)) :
    Token.Closed
      (lexLines finish levels log lines).tokens := by
  induction lines generalizing levels log with
  | nil => exact ⟨_, _, rfl, rfl⟩
  | cons line lines ih =>
      rcases line with ⟨number, text⟩
      rw [lexLines]
      split
      · exact ⟨_, _, rfl, rfl⟩
      · rcases ih (lexLine number levels text.toList).levels
            (log.pushAll
              (lexLine number levels text.toList).issues)
          with ⟨front, last, hTokens, hLast⟩
        refine
          ⟨(lexLine number levels text.toList).tokens ++
            front, last, ?_, hLast⟩
        rw [List.append_assoc, ← hTokens]

end Lexer

namespace Source

/- All levels of a script are closed at its end. -/
theorem climb_lex
    (source : Source)
    (hClean : source.lex.log.isEmpty = true) :
    Token.climb 0 source.lex.tokens = some 0 :=
  Lexer.climb_lexLines _ _ _ _ (beq_iff_eq.mp hClean)

theorem closed_lex
    (source : Source) :
    Token.Closed source.lex.tokens :=
  Lexer.closed_lexLines _ _ _ _

end Source

end Gantry
