import Gantry.Proofs.Parser.Growth

/-
  This file looks at the layout of the tokens of a script. A
  level is opened only by a line that has something on it,
  so that a script in which no character is at fault has a
  word behind every token that opens a level.

  Key definitions include:
    * `Gantry.TokenKind.isLayout`
    * `Gantry.Token.Leads`
    * `Gantry.Token.Filled`

  Main statements:
    * `Gantry.Lexer.filled_lexLine`
    * `Gantry.Source.filled_lex`
-/

------------------------------------------------------------
-- Filled Levels
------------------------------------------------------------

namespace Gantry

/- A token that stands for no characters of its own. -/
def TokenKind.isLayout :
    TokenKind → Bool
| indent => true
| dedent => true
| newline => true
| endOfFile => true
| _ => false

namespace Token

/- The first token is there for characters of a line. -/
def Leads :
    List Token → Prop
| [] => False
| token :: _ => token.kind.isLayout = false

/- Every level is opened by a line with characters. -/
def Filled :
    List Token → Prop
| [] => True
| token :: rest =>
    (token.kind = .indent → Leads rest) ∧ Filled rest

theorem filled_append
    {tokens rest : List Token}
    (hTokens : ∀ token ∈ tokens, token.kind ≠ .indent)
    (hRest : Filled rest) :
    Filled (tokens ++ rest) := by
  induction tokens with
  | nil => exact hRest
  | cons token tokens ih =>
      rw [List.forall_mem_cons] at hTokens
      exact ⟨fun hIndent => absurd hIndent hTokens.1,
        ih hTokens.2⟩

theorem Filled.of_append
    {tokens rest : List Token}
    (hFilled : Filled (tokens ++ rest)) :
    Filled rest := by
  induction tokens with
  | nil => exact hFilled
  | cons token tokens ih => exact ih hFilled.2

end Token

end Gantry

------------------------------------------------------------
-- Lines
------------------------------------------------------------

namespace Gantry

namespace Lexer

/- A lexeme is never layout. -/
theorem isLayout_lexemeAt
    {afterOperand : Bool}
    {c : Char}
    {rest : List Char}
    {kind : TokenKind}
    (hKind :
      (lexemeAt afterOperand c rest).1 = .token kind) :
    kind.isLayout = false := by
  unfold lexemeAt symbolLexeme numberLexeme wordLexeme
    at hKind
  dsimp only at hKind
  split at hKind
  · split at hKind
    · cases hKind
      rfl
    · contradiction
  · split at hKind
    · split at hKind
      · cases hKind
        rfl
      · contradiction
    · split at hKind
      · split at hKind
        · cases hKind
          rfl
        · cases hKind
          rfl
      · split at hKind
        · cases hKind
          rfl
        · split at hKind
          · cases hKind
            rfl
          · contradiction

theorem lexeme_of_token?
    {item : Item}
    {token : Token}
    (hToken : item.token? = some token) :
    item.lexeme = .token token.kind := by
  rcases item with ⟨lexeme, span⟩
  cases lexeme with
  | token kind =>
      cases hToken
      rfl
  | fault cause => contradiction

theorem isLayout_scan
    (line column : Nat)
    (afterOperand : Bool)
    (cs : List Char) :
    ∀ item ∈ scan line column afterOperand cs,
      ∀ token, item.token? = some token →
        token.kind.isLayout = false := by
  fun_induction scan line column afterOperand cs with
  | case1 => simp
  | case2 _ _ _ _ _ ih => exact ih
  | case3 => simp
  | case4 _ _ c rest _ _ found lexeme _ span ih =>
      rw [List.forall_mem_cons]
      refine ⟨fun token hToken => ?_, ih⟩
      exact isLayout_lexemeAt (lexeme_of_token? hToken)

/- A line that is not idle has a lexeme. -/
theorem scan_ne_nil
    (line column : Nat)
    (afterOperand : Bool)
    (cs : List Char)
    (hBusy : isIdle cs = false) :
    scan line column afterOperand cs ≠ [] := by
  fun_induction scan line column afterOperand cs with
  | case1 => simp [isIdle] at hBusy
  | case2 _ _ c rest hBlank ih =>
      apply ih
      rw [← hBusy]
      unfold isIdle
      rw [List.dropWhile_cons_of_pos hBlank]
  | case3 _ _ rest hBlank =>
      simp [isIdle, List.dropWhile_cons_of_neg hBlank]
        at hBusy
  | case4 => simp

/- An idle line has no lexemes. -/
theorem scan_of_isIdle
    (line column : Nat)
    (afterOperand : Bool)
    (cs : List Char)
    (hIdle : isIdle cs = true) :
    scan line column afterOperand cs = [] := by
  fun_induction scan line column afterOperand cs with
  | case1 => rfl
  | case2 _ _ c rest hBlank ih =>
      apply ih
      rw [← hIdle, isIdle, isIdle,
        List.dropWhile_cons_of_pos hBlank]
  | case3 => rfl
  | case4 _ _ c rest hVisible hComment =>
      rw [isIdle, List.dropWhile_cons_of_neg hVisible]
        at hIdle
      simp [hComment] at hIdle

/-
  Lexemes without an issue begin with a token that is not
  layout, whatever stands behind them.
-/
theorem leads_scan
    {cs : List Char}
    {line column : Nat}
    {afterOperand : Bool}
    (hBusy : isIdle cs = false)
    (hIssues :
      (scan line column afterOperand cs).filterMap
        Item.issue? = [])
    (rest : List Token) :
    Token.Leads
      ((scan line column afterOperand cs).filterMap
        Item.token? ++ rest) := by
  have hLayout := isLayout_scan line column afterOperand cs
  have hSome := scan_ne_nil line column afterOperand cs hBusy
  cases hItems : scan line column afterOperand cs with
  | nil => contradiction
  | cons item items =>
      rw [hItems] at hIssues hLayout
      rw [List.forall_mem_cons] at hLayout
      rcases item with ⟨lexeme, span⟩
      cases lexeme with
      | token kind => exact hLayout.1 ⟨kind, span⟩ rfl
      | fault cause => simp [Item.issue?] at hIssues

/- The line's own tokens open no level. -/
theorem ne_indent_scan
    (line column : Nat)
    (afterOperand : Bool)
    (cs : List Char) :
    ∀ token ∈
        (scan line column afterOperand cs).filterMap
          Item.token?,
      token.kind ≠ .indent := by
  intro token hToken hIndent
  rcases List.mem_filterMap.mp hToken with
    ⟨item, hItem, hKind⟩
  have hLayout :=
    isLayout_scan line column afterOperand cs item hItem
      token hKind
  rw [hIndent] at hLayout
  contradiction

/- A line with no issue opens a level only for its words. -/
theorem filled_lexLine
    {number : Nat}
    {levels : List Nat}
    {cs : List Char}
    {rest : List Token}
    (hIssues : (lexLine number levels cs).issues = [])
    (hRest : Token.Filled rest) :
    Token.Filled
      ((lexLine number levels cs).tokens ++ rest) := by
  cases hIdle : isIdle cs with
  | true => simpa [lexLine, hIdle] using hRest
  | false =>
      unfold lexLine at hIssues ⊢
      rw [if_neg (by simp [hIdle])] at hIssues ⊢
      have hScanned :=
        (List.append_eq_nil_iff.mp hIssues).2
      dsimp only
      rw [List.append_assoc, List.append_assoc]
      have hLeads := leads_scan hIdle hScanned
      have hEnd :
          Token.Filled
            ([⟨.newline,
              Span.point number (cs.length + 1)⟩] ++ rest) :=
        Token.filled_append (by simp) hRest
      have hWords :=
        Token.filled_append
          (ne_indent_scan number 1 false cs) hEnd
      unfold relayout
      dsimp only
      split
      · exact ⟨fun _ => hLeads _, hWords⟩
      · split
        · exact Token.filled_append (by simp) hWords
        · exact Token.filled_append (by simp) hWords

end Lexer

end Gantry

------------------------------------------------------------
-- Scripts
------------------------------------------------------------

namespace Gantry

theorem Log.total_pushAll
    {α : Type}
    (log : Log α)
    (entries : List α) :
    (log.pushAll entries).total =
      log.total + entries.length := by
  unfold pushAll
  induction entries generalizing log with
  | nil => rfl
  | cons entry entries ih =>
      rw [List.foldl_cons, ih, List.length_cons]
      exact Nat.add_right_comm log.total 1 entries.length

theorem Log.Extends.total_le
    {α : Type}
    {log later : Log α}
    (hExtends : log.Extends later) :
    log.total ≤ later.total := by
  rcases hExtends with ⟨entries, rfl⟩
  rw [total_pushAll]
  omega

namespace Lexer

theorem extends_lexLines
    (finish : Span)
    (levels : List Nat)
    (log : Log Issue)
    (lines : List (Nat × String)) :
    log.Extends (lexLines finish levels log lines).log := by
  induction lines generalizing levels log with
  | nil => exact Log.Extends.refl log
  | cons line lines ih =>
      rcases line with ⟨number, text⟩
      rw [lexLines]
      split
      · exact Log.Extends.refl log
      · exact Log.Extends.trans ⟨_, rfl⟩ (ih _ _)

/- Issues of a line are not lost behind it. -/
theorem issues_of_clean
    {finish : Span}
    {levels : List Nat}
    {log : Log Issue}
    {issues : List Issue}
    {lines : List (Nat × String)}
    (hClean :
      (lexLines finish levels (log.pushAll issues)
        lines).log.total = 0) :
    issues = [] := by
  have hTotal :=
    (extends_lexLines finish levels (log.pushAll issues)
      lines).total_le
  rw [Log.total_pushAll] at hTotal
  apply List.eq_nil_of_length_eq_zero
  omega

theorem filled_closing
    (finish : Span)
    (levels : List Nat) :
    Token.Filled (closing finish levels) :=
  Token.filled_append (by simp)
    ⟨by simp, trivial⟩

theorem filled_lexLines
    (finish : Span)
    (levels : List Nat)
    (log : Log Issue)
    (lines : List (Nat × String))
    (hClean :
      (lexLines finish levels log lines).log.total = 0) :
    Token.Filled
      (lexLines finish levels log lines).tokens := by
  induction lines generalizing levels log with
  | nil => exact filled_closing finish levels
  | cons line lines ih =>
      rcases line with ⟨number, text⟩
      rw [lexLines] at hClean ⊢
      split at hClean
      · rename_i hFull
        rw [if_pos hFull]
        exact filled_closing finish levels
      · rename_i hRoom
        rw [if_neg hRoom]
        exact filled_lexLine (issues_of_clean hClean)
          (ih _ _ hClean)

end Lexer

/- A level is opened only for the words of a line. -/
theorem Source.filled_lex
    (source : Source)
    (hClean : source.lex.log.isEmpty = true) :
    Token.Filled source.lex.tokens :=
  Lexer.filled_lexLines _ _ _ _ (beq_iff_eq.mp hClean)

end Gantry
