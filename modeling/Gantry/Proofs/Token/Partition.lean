import Gantry.Proofs.Token.Passage

/-
  This file shows that the lexer partitions each line it
  goes through: the spans of its words and of the faults
  among them follow one another on the line, what they cover
  is how the word is written, and nothing is left between
  them but blanks and, at the end, a comment.

  Key definitions include:
    * `Gantry.Lexer.Escaped`
    * `Gantry.Lexer.Lexeme.Spelled`
    * `Gantry.Lexer.Cuts`
    * `Gantry.Lexer.Partitions`
    * `Gantry.Token.SignFits`

  Main statements:
    * `Gantry.Lexer.quoted?_eq_some_iff`
    * `Gantry.Lexer.cuts_scan`
    * `Gantry.Lexer.Cuts.partitions`
    * `Gantry.Source.lexemes_partition_lines`
-/

------------------------------------------------------------
-- Strings
------------------------------------------------------------

namespace Gantry

namespace Lexer

/-
  The character that a backslash and the given one stand
  for.
-/
def resolve
    (c : Char) : Char :=
  if c = 'n' then
    '\n'
  else if c = 't' then
    '\t'
  else
    c

/-
  Characters between two quotes, none of which closes the
  string, and the text that they stand for.
-/
inductive Escaped
    (quote : Char) :
    List Char → List Char → Prop where
  | nil :
      Escaped quote [] []
  | plain
      {c : Char}
      {body text : List Char}
      (hQuote : c ≠ quote)
      (hEscape : c ≠ '\\')
      (hRest : Escaped quote body text) :
      Escaped quote (c :: body) (c :: text)
  | escape
      {c : Char}
      {body text : List Char}
      (hRest : Escaped quote body text) :
      Escaped quote ('\\' :: c :: body) (resolve c :: text)

theorem quoted?_escape
    (quote c : Char)
    (rest : List Char) :
    quoted? quote ('\\' :: c :: rest) =
      (quoted? quote rest).map fun (text, count) =>
        (resolve c :: text, count + 2) := rfl

theorem quoted?_plain
    {c : Char}
    (hEscape : c ≠ '\\')
    (quote : Char)
    (rest : List Char) :
    quoted? quote (c :: rest) =
      if c = quote then
        some ([], 1)
      else
        (quoted? quote rest).map fun (text, count) =>
          (c :: text, count + 1) := by
  rw [quoted?]
  · intro h
    exact absurd h hEscape
  · intro _ _ h
    exact absurd h hEscape

/- A string ends at the first quote that is not escaped. -/
theorem quoted?_eq_some_iff
    {quote : Char}
    (hQuote : quote ≠ '\\')
    {cs text : List Char}
    {count : Nat} :
    quoted? quote cs = some (text, count) ↔
      ∃ body rest,
        cs = body ++ quote :: rest ∧
          Escaped quote body text ∧
            count = body.length + 1 := by
  constructor
  · intro hText
    fun_induction quoted? quote cs generalizing text count
      with
    | case1 => contradiction
    | case2 => contradiction
    | case3 c rest =>
        rename_i ih
        rcases Option.map_eq_some_iff.mp hText with
          ⟨⟨more, taken⟩, hRest, hPair⟩
        rcases ih hRest with ⟨body, after, rfl, hBody, rfl⟩
        cases hPair
        exact ⟨'\\' :: c :: body, after, rfl, .escape hBody,
          rfl⟩
    | case4 rest =>
        cases hText
        exact ⟨[], rest, rfl, .nil, rfl⟩
    | case5 c rest hAlone hPair hOther ih =>
        rcases Option.map_eq_some_iff.mp hText with
          ⟨⟨more, taken⟩, hRest, hPair⟩
        rcases ih hRest with ⟨body, after, rfl, hBody, rfl⟩
        cases hPair
        have hEscape : c ≠ '\\' := by
          rintro rfl
          cases body with
          | nil => exact hPair _ _ rfl rfl
          | cons d body => exact hPair _ _ rfl rfl
        exact ⟨c :: body, after, rfl,
          .plain hOther hEscape hBody, rfl⟩
  · rintro ⟨body, rest, rfl, hBody, rfl⟩
    induction hBody with
    | nil =>
        rw [List.nil_append, quoted?_plain hQuote,
          if_pos rfl]
        rfl
    | plain hOther hEscape _ ih =>
        rw [List.cons_append, quoted?_plain hEscape,
          if_neg hOther, ih]
        rfl
    | escape _ ih =>
        rw [List.cons_append, List.cons_append,
          quoted?_escape, ih]
        rfl

/- A string without an end holds no quote that closes it. -/
theorem quoted?_eq_none_iff
    {quote : Char}
    (hQuote : quote ≠ '\\')
    {cs : List Char} :
    quoted? quote cs = none ↔
      ∀ body text rest,
        Escaped quote body text →
          cs ≠ body ++ quote :: rest := by
  rw [Option.eq_none_iff_forall_ne_some]
  constructor
  · intro hNone body text rest hBody hChars
    exact hNone (text, body.length + 1)
      ((quoted?_eq_some_iff hQuote).mpr
        ⟨body, rest, hChars, hBody, rfl⟩)
  · rintro hNone ⟨text, count⟩ hText
    rcases (quoted?_eq_some_iff hQuote).mp hText with
      ⟨body, rest, hChars, hBody, _⟩
    exact hNone body text rest hBody hChars

end Lexer

end Gantry

------------------------------------------------------------
-- Spellings
------------------------------------------------------------

namespace Gantry

namespace Lexer

/- A quotation mark that can open a string. -/
def IsQuote
    (c : Char) : Prop :=
  c = '"' ∨ c = '\''

/-
  The characters of a number: a digit, then digits and
  points, and possibly a minus in front of them.
-/
def Numeric
    (cs : List Char) : Prop :=
  ∃ sign digit more,
    cs = sign ++ digit :: more ∧
      (sign = [] ∨ sign = ['-']) ∧
        Number.isDigit digit = true ∧
          ∀ c ∈ more, Number.isDigit c = true ∨ c = '.'

end Lexer

open Lexer

/- What is written where a token was found. -/
def TokenKind.Spelled :
    TokenKind → List Char → Prop
| .number numeral, cs =>
    Numeric cs ∧
      ∃ x, Number.read? cs = some x ∧
        numeral = Numeral.ofFloat x
| .string text, cs =>
    ∃ quote body,
      IsQuote quote ∧ cs = quote :: (body ++ [quote]) ∧
        Escaped quote body text.toList
| kind, cs =>
    kind.isLayout = false ∧ kind.text.toList = cs

/- What is written where a fault was found. -/
def Fault.Spelled :
    Fault → List Char → Prop
| .unexpectedCharacter c, cs => cs = [c]
| .invalidNumber text, cs =>
    Numeric cs ∧ Number.read? cs = none ∧
      text.toList = cs
| .unterminatedString quote, cs =>
    IsQuote quote ∧
      ∃ more, cs = quote :: more ∧
        ∀ body text rest,
          Escaped quote body text →
            more ≠ body ++ quote :: rest
| _, _ => False

namespace Lexer

/- What is written where a lexeme was found. -/
def Lexeme.Spelled :
    Lexeme → List Char → Prop
| .token kind, cs => kind.Spelled cs
| .fault cause, cs => cause.Spelled cs

/- A minus belongs to the number. -/
def Lexeme.Signed
    (lexeme : Lexeme)
    (cs : List Char) : Prop :=
  (∃ numeral, lexeme = .token (.number numeral)) ∧
    cs.head? = some '-'

theorem spelled_numberLexeme
    {cs : List Char}
    (hNumeric : Numeric cs) :
    (numberLexeme cs).Spelled cs := by
  unfold numberLexeme
  cases hRead : Number.read? cs with
  | some x => exact ⟨hNumeric, x, hRead, rfl⟩
  | none =>
      exact ⟨hNumeric, hRead, String.toList_ofList⟩

/- The characters from the first one on form a number. -/
theorem numeric_of_startsNumber
    {afterOperand : Bool}
    {c : Char}
    {rest : List Char}
    (hStarts : startsNumber afterOperand c rest = true) :
    Numeric (c :: rest.takeWhile isNumberPart) := by
  have hRun :
      ∀ d ∈ rest.takeWhile isNumberPart,
        Number.isDigit d = true ∨ d = '.' := by
    intro d hDigit
    simpa [isNumberPart] using
      List.mem_takeWhile_imp hDigit
  rcases Bool.or_eq_true_iff.mp hStarts with hDigit | hMinus
  · exact ⟨[], c, _, rfl, .inl rfl, hDigit, hRun⟩
  · simp only [Bool.and_eq_true, beq_iff_eq] at hMinus
    rcases hMinus with ⟨⟨rfl, _⟩, hNext⟩
    cases rest with
    | nil => simp at hNext
    | cons digit rest =>
        have hDigit : Number.isDigit digit = true := hNext
        have hPart : isNumberPart digit = true := by
          simp [isNumberPart, hDigit]
        rw [List.takeWhile_cons_of_pos hPart] at hRun ⊢
        exact ⟨['-'], digit, _, rfl, .inr rfl, hDigit,
          (List.forall_mem_cons.mp hRun).2⟩

theorem spelled_wordLexeme
    (cs : List Char) :
    (wordLexeme (String.ofList cs)).Spelled cs := by
  unfold wordLexeme
  cases hWord : Keyword.ofText? (String.ofList cs) with
  | none => exact ⟨rfl, String.toList_ofList⟩
  | some keyword =>
      have hText := List.find?_some hWord
      refine ⟨rfl, ?_⟩
      change keyword.text.toList = cs
      rw [beq_iff_eq.mp hText, String.toList_ofList]

theorem text_of_doubleSymbol?
    {c d : Char}
    {mark : Symbol}
    (hMark : doubleSymbol? c d = some mark) :
    mark.text.toList = [c, d] := by
  unfold doubleSymbol? at hMark
  split at hMark <;> cases hMark <;> rfl

theorem text_of_singleSymbol?
    {c : Char}
    {mark : Symbol}
    (hMark : singleSymbol? c = some mark) :
    mark.text.toList = [c] := by
  unfold singleSymbol? at hMark
  split at hMark <;> cases hMark <;> rfl

/-
  So many of the characters behind the first one belong to
  the lexeme, and together they spell it. A number has a
  minus only where no operand ends.
-/
def Fits
    (afterOperand : Bool)
    (c : Char)
    (rest : List Char)
    (found : Lexeme × Nat) : Prop :=
  found.2 ≤ rest.length ∧
    found.1.Spelled (c :: rest.take found.2) ∧
      (found.1.Signed (c :: rest.take found.2) →
        afterOperand = false)

/- A lexeme that is no number has no sign. -/
theorem fits_of_spelled
    {afterOperand : Bool}
    {c : Char}
    {rest : List Char}
    {lexeme : Lexeme}
    {more : Nat}
    (hLength : more ≤ rest.length)
    (hSpelled : lexeme.Spelled (c :: rest.take more))
    (hOther : ∀ numeral, lexeme ≠ .token (.number numeral)) :
    Fits afterOperand c rest (lexeme, more) := by
  refine ⟨hLength, hSpelled, ?_⟩
  rintro ⟨⟨numeral, hNumber⟩, _⟩
  exact absurd hNumber (hOther numeral)

theorem fits_quoted
    (afterOperand : Bool)
    {quote : Char}
    (hQuote : IsQuote quote)
    (rest : List Char) :
    Fits afterOperand quote rest
      (match quoted? quote rest with
        | some (text, count) =>
            (.token (.string (String.ofList text)), count)
        | none =>
            (.fault (.unterminatedString quote),
              rest.length)) := by
  have hPlain : quote ≠ '\\' := by
    rcases hQuote with rfl | rfl <;> decide
  cases hText : quoted? quote rest with
  | none =>
      apply fits_of_spelled (Nat.le_refl _)
      · rw [List.take_length]
        exact ⟨hQuote, rest, rfl,
          (quoted?_eq_none_iff hPlain).mp hText⟩
      · simp
  | some found =>
      rcases found with ⟨text, count⟩
      rcases (quoted?_eq_some_iff hPlain).mp hText with
        ⟨body, after, rfl, hBody, rfl⟩
      apply fits_of_spelled
      · simp
      · refine ⟨quote, body, hQuote, ?_, ?_⟩
        · simp [List.take_append]
        · rwa [String.toList_ofList]
      · simp

theorem fits_number
    {afterOperand : Bool}
    {c : Char}
    {rest : List Char}
    (hStarts : startsNumber afterOperand c rest = true) :
    let run := rest.takeWhile isNumberPart
    Fits afterOperand c rest
      (numberLexeme (c :: run), run.length) := by
  intro run
  have hFront : run <+: rest :=
    List.takeWhile_prefix isNumberPart
  have hRun : rest.take run.length = run :=
    (List.prefix_iff_eq_take.mp hFront).symm
  refine ⟨hFront.length_le, ?_, ?_⟩
  · rw [hRun]
    exact spelled_numberLexeme
      (numeric_of_startsNumber hStarts)
  · rintro ⟨_, hMinus⟩
    cases hMinus
    have hSign :
        afterOperand = false ∧
          rest.head?.any Number.isDigit = true := by
      simpa [startsNumber, Number.isDigit] using hStarts
    exact hSign.1

theorem fits_word
    (afterOperand : Bool)
    (c : Char)
    (rest : List Char) :
    let run := rest.takeWhile isNamePart
    Fits afterOperand c rest
      (wordLexeme (String.ofList (c :: run)),
        run.length) := by
  intro run
  have hFront : run <+: rest :=
    List.takeWhile_prefix isNamePart
  have hRun : rest.take run.length = run :=
    (List.prefix_iff_eq_take.mp hFront).symm
  apply fits_of_spelled hFront.length_le
  · rw [hRun]
    exact spelled_wordLexeme (c :: run)
  · intro numeral
    unfold wordLexeme
    split <;> simp

theorem fits_symbol
    (afterOperand : Bool)
    (c : Char)
    (rest : List Char) :
    Fits afterOperand c rest (symbolLexeme c rest) := by
  unfold symbolLexeme
  split
  · rename_i mark hMark
    cases rest with
    | nil => simp at hMark
    | cons d rest =>
        apply fits_of_spelled (by simp)
        · exact ⟨rfl, text_of_doubleSymbol? hMark⟩
        · simp
  · split
    · rename_i mark hMark
      apply fits_of_spelled (Nat.zero_le _)
      · exact ⟨rfl, text_of_singleSymbol? hMark⟩
      · simp
    · apply fits_of_spelled (Nat.zero_le _)
      · rfl
      · simp

/- What is read from a character on is written there. -/
theorem fits_lexemeAt
    (afterOperand : Bool)
    (c : Char)
    (rest : List Char) :
    Fits afterOperand c rest
      (lexemeAt afterOperand c rest) := by
  unfold lexemeAt
  split
  · rename_i hQuote
    exact fits_quoted afterOperand hQuote rest
  · split
    · rename_i hStarts
      exact fits_number hStarts
    · split
      · exact fits_word afterOperand c rest
      · exact fits_symbol afterOperand c rest

end Lexer

end Gantry

------------------------------------------------------------
-- Cutting Up A Line
------------------------------------------------------------

namespace Gantry

namespace Lexer

/-
  The characters of a line behind those that are used up are
  cut into items, with blanks between them and possibly a
  comment at the end.
-/
inductive Cuts
    (line : Nat) :
    Nat → Bool → List Char → List Item → Prop where
  | done
      (used : Nat)
      (afterOperand : Bool) :
      Cuts line used afterOperand [] []
  | comment
      (used : Nat)
      (afterOperand : Bool)
      (rest : List Char) :
      Cuts line used afterOperand ('#' :: rest) []
  | blank
      {used : Nat}
      {afterOperand : Bool}
      {c : Char}
      {rest : List Char}
      {items : List Item}
      (hBlank : Text.isBlank c = true)
      (hRest : Cuts line (used + 1) afterOperand rest items) :
      Cuts line used afterOperand (c :: rest) items
  | item
      {used : Nat}
      {afterOperand : Bool}
      {lexeme : Lexeme}
      {chars rest : List Char}
      {items : List Item}
      (hSome : 0 < chars.length)
      (hSpelled : lexeme.Spelled chars)
      (hSigned : lexeme.Signed chars → afterOperand = false)
      (hRest :
        Cuts line (used + chars.length)
          (lexeme.endsOperand afterOperand) rest items) :
      Cuts line used afterOperand (chars ++ rest)
        (⟨lexeme,
          Span.onLine line (used + 1) chars.length⟩ :: items)

/- What the lexer finds on a line is cut out of it. -/
theorem cuts_scan
    (line used : Nat)
    (afterOperand : Bool)
    (cs : List Char) :
    Cuts line used afterOperand cs
      (scan line (used + 1) afterOperand cs) := by
  generalize hColumn : used + 1 = column
  fun_induction scan line column afterOperand cs
    generalizing used with
  | case1 => exact .done _ _
  | case2 column afterOperand c rest hBlank ih =>
      exact .blank hBlank
        (ih (used + 1) (congrArg (· + 1) hColumn))
  | case3 column afterOperand rest =>
      exact .comment _ _ rest
  | case4 column afterOperand c rest _ _ found lexeme more
      span ih =>
      subst hColumn
      rcases fits_lexemeAt afterOperand c rest with
        ⟨hMore, hSpelled, hSigned⟩
      let chars := c :: rest.take more
      have hLength : chars.length = more + 1 :=
        congrArg (· + 1) (List.length_take_of_le hMore)
      have hNext :
          used + chars.length + 1 =
            used + 1 + more + 1 := by
        rw [hLength, ← Nat.add_assoc, Nat.add_right_comm used]
      have hRest := ih (used + chars.length) hNext
      have hSome : 0 < chars.length :=
        hLength ▸ Nat.succ_pos more
      have hItem := Cuts.item hSome hSpelled hSigned hRest
      have hSpan :
          Span.onLine line (used + 1) chars.length = span := by
        rw [hLength]
        rfl
      have hChars : chars ++ rest.drop more = c :: rest :=
        congrArg (c :: ·) (List.take_append_drop more rest)
      rw [hSpan, hChars] at hItem
      exact hItem

/- The column lies in none of the items. -/
def Uncovered
    (items : List Item)
    (column : Nat) : Prop :=
  ∀ item ∈ items,
    ¬(item.span.start.column ≤ column ∧
      column ≤ item.span.stop.column)

end Lexer

/- The characters of a line that a span covers. -/
def Span.chars
    (span : Span)
    (cs : List Char) : List Char :=
  (cs.drop (span.start.column - 1)).take
    (span.stop.column + 1 - span.start.column)

/- The characters that a span was made for. -/
theorem Span.chars_onLine
    (line : Nat)
    (front : List Char)
    {chars : List Char}
    (rest : List Char)
    (hSome : 0 < chars.length) :
    (Span.onLine line (front.length + 1) chars.length).chars
      (front ++ (chars ++ rest)) = chars := by
  have hCount :
      front.length + 1 + (chars.length - 1) + 1 -
        (front.length + 1) = chars.length := by omega
  unfold Span.chars Span.onLine
  dsimp only
  rw [hCount, Nat.add_sub_cancel, List.drop_left,
    List.take_left]

namespace Lexer

/-
  The items of a line partition its characters: they lie on
  it one behind the other, each is spelled by what it
  covers, and every other character is a blank or belongs to
  a comment behind the last item.
-/
structure Partitions
    (line : Nat)
    (cs : List Char)
    (items : List Item) : Prop where
  within :
    ∀ item ∈ items,
      item.span.On line ∧ 1 ≤ item.span.start.column ∧
        item.span.start.column ≤ item.span.stop.column ∧
          item.span.stop.column ≤ cs.length
  ordered :
    items.Pairwise fun item later =>
      item.span.stop.column < later.span.start.column
  spelled :
    ∀ item ∈ items, item.lexeme.Spelled (item.span.chars cs)
  between :
    ∀ index c,
      cs[index]? = some c → Uncovered items (index + 1) →
        Text.isBlank c = true ∨
          ∃ text comment,
            cs = text ++ '#' :: comment ∧
              text.length ≤ index ∧
                ∀ column, text.length < column →
                  Uncovered items column

namespace Cuts

variable
    {line used : Nat}
    {afterOperand : Bool}
    {cs : List Char}
    {items : List Item}

theorem within
    (hCuts : Cuts line used afterOperand cs items) :
    ∀ item ∈ items,
      item.span.On line ∧ used < item.span.start.column ∧
        item.span.start.column ≤ item.span.stop.column ∧
          item.span.stop.column ≤ used + cs.length := by
  induction hCuts with
  | done => simp
  | comment => simp
  | blank _ _ ih =>
      intro item hItem
      rcases ih item hItem with ⟨hOn, hWithin⟩
      refine ⟨hOn, ?_⟩
      simp only [List.length_cons]
      omega
  | @item used _ _ chars rest _ hSome _ _ _ ih =>
      rw [List.forall_mem_cons]
      simp only [List.length_append]
      constructor
      · refine ⟨⟨rfl, rfl⟩, ?_⟩
        simp only [Span.onLine]
        omega
      · intro item hItem
        rcases ih item hItem with ⟨hOn, hWithin⟩
        refine ⟨hOn, ?_⟩
        omega

theorem ordered
    (hCuts : Cuts line used afterOperand cs items) :
    items.Pairwise fun item later =>
      item.span.stop.column < later.span.start.column := by
  induction hCuts with
  | done => exact .nil
  | comment => exact .nil
  | blank _ _ ih => exact ih
  | item hSome _ _ hRest ih =>
      refine .cons ?_ ih
      intro later hLater
      have hWithin := hRest.within later hLater
      simp only [Span.onLine]
      omega

/- The characters in front are those that are used up. -/
theorem spelled
    (hCuts : Cuts line used afterOperand cs items)
    (front : List Char)
    (hFront : front.length = used) :
    ∀ item ∈ items,
      item.lexeme.Spelled
        (item.span.chars (front ++ cs)) := by
  induction hCuts generalizing front with
  | done => simp
  | comment => simp
  | @blank _ _ c rest _ _ _ ih =>
      have hRest := ih (front ++ [c]) (by simp [hFront])
      simpa using hRest
  | @item _ _ _ chars rest _ hSome hSpelled _ _ ih =>
      have hRest := ih (front ++ chars) (by simp [hFront])
      rw [List.append_assoc] at hRest
      refine List.forall_mem_cons.mpr ⟨?_, hRest⟩
      dsimp only
      rwa [← hFront, Span.chars_onLine line front rest hSome]

theorem between
    (hCuts : Cuts line used afterOperand cs items) :
    ∀ index c,
      cs[index]? = some c →
        Uncovered items (used + index + 1) →
          Text.isBlank c = true ∨
            ∃ text comment,
              cs = text ++ '#' :: comment ∧
                text.length ≤ index ∧
                  ∀ column, used + text.length < column →
                    Uncovered items column := by
  induction hCuts with
  | done => simp
  | comment used afterOperand rest =>
      intro index c _ _
      exact .inr ⟨[], rest, rfl, Nat.zero_le index,
        by simp [Uncovered]⟩
  | @blank used _ c rest items hBlank _ ih =>
      intro index d hChar hUncovered
      cases index with
      | zero =>
          cases hChar
          exact .inl hBlank
      | succ index =>
          rw [← Nat.add_assoc, Nat.add_right_comm used]
            at hUncovered
          rcases ih index d hChar hUncovered with
            hIdle | ⟨text, comment, rfl, hText, hLater⟩
          · exact .inl hIdle
          · refine .inr ⟨c :: text, comment, rfl, ?_, ?_⟩
            · exact Nat.succ_le_succ hText
            · intro column hColumn
              rw [List.length_cons] at hColumn
              exact hLater column (by omega)
  | @item used _ lexeme chars rest items hSome _ _ _ ih =>
      intro index d hChar hUncovered
      rw [Uncovered, List.forall_mem_cons] at hUncovered
      rcases hUncovered with ⟨hFirst, hOthers⟩
      dsimp only [Span.onLine] at hFirst
      have hBehind : chars.length ≤ index := by omega
      rcases Nat.exists_eq_add_of_le hBehind with
        ⟨place, rfl⟩
      rw [List.getElem?_append_right hBehind,
        Nat.add_sub_cancel_left] at hChar
      rw [← Nat.add_assoc] at hOthers
      rcases ih place d hChar hOthers with
        hIdle | ⟨text, comment, rfl, hText, hLater⟩
      · exact .inl hIdle
      · refine .inr ⟨chars ++ text, comment, by simp, ?_, ?_⟩
        · rw [List.length_append]
          omega
        · intro column hColumn
          rw [List.length_append] at hColumn
          refine List.forall_mem_cons.mpr
            ⟨?_, hLater column (by omega)⟩
          dsimp only [Span.onLine]
          omega

theorem partitions
    (hCuts : Cuts line 0 afterOperand cs items) :
    Partitions line cs items where
  within item hItem := by
    rcases hCuts.within item hItem with
      ⟨hOn, hFirst, hLast, hEnd⟩
    exact ⟨hOn, hFirst, hLast, by omega⟩
  ordered := hCuts.ordered
  spelled := by
    have hSpelled := hCuts.spelled [] rfl
    simpa using hSpelled
  between := by
    have hBetween := hCuts.between
    simpa only [Nat.zero_add] using hBetween

end Cuts

end Lexer

end Gantry

------------------------------------------------------------
-- Signs Of Numbers
------------------------------------------------------------

namespace Gantry

/-
  A number that is written with a minus stands behind a
  token that cannot end an operand. The characters that a
  span covers are given.
-/
def Token.SignFits
    (chars : Span → List Char)
    (previous token : Token) : Prop :=
  (∃ numeral, token.kind = .number numeral) →
    (chars token.span).head? = some '-' →
      previous.kind.endsOperand = false

theorem Token.signFits_of_isLayout
    {token : Token}
    (hLayout : token.kind.isLayout = true)
    (chars : Span → List Char)
    (previous : Token) :
    SignFits chars previous token := by
  rintro ⟨numeral, hNumber⟩
  rw [hNumber] at hLayout
  contradiction

theorem TokenKind.endsOperand_of_isLayout
    {kind : TokenKind}
    (hLayout : kind.isLayout = true) :
    kind.endsOperand = false := by
  cases kind with
  | indent => rfl
  | dedent => rfl
  | newline => rfl
  | endOfFile => rfl
  | _ => contradiction

/-
  Signs fit among some tokens, and no operand ends behind
  them.
-/
structure Token.SignsFit
    (chars : Span → List Char)
    (tokens : List Token) : Prop where
  chain : tokens.IsChain (SignFits chars)
  last :
    ∀ token ∈ tokens.getLast?,
      token.kind.endsOperand = false

/- Layout ends no operand and is no number. -/
theorem Token.signsFit_append
    {chars : Span → List Char}
    {tokens layout : List Token}
    (hTokens : tokens.IsChain (SignFits chars))
    (hLayout : ∀ token ∈ layout, token.kind.isLayout = true)
    (hLast :
      layout = [] → ∀ token ∈ tokens.getLast?,
        token.kind.endsOperand = false) :
    SignsFit chars (tokens ++ layout) := by
  have hPairs : layout.Pairwise (SignFits chars) :=
    List.pairwise_of_forall_mem_list
      fun previous _ token hToken =>
        signFits_of_isLayout (hLayout token hToken) chars
          previous
  constructor
  · refine List.isChain_append.mpr
      ⟨hTokens, hPairs.isChain, ?_⟩
    intro previous _ token hToken
    exact signFits_of_isLayout
      (hLayout token (List.mem_of_mem_head? hToken)) chars
      previous
  · intro token hToken
    rw [List.getLast?_append] at hToken
    cases hEnd : layout.getLast? with
    | none =>
        rw [hEnd, Option.none_or] at hToken
        exact hLast (List.getLast?_eq_none_iff.mp hEnd) token
          hToken
    | some last =>
        rw [hEnd] at hToken
        cases hToken
        exact TokenKind.endsOperand_of_isLayout
          (hLayout token (List.mem_of_getLast? hEnd))

namespace Lexer

/- A sign fits to what is found in front of it on a line. -/
theorem Cuts.signs
    {line used : Nat}
    {afterOperand : Bool}
    {cs : List Char}
    {items : List Item}
    (hCuts : Cuts line used afterOperand cs items)
    (front : List Char)
    (hFront : front.length = used)
    {chars : Span → List Char}
    (hChars :
      ∀ span, span.On line →
        chars span = span.chars (front ++ cs))
    (previous : Token)
    (hPrevious : previous.kind.endsOperand = afterOperand) :
    (previous :: items.filterMap Item.token?).IsChain
      (Token.SignFits chars) := by
  induction hCuts generalizing front previous with
  | done => exact .singleton previous
  | comment => exact .singleton previous
  | @blank _ _ c rest _ _ _ ih =>
      refine ih (front ++ [c]) (by simp [hFront]) ?_ previous
        hPrevious
      simpa using hChars
  | @item used _ lexeme text rest items hSome _ hSigned _
      ih =>
      have hText :
          chars (Span.onLine line (used + 1) text.length) =
            text := by
        rw [hChars _ ⟨rfl, rfl⟩, ← hFront,
          Span.chars_onLine line front rest hSome]
      have hLater (token : Token) :=
        ih (front ++ text) (by simp [hFront])
          (by simpa using hChars) token
      cases lexeme with
      | token kind =>
          refine .cons_cons ?_ (hLater _ rfl)
          rintro ⟨numeral, hNumber⟩ hMinus
          dsimp only at hNumber hMinus
          rw [hText] at hMinus
          rw [hPrevious]
          exact hSigned ⟨⟨numeral, hNumber ▸ rfl⟩, hMinus⟩
      | fault cause =>
          exact hLater previous hPrevious

theorem isLayout_relayout
    (number width : Nat)
    (levels : List Nat) :
    ∀ token ∈ (relayout number width levels).tokens,
      token.kind.isLayout = true := by
  unfold relayout
  dsimp only
  split
  · simp [TokenKind.isLayout]
  · split
    · simp [TokenKind.isLayout]
    · simp [TokenKind.isLayout]

/- The signs of one more line fit. -/
theorem signsFit_lexLine
    {chars : Span → List Char}
    {tokens : List Token}
    (hTokens : Token.SignsFit chars tokens)
    {number : Nat}
    {cs : List Char}
    (hChars :
      ∀ span, span.On number → chars span = span.chars cs)
    (levels : List Nat) :
    Token.SignsFit chars
      (tokens ++ (lexLine number levels cs).tokens) := by
  unfold lexLine
  split
  · rwa [List.append_nil]
  · have hOpened :=
      Token.signsFit_append hTokens.chain
        (isLayout_relayout number (indentWidth cs) levels)
        fun _ => hTokens.last
    -- In front of the line's own words no operand ends.
    have hWords :=
      (cuts_scan number 0 false cs).signs [] rfl hChars
        ⟨.newline, Span.unset⟩ rfl
    have hLine :=
      List.isChain_append.mpr
        ⟨hOpened.chain, hWords.tail,
          fun previous hPrevious _ _ _ _ =>
            hOpened.last previous hPrevious⟩
    dsimp only
    rw [← List.append_assoc, ← List.append_assoc]
    exact Token.signsFit_append hLine
      (by simp [TokenKind.isLayout]) (by simp)

end Lexer

end Gantry

------------------------------------------------------------
-- Scripts
------------------------------------------------------------

namespace Gantry

open Lexer

namespace Lexer

/- A fault of the layout is not one of the words. -/
theorem faults_relayout
    (number width : Nat)
    (levels : List Nat) :
    (relayout number width levels).issues.filter
      (fun issue => issue.fault != .inconsistentDedent) =
      [] := by
  unfold relayout
  dsimp only
  split
  · rfl
  · split <;> rfl

theorem faults_scan
    (number : Nat)
    (cs : List Char) :
    ((scan number 1 false cs).filterMap Item.issue?).filter
        (fun issue => issue.fault != .inconsistentDedent) =
      (scan number 1 false cs).filterMap Item.issue? := by
  rw [List.filter_eq_self]
  intro issue hIssue
  rcases List.mem_filterMap.mp hIssue with
    ⟨⟨lexeme, span⟩, hItem, hSome⟩
  cases lexeme with
  | token kind => contradiction
  | fault cause =>
      cases hSome
      have hSpelled :=
        (cuts_scan number 0 false cs).spelled [] rfl _ hItem
      rw [bne_iff_ne]
      rintro rfl
      exact hSpelled

/- What opens or closes levels is not among the words. -/
theorem filter_lexLine
    (number : Nat)
    (levels : List Nat)
    (cs : List Char) :
    let items := scan number 1 false cs
    (lexLine number levels cs).tokens.filter
          (fun token => !token.kind.isLayout) =
        items.filterMap Item.token? ∧
      (lexLine number levels cs).issues.filter
          (fun issue => issue.fault != .inconsistentDedent) =
        items.filterMap Item.issue? := by
  dsimp only
  unfold lexLine
  split
  · rename_i hIdle
    rw [scan_of_isIdle number 1 false cs hIdle]
    exact ⟨rfl, rfl⟩
  · have hLayout :
        (relayout number (indentWidth cs)
            levels).tokens.filter
          (fun token => !token.kind.isLayout) = [] := by
      rw [List.filter_eq_nil_iff]
      intro token hToken
      simp [isLayout_relayout _ _ _ token hToken]
    have hWords :
        ((scan number 1 false cs).filterMap
            Item.token?).filter
          (fun token => !token.kind.isLayout) =
        (scan number 1 false cs).filterMap Item.token? := by
      rw [List.filter_eq_self]
      intro token hToken
      simp [(words_flat number cs token hToken).1]
    constructor
    · rw [List.filter_append, List.filter_append, hLayout,
        hWords]
      exact List.append_nil _
    · rw [List.filter_append, faults_relayout, faults_scan]
      rfl

/-
  What is found on one line, among what is found on others
  as well.
-/
theorem filter_between
    {α : Type}
    {line : α → Nat}
    {number : Nat}
    {before own after : List α}
    (hOthers : ∀ found ∈ before ++ after, line found ≠ number)
    (hOwn : ∀ found ∈ own, line found = number)
    (p : α → Bool) :
    (before ++ own ++ after).filter
        (fun found => line found == number && p found) =
      own.filter p := by
  rw [List.forall_mem_append] at hOthers
  have hNone :
      ∀ others : List α,
        (∀ found ∈ others, line found ≠ number) →
          others.filter
            (fun found => line found == number && p found) =
            [] := by
    intro others hLines
    rw [List.filter_eq_nil_iff]
    intro found hFound
    simp [hLines found hFound]
  have hAll :
      own.filter
          (fun found => line found == number && p found) =
        own.filter p := by
    apply List.filter_congr
    intro found hFound
    simp [hOwn found hFound]
  rw [List.filter_append, List.filter_append,
    hNone before hOthers.1, hNone after hOthers.2, hAll,
    List.nil_append, List.append_nil]

theorem isLayout_closing
    (finish : Span)
    (levels : List Nat) :
    ∀ token ∈ closing finish levels,
      token.kind.isLayout = true := by
  intro token hToken
  rcases List.mem_append.mp hToken with hDedent | hEnd
  · rcases List.mem_map.mp hDedent with ⟨_, _, rfl⟩
    rfl
  · rw [List.mem_singleton.mp hEnd]
    rfl

end Lexer

namespace Source

/- The characters of a script that a span covers. -/
def chars
    (source : Source)
    (span : Span) : List Char :=
  span.chars
    ((source.line? span.start.line).getD "").toList

theorem signsFit_passage
    (source : Source) :
    Token.SignsFit source.chars source.passage.tokens := by
  apply Line.addAll_keeps
    (P := fun passed =>
      Token.SignsFit source.chars passed.tokens)
  · rintro passed ⟨number, text⟩ hLine _ hPassed
    refine signsFit_lexLine hPassed ?_ passed.levels
    intro span hOn
    rw [chars, hOn.1, mem_numbered.mp hLine]
    rfl
  · exact ⟨.nil, by simp [Line.start]⟩

/- The words on the line with the given number. -/
def wordsOn
    (source : Source)
    (number : Nat) : List Token :=
  source.lex.tokens.filter fun token =>
    token.span.start.line == number && !token.kind.isLayout

/-
  What was found wrong with the words on the line with the
  given number.
-/
def wordIssuesOn
    (source : Source)
    (number : Nat) : List Issue :=
  source.passage.issues.filter fun issue =>
    issue.span.start.line == number &&
      issue.fault != .inconsistentDedent

/- A line in front of which there is room in the log. -/
theorem passage_split
    {source : Source}
    {number : Nat}
    {text : String}
    (hLine : (number, text) ∈ source.numbered)
    (hReached :
      source.passage.issues.countP
          (·.span.start.line < number) < Log.capacity) :
    ∃ before after : Line,
      source.passage =
          (before.append
            (lexLine number before.levels
              text.toList)).append after ∧
        (∀ token ∈ before.tokens ++ after.tokens,
            token.span.start.line ≠ number) ∧
          ∀ issue ∈ before.issues ++ after.issues,
            issue.span.start.line ≠ number := by
  rcases numbered_split hLine with
    ⟨lines, others, hLines, hFront, hBack⟩
  rcases Line.exists_addAll .start lines with
    ⟨before, hBefore, hStart⟩
  have hPassage :
      source.passage =
        before.addAll ((number, text) :: others) := by
    rw [passage, hLines, Line.addAll_append, hStart]
    rfl
  have hLess :
      ∀ issue ∈ before.issues,
        issue.span.start.line < number := by
    intro issue hIssue
    rcases hBefore.issues issue hIssue with
      ⟨found, hFound, hOn⟩
    rcases List.mem_map.mp hFound with ⟨line, hLine, rfl⟩
    rw [hOn.1]
    exact hFront line hLine
  have hRoom : before.issues.length < Log.capacity := by
    rcases Line.exists_addAll before ((number, text) :: others)
      with ⟨more, _, hMore⟩
    rw [hPassage, hMore, Line.append, List.countP_append]
      at hReached
    have hCount :
        before.issues.countP
            (·.span.start.line < number) =
          before.issues.length := by
      simpa [List.countP_eq_length] using hLess
    omega
  rcases Line.exists_addAll
    (before.append
      (lexLine number before.levels text.toList)) others with
    ⟨after, hAfter, hEnd⟩
  have hBeforeNe :
      ∀ found ∈ lines.map Prod.fst, found ≠ number := by
    intro found hFound
    rcases List.mem_map.mp hFound with ⟨line, hLine, rfl⟩
    exact Nat.ne_of_lt (hFront line hLine)
  have hAfterNe :
      ∀ found ∈ others.map Prod.fst, found ≠ number := by
    intro found hFound
    rcases List.mem_map.mp hFound with ⟨line, hLine, rfl⟩
    exact Nat.ne_of_gt (hBack line hLine)
  refine ⟨before, after, ?_, ?_, ?_⟩
  · rw [hPassage, Line.addAll_cons, Line.add_of_room hRoom,
      ← hEnd]
  · exact List.forall_mem_append.mpr
      ⟨hBefore.tokens_ne hBeforeNe,
        hAfter.tokens_ne hAfterNe⟩
  · exact List.forall_mem_append.mpr
      ⟨hBefore.issues_ne hBeforeNe,
        hAfter.issues_ne hAfterNe⟩

/-
  A line that is reached before the log is full is
  partitioned by its words and by the faults among them, all
  of which are found in the order in which they stand there.
  A number takes a minus only behind a token that cannot end
  an operand.
-/
theorem lexemes_partition_lines
    (source : Source)
    {number : Nat}
    {text : String}
    (hLine : (number, text) ∈ source.numbered)
    (hReached :
      source.passage.issues.countP
          (·.span.start.line < number) < Log.capacity) :
    (∃ items,
        items.filterMap Item.token? = source.wordsOn number ∧
          items.filterMap Item.issue? =
              source.wordIssuesOn number ∧
            Partitions number text.toList items) ∧
      source.lex.tokens.IsChain
          (Token.SignFits source.chars) ∧
        source.lex.log =
          Log.empty.pushAll source.passage.issues := by
  refine ⟨?_, ?_, congrArg Lexed.log source.lex_eq⟩
  · rcases passage_split hLine hReached with
      ⟨before, after, hPassage, hTokens, hIssues⟩
    rcases filter_lexLine number before.levels text.toList
      with ⟨hWords, hFaults⟩
    refine ⟨scan number 1 false text.toList, ?_, ?_, ?_⟩
    · have hOn :=
        (on_lexLine number before.levels text.toList).1
      have hClosing :
          (closing source.finish source.passage.levels).filter
            (fun token =>
              token.span.start.line == number &&
                !token.kind.isLayout) = [] := by
        rw [List.filter_eq_nil_iff]
        intro token hToken
        simp [isLayout_closing _ _ token hToken]
      rw [← hWords, wordsOn, lex_eq, List.filter_append,
        hClosing, List.append_nil, hPassage]
      exact (filter_between hTokens
        (fun token hToken => (hOn token hToken).1) _).symm
    · have hOn :=
        (on_lexLine number before.levels text.toList).2
      rw [← hFaults, wordIssuesOn, hPassage]
      exact (filter_between hIssues
        (fun issue hIssue => (hOn issue hIssue).1) _).symm
    · exact (cuts_scan number 0 false text.toList).partitions
  · rw [lex_eq]
    exact (Token.signsFit_append
      source.signsFit_passage.chain
      (isLayout_closing _ _) (by simp [closing])).chain

/-
  The second line has a string with a number sign in it, a
  character that starts nothing, and a comment.
-/
theorem lexemes_partition_lines_sample :
    let source :=
      ofText "sample" "if x:\n\tsay(3 -1, '#\\t') $ # -2"
    let line := "\tsay(3 -1, '#\\t') $ # -2"
    (2, line) ∈ source.numbered ∧
      source.passage.issues.countP
          (·.span.start.line < 2) < Log.capacity ∧
        (source.wordsOn 2).map
              (fun word => String.ofList
                (source.chars word.span)) =
            ["say", "(", "3", "-", "1", ",", "'#\\t'",
              ")"] ∧
          source.wordIssuesOn 2 =
              [⟨.unexpectedCharacter '$',
                Span.onLine 2 19 1⟩] ∧
            ∃ items,
              items.filterMap Item.token? =
                  source.wordsOn 2 ∧
                items.filterMap Item.issue? =
                    source.wordIssuesOn 2 ∧
                  Partitions 2 line.toList items := by
  intro source line
  have hLine : (2, line) ∈ source.numbered := by decide
  have hReached :
      source.passage.issues.countP
          (·.span.start.line < 2) < Log.capacity := by
    decide +kernel
  exact ⟨hLine, hReached, by decide +kernel,
    by decide +kernel,
    (source.lexemes_partition_lines hLine hReached).1⟩

end Source

end Gantry
