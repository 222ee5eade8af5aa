import Mathlib
import Gantry.Token.Lexer
import Gantry.Value.Display

/-
  This file says how the words of a line are written, and
  shows that the lexer takes each of them off again: it takes
  all of the word's characters and none behind them, as long
  as what follows cannot go on with the word.

  Key definitions include:
    * `Gantry.Lexer.Apart`
    * `Gantry.Lexer.Spells`
    * `Gantry.Lexer.Yields`
    * `Gantry.Name`
    * `Gantry.Figure`
    * `Gantry.Word`

  Main statements:
    * `Gantry.Lexer.quoted?_escaped`
    * `Gantry.Lexer.spells_number`
    * `Gantry.Word.spells`
    * `Gantry.Word.yields_sentence`
-/

------------------------------------------------------------
-- Characters
------------------------------------------------------------

namespace Gantry

namespace Lexer

/- Digits, letters and the like are on the first code page. -/
theorem basic_of_isDigit
    {c : Char}
    (hDigit : Number.isDigit c = true) :
    c.toNat < 128 := by
  have hBounds : 48 ≤ c.toNat ∧ c.toNat ≤ 57 := by
    simpa [Number.isDigit, Char.le_def,
      UInt32.le_iff_toNat_le] using hDigit
  omega

theorem basic_of_isNamePart
    {c : Char}
    (hPart : isNamePart c = true) :
    c.toNat < 128 := by
  simp only [isNamePart, Char.isAlphanum, Char.isAlpha,
    Char.isUpper, Char.isLower, Char.isDigit,
    Bool.or_eq_true, Bool.and_eq_true, decide_eq_true_eq,
    beq_iff_eq, ge_iff_le, UInt32.le_iff_toNat_le] at hPart
  rcases hPart with ((⟨_, h⟩ | ⟨_, h⟩) | ⟨_, h⟩) | rfl
  · exact Nat.lt_of_le_of_lt h (by decide)
  · exact Nat.lt_of_le_of_lt h (by decide)
  · exact Nat.lt_of_le_of_lt h (by decide)
  · decide

theorem isNamePart_of_isNameStart
    {c : Char}
    (hStart : isNameStart c = true) :
    isNamePart c = true := by
  simp only [isNameStart, isNamePart, Char.isAlphanum,
    Bool.or_eq_true] at hStart ⊢
  exact hStart.imp_left .inl

/-
  A test of one character that holds throughout the first
  code page holds of each character that is found there.
-/
theorem forall_basic
    {P : Char → Prop}
    (hAll : ∀ code < 128, P (Char.ofNat code))
    {c : Char}
    (hBasic : c.toNat < 128) :
    P c := by
  have hChar := hAll c.toNat hBasic
  rwa [Char.ofNat_toNat] at hChar

/-
  A character that begins a lexeme of its own: it neither
  separates lexemes nor starts a comment or a string.
-/
def Begins
    (c : Char) : Prop :=
  Text.isBlank c = false ∧ c ≠ '#' ∧
    ¬(c = '"' ∨ c = '\'')

instance
    (c : Char) :
    Decidable (Begins c) :=
  inferInstanceAs (Decidable (_ ∧ _ ∧ ¬ _))

theorem begins_of_isDigit
    {c : Char}
    (hDigit : Number.isDigit c = true) :
    Begins c := by
  have hAll :
      ∀ code < 128,
        Number.isDigit (Char.ofNat code) = true →
          Begins (Char.ofNat code) := by
    decide +kernel
  exact forall_basic
    (P := fun c => Number.isDigit c = true → Begins c)
    hAll (basic_of_isDigit hDigit) hDigit

/- A name starts neither like a number nor like a string. -/
theorem begins_of_isNameStart
    {c : Char}
    (hStart : isNameStart c = true) :
    Begins c ∧ Number.isDigit c = false ∧ c ≠ '-' := by
  have hAll :
      ∀ code < 128,
        isNameStart (Char.ofNat code) = true →
          Begins (Char.ofNat code) ∧
            Number.isDigit (Char.ofNat code) = false ∧
              Char.ofNat code ≠ '-' := by
    decide +kernel
  exact forall_basic
    (P := fun c => isNameStart c = true →
      Begins c ∧ Number.isDigit c = false ∧ c ≠ '-')
    hAll
    (basic_of_isNamePart (isNamePart_of_isNameStart hStart))
    hStart

end Lexer

end Gantry

------------------------------------------------------------
-- Lexemes Of A Line
------------------------------------------------------------

namespace Gantry

namespace Lexer

/-
  The characters are the text of one token, in front of what
  follows them on the line.
-/
def Spells
    (afterOperand : Bool)
    (chars rest : List Char)
    (kind : TokenKind) : Prop :=
  ∃ c more,
    chars = c :: more ∧
      Text.isBlank c = false ∧ c ≠ '#' ∧
        lexemeAt afterOperand c (more ++ rest) =
          (.token kind, more.length)

/- The lexemes of a line, wherever it stands. -/
def Yields
    (afterOperand : Bool)
    (cs : List Char)
    (lexemes : List Lexeme) : Prop :=
  ∀ line column,
    (scan line column afterOperand cs).map (·.lexeme) =
      lexemes

theorem yields_nil
    (afterOperand : Bool) :
    Yields afterOperand [] [] := by
  intro line column
  simp [scan]

theorem Yields.blank
    {afterOperand : Bool}
    {c : Char}
    {cs : List Char}
    {lexemes : List Lexeme}
    (hBlank : Text.isBlank c = true)
    (hRest : Yields afterOperand cs lexemes) :
    Yields afterOperand (c :: cs) lexemes := by
  intro line column
  rw [scan, if_pos hBlank]
  exact hRest line (column + 1)

theorem Yields.blanks
    {afterOperand : Bool}
    {margin cs : List Char}
    {lexemes : List Lexeme}
    (hMargin : ∀ c ∈ margin, Text.isBlank c = true)
    (hRest : Yields afterOperand cs lexemes) :
    Yields afterOperand (margin ++ cs) lexemes := by
  induction margin with
  | nil => exact hRest
  | cons c margin ih =>
      rw [List.forall_mem_cons] at hMargin
      exact (ih hMargin.2).blank hMargin.1

theorem Spells.yields
    {afterOperand : Bool}
    {chars rest : List Char}
    {kind : TokenKind}
    {lexemes : List Lexeme}
    (hWord : Spells afterOperand chars rest kind)
    (hRest : Yields kind.endsOperand rest lexemes) :
    Yields afterOperand (chars ++ rest)
      (.token kind :: lexemes) := by
  intro line column
  rcases hWord with ⟨c, more, rfl, hVisible, hComment, hAt⟩
  rw [List.cons_append, scan, if_neg (by simp [hVisible]),
    if_neg hComment, hAt]
  simp only [List.map_cons, Lexeme.endsOperand,
    List.drop_left]
  rw [hRest]

/- Lexemes that are all tokens leave no issue. -/
theorem tokens_of_lexemes
    {items : List Item}
    {kinds : List TokenKind}
    (hItems :
      items.map (·.lexeme) = kinds.map .token) :
    (items.filterMap Item.token?).map (·.kind) = kinds ∧
      items.filterMap Item.issue? = [] := by
  induction items generalizing kinds with
  | nil =>
      cases kinds with
      | nil => exact ⟨rfl, rfl⟩
      | cons kind kinds => contradiction
  | cons item items ih =>
      cases kinds with
      | nil => contradiction
      | cons kind kinds =>
          rcases item with ⟨lexeme, span⟩
          simp only [List.map_cons, List.cons.injEq]
            at hItems
          rcases hItems with ⟨rfl, hItems⟩
          rcases ih hItems with ⟨hKinds, hIssues⟩
          simp [List.filterMap_cons, Item.token?,
            Item.issue?, hKinds, hIssues]

end Lexer

end Gantry

------------------------------------------------------------
-- Where A Word Ends
------------------------------------------------------------

namespace Gantry

namespace Lexer

/- What follows a word and cannot go on with it. -/
def Apart :
    List Char → Prop
| [] => True
| c :: _ => c = ' ' ∨ c = ',' ∨ c = ']'

theorem takeWhile_apart
    {p : Char → Bool}
    {run rest : List Char}
    (hRun : ∀ c ∈ run, p c = true)
    (hStop : ∀ c, c = ' ' ∨ c = ',' ∨ c = ']' → p c = false)
    (hApart : Apart rest) :
    (run ++ rest).takeWhile p = run := by
  rw [List.takeWhile_append_of_pos hRun]
  cases rest with
  | nil => simp
  | cons c rest =>
      rw [List.takeWhile_cons_of_neg
        (by simp [hStop c hApart]), List.append_nil]

/-
  A run of digits and points that reads as a number is that
  number, with a minus in front where one can stand.
-/
theorem spells_number
    {afterOperand : Bool}
    {c : Char}
    {run rest : List Char}
    {x : Float}
    (hStarts :
      startsNumber afterOperand c (run ++ rest) = true)
    (hRun : ∀ d ∈ run, isNumberPart d = true)
    (hApart : Apart rest)
    (hRead : Number.read? (c :: run) = some x) :
    Spells afterOperand (c :: run) rest
      (.number (Numeral.ofFloat x)) := by
  have hBegins : Begins c := by
    rcases Bool.or_eq_true_iff.mp hStarts with hDigit | hMinus
    · exact begins_of_isDigit hDigit
    · have hSign : c = '-' := by
        simp only [Bool.and_eq_true, beq_iff_eq] at hMinus
        exact hMinus.1.1
      subst hSign
      decide
  have hTaken : (run ++ rest).takeWhile isNumberPart = run :=
    takeWhile_apart hRun (by rintro c (rfl | rfl | rfl) <;> rfl)
      hApart
  refine ⟨c, run, rfl, hBegins.1, hBegins.2.1, ?_⟩
  rw [lexemeAt, if_neg hBegins.2.2, if_pos hStarts]
  simp only [hTaken, numberLexeme, hRead]

/- A run of letters is a name or a reserved word. -/
theorem lexemeAt_word
    {afterOperand : Bool}
    {c : Char}
    {run rest : List Char}
    (hStart : isNameStart c = true)
    (hRun : ∀ d ∈ run, isNamePart d = true)
    (hApart : Apart rest) :
    lexemeAt afterOperand c (run ++ rest) =
      (wordLexeme (String.ofList (c :: run)), run.length) := by
  rcases begins_of_isNameStart hStart with
    ⟨hBegins, hDigit, hMinus⟩
  have hTaken : (run ++ rest).takeWhile isNamePart = run :=
    takeWhile_apart hRun (by rintro c (rfl | rfl | rfl) <;> rfl)
      hApart
  have hNumber :
      startsNumber afterOperand c (run ++ rest) = false := by
    simp [startsNumber, hDigit, hMinus]
  rw [lexemeAt, if_neg hBegins.2.2,
    if_neg (by simp [hNumber]), if_pos hStart]
  simp only [hTaken]

theorem spells_keyword
    (afterOperand : Bool)
    (word : Keyword)
    {rest : List Char}
    (hApart : Apart rest) :
    Spells afterOperand word.text.toList rest
      (.keyword word) := by
  have hText :
      ∃ c run,
        word.text.toList = c :: run ∧
          isNameStart c = true ∧
            ∀ d ∈ run, isNamePart d = true := by
    cases word <;>
      exact ⟨_, _, rfl, rfl, List.all_eq_true.mp rfl⟩
  rcases hText with ⟨c, run, hText, hStart, hRun⟩
  have hBegins := (begins_of_isNameStart hStart).1
  refine ⟨c, run, hText, hBegins.1, hBegins.2.1, ?_⟩
  rw [lexemeAt_word hStart hRun hApart, ← hText,
    String.ofList_toList, wordLexeme, Keyword.ofText?_text]

theorem spells_symbol
    (afterOperand : Bool)
    (mark : Symbol)
    {rest : List Char}
    (hApart : Apart rest) :
    Spells afterOperand mark.text.toList rest
      (.symbol mark) := by
  cases rest with
  | nil =>
      cases mark <;> cases afterOperand <;>
        exact ⟨_, _, rfl, rfl, by decide, rfl⟩
  | cons c rest =>
      rcases hApart with rfl | rfl | rfl <;>
        cases mark <;> cases afterOperand <;>
          exact ⟨_, _, rfl, rfl, by decide, rfl⟩

/- An opening bracket ends in front of anything. -/
theorem spells_leftBracket
    (afterOperand : Bool)
    (rest : List Char) :
    Spells afterOperand ['['] rest
      (.symbol .leftBracket) := by
  refine ⟨'[', [], rfl, rfl, by decide, ?_⟩
  cases rest with
  | nil => rfl
  | cons c rest =>
      simp [lexemeAt, startsNumber, isNameStart,
        symbolLexeme, doubleSymbol?, Number.isDigit,
        singleSymbol?]

end Lexer

end Gantry

------------------------------------------------------------
-- Strings
------------------------------------------------------------

namespace Gantry

namespace Lexer

/- One escaped character is read back as itself. -/
theorem quoted?_escapeChar
    (c : Char)
    (rest : List Char) :
    quoted? '\'' (Value.escapeChar c ++ rest) =
      (quoted? '\'' rest).map fun (text, count) =>
        (c :: text,
          count + (Value.escapeChar c).length) := by
  unfold Value.escapeChar
  split
  · rfl
  · rfl
  · rfl
  · rfl
  · rename_i hQuote hEscape _ _
    simp only [List.singleton_append, List.length_singleton]
    rw [quoted?, if_neg hQuote]
    · intro h
      exact absurd h hEscape
    · intro _ _ h
      exact absurd h hEscape

/- An escaped text is read back in front of anything. -/
theorem quoted?_escaped
    (text rest : List Char) :
    quoted? '\'' (text.flatMap Value.escapeChar ++ rest) =
      (quoted? '\'' rest).map fun (more, count) =>
        (text ++ more,
          count +
            (text.flatMap Value.escapeChar).length) := by
  induction text with
  | nil => simp
  | cons c text ih =>
      rw [List.flatMap_cons, List.append_assoc,
        quoted?_escapeChar, ih, Option.map_map]
      congr 1
      funext ⟨more, count⟩
      simp only [Function.comp_apply, List.cons_append,
        List.length_append]
      congr 1
      omega

/- A string ends at its closing quote. -/
theorem spells_string
    (afterOperand : Bool)
    (text : String)
    (rest : List Char) :
    Spells afterOperand (Value.quotedText text).toList rest
      (.string text) := by
  refine ⟨'\'',
    text.toList.flatMap Value.escapeChar ++ ['\''], ?_,
    rfl, by decide, ?_⟩
  · rw [Value.quotedText, String.toList_ofList,
      List.cons_append]
  · have hQuoted :
        quoted? '\'' ('\'' :: rest) = some ([], 1) := by
      simp [quoted?]
    rw [lexemeAt, if_pos (.inr rfl), List.append_assoc,
      List.singleton_append, quoted?_escaped, hQuoted]
    simp [String.ofList_toList, Nat.add_comm]

/- A string that is cut off has no end. -/
theorem lexemeAt_unclosed
    (afterOperand : Bool)
    (text : List Char) :
    lexemeAt afterOperand '\''
        (text.flatMap Value.escapeChar) =
      (.fault (.unterminatedString '\''),
        (text.flatMap Value.escapeChar).length) := by
  have hQuoted :
      quoted? '\'' (text.flatMap Value.escapeChar) =
        none := by
    have hRest := quoted?_escaped text []
    rwa [List.append_nil] at hRest
  rw [lexemeAt, if_pos (.inr rfl), hQuoted]

end Lexer

end Gantry

------------------------------------------------------------
-- Names And Figures
------------------------------------------------------------

namespace Gantry

/- A name: letters and digits that are no reserved word. -/
structure Name where
  first : Char
  others : List Char
  starts : Lexer.isNameStart first = true
  goesOn : ∀ c ∈ others, Lexer.isNamePart c = true
  free :
    Keyword.ofText? (String.ofList (first :: others)) = none

/- The characters of a name. -/
def Name.chars
    (name : Name) : List Char :=
  name.first :: name.others

/-
  A number without a sign: digits, and possibly a point with
  more digits behind it.
-/
structure Figure where
  first : Char
  others : List Char
  fraction : List Char
  digits :
    ∀ c ∈ first :: others ++ fraction,
      Number.isDigit c = true

namespace Figure

/- What follows the first digit. -/
def tail
    (figure : Figure) : List Char :=
  if figure.fraction.isEmpty then
    figure.others
  else
    figure.others ++ '.' :: figure.fraction

/- The characters of a figure. -/
def chars
    (figure : Figure) : List Char :=
  figure.first :: figure.tail

/- The number that a figure writes. -/
def value
    (figure : Figure) : Float :=
  Number.ofDecimal
    (figure.first :: figure.others ++ figure.fraction)
    (-figure.fraction.length)

theorem isDigit_first
    (figure : Figure) :
    Number.isDigit figure.first = true :=
  figure.digits _ (by simp)

theorem isNumberPart_tail
    (figure : Figure) :
    ∀ c ∈ figure.tail, Lexer.isNumberPart c = true := by
  intro c hTail
  have hCases :
      c = '.' ∨
        c ∈ figure.first :: figure.others ++
          figure.fraction := by
    unfold tail at hTail
    split at hTail
    · simp [hTail]
    · rcases List.mem_append.mp hTail with hWhole | hRest
      · simp [hWhole]
      · rcases List.mem_cons.mp hRest with hPoint | hRest
        · exact .inl hPoint
        · simp [hRest]
  rcases hCases with rfl | hDigit
  · rfl
  · simp [Lexer.isNumberPart, figure.digits c hDigit]

theorem isNumberPart_chars
    (figure : Figure) :
    ∀ c ∈ figure.chars, Lexer.isNumberPart c = true := by
  rw [chars, List.forall_mem_cons]
  constructor
  · simp [Lexer.isNumberPart, figure.isDigit_first]
  · exact figure.isNumberPart_tail

theorem onOneLine_chars
    (figure : Figure) :
    ∀ c ∈ figure.chars, c ≠ '\n' ∧ c ≠ '\r' := by
  intro c hChar
  have hPart := figure.isNumberPart_chars c hChar
  constructor
  · rintro rfl
    contradiction
  · rintro rfl
    contradiction

end Figure

namespace Number

/- A digit is neither a sign nor the start of a name. -/
theorem not_special_of_isDigit
    {c : Char}
    (hDigit : isDigit c = true) :
    c ≠ '-' ∧ c ≠ '+' ∧ c.toLower ≠ 'i' ∧
      c.toLower ≠ 'n' := by
  have hAll :
      ∀ code < 128,
        isDigit (Char.ofNat code) = true →
          Char.ofNat code ≠ '-' ∧ Char.ofNat code ≠ '+' ∧
            (Char.ofNat code).toLower ≠ 'i' ∧
              (Char.ofNat code).toLower ≠ 'n' := by
    decide +kernel
  exact Lexer.forall_basic
    (P := fun c => isDigit c = true →
      c ≠ '-' ∧ c ≠ '+' ∧ c.toLower ≠ 'i' ∧
        c.toLower ≠ 'n')
    hAll (Lexer.basic_of_isDigit hDigit) hDigit

theorem readSpecial?_of_isDigit
    {c : Char}
    (hDigit : isDigit c = true)
    (cs : List Char) :
    readSpecial? (c :: cs) = none := by
  rcases not_special_of_isDigit hDigit with ⟨_, _, hI, hN⟩
  unfold readSpecial? special?
  rw [List.take_succ_cons, List.map_cons]
  split
  · simp_all
  · simp_all
  · simp_all
  · rfl

theorem takeSign_of_isDigit
    {c : Char}
    (hDigit : isDigit c = true)
    (cs : List Char) :
    takeSign (c :: cs) = (false, c :: cs) := by
  rcases not_special_of_isDigit hDigit with ⟨hMinus, hPlus, _⟩
  unfold takeSign
  split <;> simp_all

theorem takeDigits_append
    {ds : List Char}
    (hDigits : ∀ d ∈ ds, isDigit d = true)
    (cs : List Char)
    (hStop : ∀ c, cs.head? = some c → isDigit c = false) :
    takeDigits (ds ++ cs) = (ds, cs) := by
  unfold takeDigits
  rw [List.takeWhile_append_of_pos hDigits,
    List.dropWhile_append_of_pos hDigits]
  cases cs with
  | nil => simp
  | cons c cs => simp [hStop c rfl]

theorem takeDigits_all
    {ds : List Char}
    (hDigits : ∀ d ∈ ds, isDigit d = true) :
    takeDigits ds = (ds, []) := by
  simpa using takeDigits_append hDigits [] (by simp)

/- A figure reads as the number that it writes. -/
theorem readMagnitude?_chars
    (figure : Figure) :
    readMagnitude? figure.chars = some figure.value := by
  have hWhole :
      ∀ d ∈ figure.first :: figure.others,
        isDigit d = true :=
    fun d hDigit =>
      figure.digits d (List.mem_append_left _ hDigit)
  have hFraction : ∀ d ∈ figure.fraction, isDigit d = true :=
    fun d hDigit =>
      figure.digits d (List.mem_append_right _ hDigit)
  by_cases hEmpty : figure.fraction = []
  · have hChars :
        figure.chars = figure.first :: figure.others := by
      simp [Figure.chars, Figure.tail, hEmpty]
    rw [hChars, readMagnitude?, takeDigits_all hWhole]
    simp [readExponent?, Figure.value, hEmpty]
  · have hChars :
        figure.chars =
          (figure.first :: figure.others) ++
            '.' :: figure.fraction := by
      simp [Figure.chars, Figure.tail, hEmpty]
    rw [hChars, readMagnitude?,
      takeDigits_append hWhole _ (by simp [isDigit])]
    simp only [takeDigits_all hFraction]
    simp [readExponent?, Figure.value]

theorem read?_chars
    (figure : Figure) :
    read? figure.chars = some figure.value := by
  have hDigit := figure.isDigit_first
  have hSign : takeSign figure.chars = (false, figure.chars) :=
    takeSign_of_isDigit hDigit _
  have hSpecial : readSpecial? figure.chars = none :=
    readSpecial?_of_isDigit hDigit _
  unfold read?
  simp only [hSign, hSpecial, readMagnitude?_chars]
  rfl

end Number

end Gantry

------------------------------------------------------------
-- Words
------------------------------------------------------------

namespace Gantry

/-
  A word of a line. A string is written with its line feeds
  escaped, but with its carriage returns as they are, so it
  has none.
-/
inductive Word where
  | name (name : Name)
  | keyword (word : Keyword)
  | symbol (mark : Symbol)
  | number (figure : Figure)
  | string (text : String)
      (unbroken : '\r' ∉ text.toList)

/-
  A character is written as itself or as characters that end
  no line.
-/
theorem Value.mem_escapeChar
    {c d : Char}
    (hChar : c ∈ escapeChar d) :
    c ≠ '\n' ∧ (c = '\r' → d = '\r') := by
  unfold escapeChar at hChar
  split at hChar
  case h_5 hLine _ =>
    rcases List.mem_singleton.mp hChar with rfl
    exact ⟨hLine, id⟩
  all_goals
    rw [List.mem_cons, List.mem_singleton] at hChar
    rcases hChar with rfl | rfl <;> decide

/- A string has just the returns of its text. -/
theorem Value.mem_quotedText
    {text : String}
    {c : Char}
    (hChar : c ∈ (quotedText text).toList) :
    c ≠ '\n' ∧ (c = '\r' → '\r' ∈ text.toList) := by
  have hCases :
      c = '\'' ∨
        ∃ d ∈ text.toList, c ∈ escapeChar d := by
    simpa [quotedText, or_comm, or_assoc] using hChar
  rcases hCases with rfl | ⟨d, hMem, hEscaped⟩
  · exact ⟨by decide, by simp⟩
  · rcases mem_escapeChar hEscaped with ⟨hLine, hReturn⟩
    refine ⟨hLine, fun hBreak => ?_⟩
    rwa [← hReturn hBreak]

theorem Keyword.onOneLine_text
    (word : Keyword) :
    ∀ c ∈ word.text.toList, c ≠ '\n' ∧ c ≠ '\r' := by
  cases word <;> simp [text]

namespace Word

/- The characters of a word. -/
def chars :
    Word → List Char
| .name given => given.chars
| .keyword word => word.text.toList
| .symbol mark => mark.text.toList
| .number figure => figure.chars
| .string text _ => (Value.repr {} (.str text)).toList

/- The token of a word. -/
def kind :
    Word → TokenKind
| .name given => .name (String.ofList given.chars)
| .keyword word => .keyword word
| .symbol mark => .symbol mark
| .number figure => .number (Numeral.ofFloat figure.value)
| .string text _ => .string text

/- A word is read back where nothing goes on with it. -/
theorem spells
    (afterOperand : Bool)
    (word : Word)
    {rest : List Char}
    (hApart : Lexer.Apart rest) :
    Lexer.Spells afterOperand word.chars rest word.kind := by
  cases word with
  | name given =>
      have hBegins :=
        (Lexer.begins_of_isNameStart given.starts).1
      refine ⟨given.first, given.others, rfl, hBegins.1,
        hBegins.2.1, ?_⟩
      rw [Lexer.lexemeAt_word given.starts given.goesOn hApart,
        Lexer.wordLexeme, given.free]
      rfl
  | keyword word =>
      exact Lexer.spells_keyword afterOperand word hApart
  | symbol mark =>
      exact Lexer.spells_symbol afterOperand mark hApart
  | number figure =>
      have hStarts :
          Lexer.startsNumber afterOperand figure.first
            (figure.tail ++ rest) = true := by
        simp [Lexer.startsNumber, figure.isDigit_first]
      exact Lexer.spells_number hStarts
        figure.isNumberPart_tail hApart
        (Number.read?_chars figure)
  | string text _ =>
      exact Lexer.spells_string afterOperand text rest

/- The words of a line with single spaces between them. -/
def sentence
    (words : List Word) : List Char :=
  [' '].intercalate (words.map chars)

@[simp] theorem sentence_singleton
    (word : Word) :
    sentence [word] = word.chars := by
  simp [sentence]

theorem sentence_cons_cons
    (word next : Word)
    (words : List Word) :
    sentence (word :: next :: words) =
      word.chars ++ ' ' :: sentence (next :: words) := by
  simp [sentence]

/- A line of words begins with a character that shows. -/
theorem sentence_starts
    (word : Word)
    (words : List Word) :
    ∃ c rest,
      sentence (word :: words) = c :: rest ∧
        Text.isBlank c = false ∧ c ≠ '#' := by
  have hApart : Lexer.Apart [] := trivial
  rcases word.spells false hApart with
    ⟨c, more, hChars, hVisible, hComment, _⟩
  cases words with
  | nil =>
      refine ⟨c, more, ?_, hVisible, hComment⟩
      rw [sentence_singleton, hChars]
  | cons next words =>
      refine ⟨c, more ++ ' ' :: sentence (next :: words), ?_,
        hVisible, hComment⟩
      rw [sentence_cons_cons, hChars, List.cons_append]

/- A line of words is read as their tokens. -/
theorem yields_sentence
    (afterOperand : Bool)
    (words : List Word) :
    Lexer.Yields afterOperand (sentence words)
      ((words.map kind).map .token) := by
  induction words generalizing afterOperand with
  | nil => exact Lexer.yields_nil afterOperand
  | cons word words ih =>
      cases words with
      | nil =>
          have hApart : Lexer.Apart [] := trivial
          have hWord :=
            (word.spells afterOperand hApart).yields
              (Lexer.yields_nil _)
          simpa using hWord
      | cons next words =>
          have hApart :
              Lexer.Apart (' ' :: sentence (next :: words)) :=
            Or.inl rfl
          rw [sentence_cons_cons]
          exact (word.spells afterOperand hApart).yields
            ((ih word.kind.endsOperand).blank rfl)

/- No word runs over the end of its line. -/
theorem onOneLine_chars
    (word : Word) :
    ∀ c ∈ word.chars, c ≠ '\n' ∧ c ≠ '\r' := by
  cases word with
  | name given =>
      intro c hChar
      have hPart : Lexer.isNamePart c = true := by
        rcases List.mem_cons.mp hChar with rfl | hOther
        · exact Lexer.isNamePart_of_isNameStart given.starts
        · exact given.goesOn c hOther
      constructor
      · rintro rfl
        contradiction
      · rintro rfl
        contradiction
  | keyword word => exact word.onOneLine_text
  | symbol mark =>
      cases mark <;> simp [chars, Symbol.text]
  | number figure => exact figure.onOneLine_chars
  | string text hText =>
      intro c hChar
      rcases Value.mem_quotedText hChar with
        ⟨hLine, hReturn⟩
      exact ⟨hLine, fun hBreak => hText (hReturn hBreak)⟩

/- Nor does a line of words. -/
theorem onOneLine_sentence
    (words : List Word) :
    ∀ c ∈ sentence words, c ≠ '\n' ∧ c ≠ '\r' := by
  induction words with
  | nil => simp [sentence]
  | cons word words ih =>
      cases words with
      | nil =>
          simpa using word.onOneLine_chars
      | cons next words =>
          rw [sentence_cons_cons]
          intro c hChar
          rcases List.mem_append.mp hChar with hChar | hChar
          · exact word.onOneLine_chars c hChar
          · rcases List.mem_cons.mp hChar with rfl | hChar
            · decide
            · exact ih c hChar

end Word

end Gantry
