import Gantry.Proofs.Parser.Nesting
import Gantry.Proofs.Token.Layout
import Gantry.Proofs.Token.Outline
import Gantry.Proofs.Value.Datum

/-
  This file reads the text of data as tokens. The text of a
  datum is one line, and its tokens are those of the literal
  or list that it is, unless one of its strings has a
  carriage return. This ends the line inside the string,
  which then has no closing quote.

  Key definitions include:
    * `Gantry.Value.ReadsBack`
    * `Gantry.Atom.literal`
    * `Gantry.Datum.expr`
    * `Gantry.Datum.Legible`
    * `Gantry.Datum.Broken`
    * `Gantry.Lexer.Faulty`
    * `Gantry.Lexer.Breaks`

  Main statements:
    * `Gantry.Datum.yields_chars`
    * `Gantry.Datum.lex_chars`
    * `Gantry.Datum.breaks_chars`
    * `Gantry.Lexer.Breaks.program?`
-/

------------------------------------------------------------
-- Data As Expressions
------------------------------------------------------------

namespace Gantry

namespace Value

/- The text of a number reads as an equal number. -/
def ReadsBack
    (x : Float) : Prop :=
  ∃ y,
    Number.read? (numberText x).toList = some y ∧
      (y == x) = true

instance
    (x : Float) :
    Decidable (ReadsBack x) :=
  decidable_of_iff
    ((Number.read? (numberText x).toList).any (· == x) =
      true)
    (by rw [Option.any_eq_true]; rfl)

/- The number that the text of a number reads as. -/
def reread
    (x : Float) : Float :=
  (Number.read? (numberText x).toList).getD x

theorem ReadsBack.read?
    {x : Float}
    (hReads : ReadsBack x) :
    Number.read? (numberText x).toList = some (reread x) := by
  rcases hReads with ⟨y, hRead, _⟩
  rw [reread, hRead]
  rfl

theorem ReadsBack.reread_beq
    {x : Float}
    (hReads : ReadsBack x) :
    (reread x == x) = true := by
  rcases hReads with ⟨y, hRead, hSame⟩
  rw [reread, hRead]
  exact hSame

end Value

namespace Atom

/- The literal that an atom is written as. -/
def literal :
    Atom → Literal
| .none => .none
| .bool value => .bool value
| .number value =>
    .number (Numeral.ofFloat (Value.reread value))
| .str text => .string text

/- A number that is finite and reads back. -/
def Legible :
    Atom → Prop
| .number value =>
    value.isFinite = true ∧ Value.ReadsBack value
| _ => True

theorem endsOperand_literal
    (leaf : Atom) :
    leaf.literal.kind.endsOperand = true := by
  cases leaf with
  | bool value => cases value <;> rfl
  | _ => rfl

end Atom

namespace Datum

mutual

/- The expression that a datum is written as. -/
def expr :
    Datum → Expr
| .atom leaf => .literal leaf.literal Span.unset
| .list items => .list (listExpr items) Span.unset

def listExpr :
    List Datum → List Expr
| [] => []
| item :: items => item.expr :: listExpr items

end

mutual

theorem plain_expr :
    (datum : Datum) →
    datum.expr.Plain
| .atom _ => by simp [expr, Expr.Plain]
| .list items => by
    rw [expr, Expr.Plain]
    exact listPlain_expr items

theorem listPlain_expr :
    (items : List Datum) →
    Expr.ListPlain (listExpr items)
| [] => trivial
| item :: items => ⟨plain_expr item, listPlain_expr items⟩

end

mutual

/- Lists are nested as deep as the datum is high. -/
theorem nesting_expr :
    (datum : Datum) →
    datum.expr.nesting = datum.height
| .atom _ => rfl
| .list items => by
    rw [expr, Expr.nesting, height, listNesting_expr items]

theorem listNesting_expr :
    (items : List Datum) →
    Expr.listNesting (listExpr items) = listHeight items
| [] => rfl
| item :: items => by
    rw [listExpr, Expr.listNesting, listHeight,
      nesting_expr item, listNesting_expr items]

end

end Datum

end Gantry

------------------------------------------------------------
-- Tokens Of Data
------------------------------------------------------------

namespace Gantry

/- An atom is read as its literal. -/
theorem Atom.spells
    {leaf : Atom}
    (hLegible : leaf.Legible)
    {rest : List Char}
    (hApart : Lexer.Apart rest) :
    Lexer.Spells false leaf.chars rest leaf.literal.kind := by
  cases leaf with
  | none =>
      exact Lexer.spells_keyword false .noneWord hApart
  | bool value =>
      cases value with
      | true =>
          exact Lexer.spells_keyword false .trueWord hApart
      | false =>
          exact Lexer.spells_keyword false .falseWord hApart
  | number value =>
      exact Value.spells_numberText hLegible.1
        hLegible.2.read? hApart
  | str text => exact Lexer.spells_string false text rest

namespace Datum

open Lexer

/- All numbers are finite and read back. -/
def Legible
    (datum : Datum) : Prop :=
  ∀ leaf ∈ datum.atoms, leaf.Legible

def ListLegible
    (items : List Datum) : Prop :=
  ∀ leaf ∈ listAtoms items, leaf.Legible

theorem listLegible_cons
    {item : Datum}
    {items : List Datum} :
    ListLegible (item :: items) ↔
      item.Legible ∧ ListLegible items := by
  unfold ListLegible Legible
  rw [listAtoms, List.forall_mem_append]

/- A comma and a space in front of the next item. -/
theorem yields_separator
    (afterOperand : Bool)
    {rest : List Char}
    {lexemes : List Lexeme}
    (hRest : Yields false rest lexemes) :
    Yields afterOperand (',' :: ' ' :: rest)
      (.token (.symbol .comma) :: lexemes) := by
  have hApart : Apart (' ' :: rest) := Or.inl rfl
  exact (spells_symbol afterOperand .comma hApart).yields
    (hRest.blank rfl)

mutual

/- The tokens of a datum, in front of what ends it. -/
theorem yields_chars :
    (datum : Datum) →
    datum.Legible →
    {rest : List Char} →
    {lexemes : List Lexeme} →
    Apart rest →
    Yields true rest lexemes →
    Yields false (datum.chars ++ rest)
      (datum.expr.render.map .token ++ lexemes)
| .atom leaf, hLegible, rest, lexemes, hApart, hRest => by
    have hLeaf : leaf.Legible :=
      hLegible leaf (List.mem_singleton.mpr rfl)
    rw [← leaf.endsOperand_literal] at hRest
    exact (leaf.spells hLeaf hApart).yields hRest
| .list items, hLegible, rest, lexemes, hApart, hRest => by
    have hClose :
        ∀ afterOperand,
          Yields afterOperand (']' :: rest)
            (.token (.symbol .rightBracket) :: lexemes) :=
      fun afterOperand =>
        (spells_symbol afterOperand .rightBracket
          hApart).yields hRest
    have hItems := yields_listChars items hLegible hClose
    have hAll :=
      (spells_leftBracket false
        (listChars items ++ ']' :: rest)).yields hItems
    simpa [chars, expr, Expr.render] using hAll

/- The tokens of items in front of a closing bracket. -/
theorem yields_listChars :
    (items : List Datum) →
    ListLegible items →
    {rest : List Char} →
    {lexemes : List Lexeme} →
    (∀ afterOperand,
      Yields afterOperand (']' :: rest) lexemes) →
    Yields false (listChars items ++ ']' :: rest)
      ((Expr.listRender (listExpr items)).map .token ++
        lexemes)
| [], _, rest, lexemes, hClose => hClose false
| [item], hLegible, rest, lexemes, hClose => by
    rw [listLegible_cons] at hLegible
    have hApart : Apart (']' :: rest) := Or.inr (Or.inr rfl)
    exact yields_chars item hLegible.1 hApart (hClose true)
| item :: next :: items, hLegible, rest, lexemes, hClose => by
    rw [listLegible_cons] at hLegible
    have hRest :=
      yields_listChars (next :: items) hLegible.2 hClose
    have hApart :
        Apart
          (',' :: ' ' ::
            (listChars (next :: items) ++ ']' :: rest)) :=
      Or.inr (Or.inl rfl)
    have hAll :=
      yields_chars item hLegible.1 hApart
        (yields_separator true hRest)
    simpa [listChars, listExpr, Expr.listRender] using hAll

end

theorem exists_chars_cons
    (datum : Datum)
    (hLegible : datum.Legible) :
    ∃ c rest,
      datum.chars = c :: rest ∧
        Text.isBlank c = false ∧ c ≠ '#' := by
  cases datum with
  | atom leaf =>
      have hLeaf : leaf.Legible :=
        hLegible leaf (List.mem_singleton.mpr rfl)
      have hApart : Apart [] := trivial
      rcases leaf.spells hLeaf hApart with
        ⟨c, rest, hChars, hVisible, hComment, _⟩
      exact ⟨c, rest, hChars, hVisible, hComment⟩
  | list items =>
      exact ⟨'[', _, rfl, rfl, by decide⟩

end Datum

end Gantry

------------------------------------------------------------
-- Carriage Returns
------------------------------------------------------------

namespace Gantry

namespace Atom

/- A string with a carriage return. -/
def Broken :
    Atom → Prop
| .str text => '\r' ∈ text.toList
| _ => False

/- Of the ends of a line, an atom has only its own returns. -/
theorem mem_chars
    {leaf : Atom}
    (hLegible : leaf.Legible)
    {c : Char}
    (hChar : c ∈ leaf.chars) :
    c ≠ '\n' ∧ (c = '\r' → leaf.Broken) := by
  cases leaf with
  | none =>
      have hLine := Keyword.onOneLine_text .noneWord c hChar
      exact ⟨hLine.1, fun hReturn => absurd hReturn hLine.2⟩
  | bool value =>
      have hLine : c ≠ '\n' ∧ c ≠ '\r' := by
        cases value with
        | true =>
            exact Keyword.onOneLine_text .trueWord c hChar
        | false =>
            exact Keyword.onOneLine_text .falseWord c hChar
      exact ⟨hLine.1, fun hReturn => absurd hReturn hLine.2⟩
  | number value =>
      have hLine := Value.onOneLine_numberText hLegible.1 c hChar
      exact ⟨hLine.1, fun hReturn => absurd hReturn hLine.2⟩
  | str text => exact Value.mem_quotedText hChar

end Atom

namespace Lexer

/- Something on the line is at fault. -/
def Faulty
    (afterOperand : Bool)
    (cs : List Char) : Prop :=
  ∃ lexemes cause,
    Yields afterOperand cs lexemes ∧
      Lexeme.fault cause ∈ lexemes

theorem Spells.faulty
    {afterOperand : Bool}
    {chars rest : List Char}
    {kind : TokenKind}
    (hWord : Spells afterOperand chars rest kind)
    (hRest : Faulty kind.endsOperand rest) :
    Faulty afterOperand (chars ++ rest) := by
  rcases hRest with ⟨lexemes, cause, hYields, hFault⟩
  exact ⟨_, cause, hWord.yields hYields,
    List.mem_cons_of_mem _ hFault⟩

theorem faulty_unclosed
    (afterOperand : Bool)
    (text : List Char) :
    Faulty afterOperand
      ('\'' :: text.flatMap Value.escapeChar) := by
  refine ⟨[.fault (.unterminatedString '\'')], _, ?_,
    List.mem_cons_self⟩
  intro line column
  rw [scan, if_neg (by decide), if_neg (by decide),
    lexemeAt_unclosed]
  dsimp only
  rw [List.drop_length, scan]
  rfl

theorem Faulty.issues
    {cs : List Char}
    (hFaulty : Faulty false cs)
    (number : Nat)
    (levels : List Nat) :
    (lexLine number levels cs).issues ≠ [] := by
  rcases hFaulty with ⟨lexemes, cause, hYields, hFault⟩
  rw [← hYields number 1] at hFault
  rcases List.mem_map.mp hFault with ⟨item, hItem, hLexeme⟩
  have hBusy : ¬isIdle cs = true := by
    intro hIdle
    rw [scan_of_isIdle number 1 false cs hIdle] at hItem
    contradiction
  have hIssue :
      (⟨cause, item.span⟩ : Issue) ∈
        (scan number 1 false cs).filterMap Item.issue? := by
    apply List.mem_filterMap.mpr
    refine ⟨item, hItem, ?_⟩
    rw [Item.issue?, hLexeme]
  rw [lexLine, if_neg hBusy]
  exact List.append_ne_nil_of_right_ne_nil _
    (List.ne_nil_of_mem hIssue)

/- An issue of the first line is one of the script. -/
theorem Faulty.lexLines
    {text : String}
    (hFaulty : Faulty false text.toList)
    (finish : Span)
    (number : Nat)
    (rest : List (Nat × String)) :
    (lexLines finish [] Log.empty
      ((number, text) :: rest)).log.isEmpty = false := by
  have hIssues := hFaulty.issues number []
  have hRoom : ¬(Log.empty : Log Issue).isFull = true := by
    decide
  rw [Lexer.lexLines, if_neg hRoom]
  dsimp only
  generalize lexLine number [] text.toList = line at hIssues
  have hTotal :=
    (extends_lexLines finish line.levels
      (Log.empty.pushAll line.issues) rest).total_le
  rw [Log.total_pushAll] at hTotal
  have hPos := List.length_pos_iff.mpr hIssues
  simp only [Log.isEmpty, beq_eq_false_iff_ne]
  omega

end Lexer

namespace Source

theorem OnOneLine.append
    {line more : List Char}
    (hLine : OnOneLine line)
    (hMore : OnOneLine more) :
    OnOneLine (line ++ more) :=
  List.forall_mem_append.mpr ⟨hLine, hMore⟩

/- A carriage return ends a line. -/
theorem splitLines_return
    (cs : List Char) :
    ∃ others, splitLines ('\r' :: cs) = [] :: others := by
  by_cases hFeed : ∃ rest, cs = '\n' :: rest
  · rcases hFeed with ⟨rest, rfl⟩
    exact ⟨splitLines rest, by rw [splitLines]⟩
  · refine ⟨splitLines cs, ?_⟩
    rw [splitLines]
    · simp
    · intro rest _ hRest
      exact hFeed ⟨rest, hRest⟩

end Source

namespace Lexer

/-
  A carriage return ends the line behind characters that
  are at fault.
-/
def Breaks
    (cs : List Char) : Prop :=
  ∃ before after,
    cs = before ++ '\r' :: after ∧
      Source.OnOneLine before ∧ Faulty false before

theorem Breaks.append
    {cs : List Char}
    (hBreaks : Breaks cs)
    (more : List Char) :
    Breaks (cs ++ more) := by
  rcases hBreaks with ⟨before, after, rfl, hLine, hFaulty⟩
  exact ⟨before, after ++ more, by simp, hLine, hFaulty⟩

/- Characters in front that belong to other lexemes. -/
theorem Breaks.behind
    {cs front : List Char}
    (hBreaks : Breaks cs)
    (hLine : Source.OnOneLine front)
    (hFront :
      ∀ rest, Faulty false rest →
        Faulty false (front ++ rest)) :
    Breaks (front ++ cs) := by
  rcases hBreaks with ⟨before, after, rfl, hBefore, hFaulty⟩
  exact ⟨front ++ before, after, by simp,
    hLine.append hBefore, hFront before hFaulty⟩

/- A string with a carriage return is cut off by it. -/
theorem breaks_quotedText
    {text : String}
    (hReturn : '\r' ∈ text.toList) :
    Breaks (Value.quotedText text).toList := by
  rcases List.eq_append_cons_of_mem hReturn with
    ⟨start, rest, hText, hFirst⟩
  refine ⟨'\'' :: start.flatMap Value.escapeChar,
    rest.flatMap Value.escapeChar ++ ['\''], ?_, ?_,
    faulty_unclosed false start⟩
  · rw [Value.quotedText, String.toList_ofList, hText]
    simp [Value.escapeChar]
  · refine List.forall_mem_cons.mpr ⟨by decide, ?_⟩
    intro c hChar
    rcases List.mem_flatMap.mp hChar with
      ⟨d, hMem, hEscaped⟩
    rcases Value.mem_escapeChar hEscaped with
      ⟨hLine, hSelf⟩
    refine ⟨hLine, fun hBreak => hFirst ?_⟩
    rwa [← hSelf hBreak]

/- A script that breaks in its first line is not read. -/
theorem Breaks.program?
    {cs : List Char}
    (hBreaks : Breaks cs)
    (name : String) :
    (Source.ofText name
      (String.ofList cs)).parse.program? = none := by
  rcases hBreaks with ⟨before, after, rfl, hLine, hFaulty⟩
  rcases Source.splitLines_return after with
    ⟨others, hOthers⟩
  have hLines := Source.splitLines_append hLine hOthers
  have hText :
      Faulty false (String.ofList before).toList := by
    rwa [String.toList_ofList]
  have hLog :
      (Source.ofText name
        (String.ofList
          (before ++ '\r' :: after))).lex.log.isEmpty =
        false := by
    rw [Source.ofText, String.toList_ofList, hLines,
      List.append_nil]
    exact hText.lexLines _ _ _
  rw [Source.parse, if_neg (ne_true_of_eq_false hLog)]

end Lexer

namespace Datum

open Lexer

/- A string in the datum has a carriage return. -/
def Broken
    (datum : Datum) : Prop :=
  ∃ leaf ∈ datum.atoms, leaf.Broken

def ListBroken
    (items : List Datum) : Prop :=
  ∃ leaf ∈ listAtoms items, leaf.Broken

theorem listBroken_cons
    {item : Datum}
    {items : List Datum} :
    ListBroken (item :: items) ↔
      item.Broken ∨ ListBroken items := by
  unfold ListBroken Broken
  rw [listAtoms]
  constructor
  · rintro ⟨leaf, hLeaf, hBroken⟩
    rcases List.mem_append.mp hLeaf with hLeaf | hLeaf
    · exact Or.inl ⟨leaf, hLeaf, hBroken⟩
    · exact Or.inr ⟨leaf, hLeaf, hBroken⟩
  · rintro (⟨leaf, hLeaf, hBroken⟩ | ⟨leaf, hLeaf, hBroken⟩)
    · exact ⟨leaf, List.mem_append_left _ hLeaf, hBroken⟩
    · exact ⟨leaf, List.mem_append_right _ hLeaf, hBroken⟩

mutual

theorem mem_chars :
    (datum : Datum) →
    datum.Legible →
    {c : Char} →
    c ∈ datum.chars →
    c ≠ '\n' ∧ (c = '\r' → datum.Broken)
| .atom leaf, hLegible, c, hChar => by
    have hMem : leaf ∈ (Datum.atom leaf).atoms :=
      List.mem_singleton.mpr rfl
    rcases Atom.mem_chars (hLegible leaf hMem) hChar with
      ⟨hFeed, hReturn⟩
    exact ⟨hFeed, fun hBreak =>
      ⟨leaf, hMem, hReturn hBreak⟩⟩
| .list items, hLegible, c, hChar => by
    rw [chars, List.mem_cons, List.mem_append] at hChar
    rcases hChar with rfl | hChar | hChar
    · exact ⟨by decide, by simp⟩
    · exact mem_listChars items hLegible hChar
    · rcases List.mem_singleton.mp hChar with rfl
      exact ⟨by decide, by simp⟩

theorem mem_listChars :
    (items : List Datum) →
    ListLegible items →
    {c : Char} →
    c ∈ listChars items →
    c ≠ '\n' ∧ (c = '\r' → ListBroken items)
| [], _, _, hChar => by
    contradiction
| [item], hLegible, c, hChar => by
    rw [listLegible_cons] at hLegible
    rcases mem_chars item hLegible.1 hChar with
      ⟨hFeed, hReturn⟩
    rw [listBroken_cons]
    exact ⟨hFeed, fun hBreak => Or.inl (hReturn hBreak)⟩
| item :: next :: items, hLegible, c, hChar => by
    rw [listLegible_cons] at hLegible
    rw [listChars, List.mem_append, List.mem_cons,
      List.mem_cons] at hChar
    rw [listBroken_cons]
    rcases hChar with hChar | rfl | rfl | hChar
    · rcases mem_chars item hLegible.1 hChar with
        ⟨hFeed, hReturn⟩
      exact ⟨hFeed, fun hBreak => Or.inl (hReturn hBreak)⟩
    · exact ⟨by decide, by simp⟩
    · exact ⟨by decide, by simp⟩
    · rcases mem_listChars (next :: items) hLegible.2
          hChar with
        ⟨hFeed, hReturn⟩
      exact ⟨hFeed, fun hBreak => Or.inr (hReturn hBreak)⟩

end

/- A datum without carriage returns is one line. -/
theorem onOneLine_chars
    {datum : Datum}
    (hLegible : datum.Legible)
    (hWhole : ¬datum.Broken) :
    Source.OnOneLine datum.chars := by
  intro c hChar
  rcases mem_chars datum hLegible hChar with
    ⟨hFeed, hReturn⟩
  exact ⟨hFeed, fun hBreak => hWhole (hReturn hBreak)⟩

mutual

/-
  The first carriage return of a datum is in a string, and
  what stands in front of that string are whole tokens.
-/
theorem breaks_chars :
    (datum : Datum) →
    datum.Legible →
    datum.Broken →
    Breaks datum.chars
| .atom leaf, _, hBroken => by
    rcases hBroken with ⟨broken, hMem, hBroken⟩
    rcases List.mem_singleton.mp hMem with rfl
    cases broken with
    | str text => exact breaks_quotedText hBroken
    | _ => exact hBroken.elim
| .list items, hLegible, hBroken => by
    have hItems :=
      (breaks_listChars items hLegible hBroken).append [']']
    have hOpen : Source.OnOneLine ['['] := by
      simp [Source.OnOneLine]
    exact hItems.behind hOpen fun rest hRest =>
      (spells_leftBracket false rest).faulty hRest

theorem breaks_listChars :
    (items : List Datum) →
    ListLegible items →
    ListBroken items →
    Breaks (listChars items)
| [], _, hBroken => by
    rcases hBroken with ⟨_, hMem, _⟩
    contradiction
| [item], hLegible, hBroken => by
    rw [listLegible_cons] at hLegible
    rcases listBroken_cons.mp hBroken with
      hItem | ⟨_, hMem, _⟩
    · exact breaks_chars item hLegible.1 hItem
    · contradiction
| item :: next :: items, hLegible, hBroken => by
    rw [listLegible_cons] at hLegible
    by_cases hItem : item.Broken
    · exact (breaks_chars item hLegible.1 hItem).append _
    · have hRest :=
        breaks_listChars (next :: items) hLegible.2
          ((listBroken_cons.mp hBroken).resolve_left hItem)
      have hLine :
          Source.OnOneLine (item.chars ++ [',', ' ']) :=
        (onOneLine_chars hLegible.1 hItem).append
          (by simp [Source.OnOneLine])
      have hFront :
          ∀ rest, Faulty false rest →
            Faulty false
              (item.chars ++ [',', ' '] ++ rest) := by
        rintro rest ⟨lexemes, cause, hYields, hFault⟩
        have hApart : Apart (',' :: ' ' :: rest) :=
          Or.inr (Or.inl rfl)
        have hAll :=
          yields_chars item hLegible.1 hApart
            (yields_separator true hYields)
        refine ⟨_, cause, by simpa using hAll, ?_⟩
        simp [hFault]
      simpa [listChars] using hRest.behind hLine hFront

end

/- The text of a datum as a script of one line. -/
theorem lex_chars
    {datum : Datum}
    (hLegible : datum.Legible)
    (hWhole : ¬datum.Broken)
    (name : String) :
    (Source.ofText name
        (String.ofList datum.chars)).lex.log = Log.empty ∧
      (Source.ofText name
          (String.ofList datum.chars)).lex.tokens.map
          (·.kind) =
        datum.expr.render ++ [.newline, .endOfFile] := by
  have hLine := onOneLine_chars hLegible hWhole
  have hEnd : Apart [] := trivial
  have hYields :=
    yields_chars datum hLegible hEnd (yields_nil true)
  rw [List.append_nil, List.append_nil] at hYields
  rcases exists_chars_cons datum hLegible with
    ⟨c, rest, hChars, hVisible, hComment⟩
  rw [hChars] at hLine hYields ⊢
  have hMargin : Outline.Margin 0 [] := ⟨by simp, rfl⟩
  have hLays :=
    Outline.lineLays_of_yields (closes_refl []).turns hMargin
      hVisible hComment hYields
  have hScript := Lays.cons hLays (Lays.nil [])
  have hRead := hScript.lex (by simp) (by simpa using hLine) name
  simpa using hRead

end Datum

end Gantry
