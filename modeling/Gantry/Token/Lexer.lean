import Gantry.Fault
import Gantry.Number.Reading
import Gantry.Text.Blank

/-
  This file cuts a script into tokens, line by line.

  A line is a stretch of lexemes between blanks; its leading
  spaces and tabs open and close levels of indentation. A
  lexeme that cannot be read is reported and skipped, so
  each lexeme is either a token or a fault.

  Key definitions include:
    * `Gantry.Lexer.Lexeme`
    * `Gantry.Lexer.lexemeAt`
    * `Gantry.Lexer.scan`
    * `Gantry.Lexer.relayout`
    * `Gantry.Lexer.lexLine`
    * `Gantry.Source.lex`
-/

------------------------------------------------------------
-- Lexemes
------------------------------------------------------------

namespace Gantry

namespace Lexer

/- What one stretch of characters turned out to be. -/
inductive Lexeme where
  | token (kind : TokenKind)
  | fault (cause : Fault)
deriving DecidableEq, Repr

/-
  Whether an operand ends behind the lexeme. A fault leaves
  the answer for what stands before it.
-/
def Lexeme.endsOperand
    (lexeme : Lexeme)
    (before : Bool) : Bool :=
  match lexeme with
  | .token kind => kind.endsOperand
  | .fault _ => before

/- A character that can start a name. -/
def isNameStart
    (c : Char) : Bool :=
  c.isAlpha || c == '_'

/- A character that can continue a name. -/
def isNamePart
    (c : Char) : Bool :=
  c.isAlphanum || c == '_'

/- A character that can continue a number. -/
def isNumberPart
    (c : Char) : Bool :=
  Number.isDigit c || c == '.'

/-
  The text between two quotes with its escapes resolved, and
  the number of characters up to and including the closing
  quote. The opening quote has been read.
-/
def quoted?
    (quote : Char) :
    List Char → Option (List Char × Nat)
| [] => none
| '\\' :: [] => none
| '\\' :: escaped :: rest =>
    let c :=
      if escaped = 'n' then
        '\n'
      else if escaped = 't' then
        '\t'
      else
        escaped
    (quoted? quote rest).map fun (text, count) =>
      (c :: text, count + 2)
| c :: rest =>
    if c = quote then
      some ([], 1)
    else
      (quoted? quote rest).map fun (text, count) =>
        (c :: text, count + 1)

/- A name or a reserved word. -/
def wordLexeme
    (word : String) : Lexeme :=
  match Keyword.ofText? word with
  | some keyword => .token (.keyword keyword)
  | none => .token (.name word)

/- A run of digits and points, possibly with a minus. -/
def numberLexeme
    (run : List Char) : Lexeme :=
  match Number.read? run with
  | some x => .token (.number (Numeral.ofFloat x))
  | none => .fault (.invalidNumber (String.ofList run))

/- The symbols of two characters. -/
def doubleSymbol? :
    Char → Char → Option Symbol
| '/', '/' => some .slashSlash
| '=', '=' => some .eqEq
| '!', '=' => some .bangEq
| '<', '=' => some .lessEq
| '>', '=' => some .greaterEq
| _, _ => none

/- The symbols of one character. -/
def singleSymbol? :
    Char → Option Symbol
| '+' => some .plus
| '-' => some .minus
| '*' => some .star
| '/' => some .slash
| '%' => some .percent
| '=' => some .eq
| '<' => some .less
| '>' => some .greater
| '(' => some .leftParen
| ')' => some .rightParen
| '[' => some .leftBracket
| ']' => some .rightBracket
| ':' => some .colon
| ',' => some .comma
| '.' => some .dot
| _ => none

/- A symbol, the longer one first. -/
def symbolLexeme
    (c : Char)
    (rest : List Char) : Lexeme × Nat :=
  match rest.head?.bind (doubleSymbol? c) with
  | some symbol => (.token (.symbol symbol), 1)
  | none =>
      match singleSymbol? c with
      | some symbol => (.token (.symbol symbol), 0)
      | none => (.fault (.unexpectedCharacter c), 0)

/-
  A number starts with a digit, or with a minus in front of
  one where no operand ends before it.
-/
def startsNumber
    (afterOperand : Bool)
    (c : Char)
    (rest : List Char) : Bool :=
  Number.isDigit c ||
    (c == '-' && !afterOperand &&
      rest.head?.any Number.isDigit)

/-
  The lexeme that starts with `c`, and how many characters of
  `rest` belong to it. A string without its closing quote
  takes all of them.
-/
def lexemeAt
    (afterOperand : Bool)
    (c : Char)
    (rest : List Char) : Lexeme × Nat :=
  if c = '"' ∨ c = '\'' then
    match quoted? c rest with
    | some (text, count) =>
        (.token (.string (String.ofList text)), count)
    | none => (.fault (.unterminatedString c), rest.length)
  else if startsNumber afterOperand c rest then
    let run := rest.takeWhile isNumberPart
    (numberLexeme (c :: run), run.length)
  else if isNameStart c then
    let run := rest.takeWhile isNamePart
    (wordLexeme (String.ofList (c :: run)), run.length)
  else
    symbolLexeme c rest

end Lexer

end Gantry

------------------------------------------------------------
-- Lines
------------------------------------------------------------

namespace Gantry

namespace Lexer

/- A lexeme and the text it was read from. -/
structure Item where
  lexeme : Lexeme
  span : Span
deriving DecidableEq, Repr

/- The token of an item, if it is one. -/
def Item.token?
    (item : Item) : Option Token :=
  match item.lexeme with
  | .token kind => some ⟨kind, item.span⟩
  | .fault _ => none

/- The issue of an item, if it is one. -/
def Item.issue?
    (item : Item) : Option Issue :=
  match item.lexeme with
  | .token _ => none
  | .fault cause => some ⟨cause, item.span⟩

/-
  The items of a line from one column on. Blanks separate
  lexemes, and a number sign starts a comment.
-/
def scan
    (line column : Nat)
    (afterOperand : Bool)
    (cs : List Char) : List Item :=
  match cs with
  | [] => []
  | c :: rest =>
      if Text.isBlank c then
        scan line (column + 1) afterOperand rest
      else if c = '#' then
        []
      else
        let found := lexemeAt afterOperand c rest
        let lexeme := found.1
        let more := found.2
        let span : Span :=
          ⟨⟨line, column⟩, ⟨line, column + more⟩⟩
        ⟨lexeme, span⟩ ::
          scan line (column + more + 1)
            (lexeme.endsOperand afterOperand)
            (rest.drop more)
termination_by cs.length
decreasing_by
  · simp
  · simp only [List.length_cons, List.length_drop]
    omega

/- The width of a tab in indentation. -/
def tabWidth : Nat := 4

/- The width of the leading spaces and tabs. -/
def indentWidth :
    List Char → Nat
| ' ' :: rest => indentWidth rest + 1
| '\t' :: rest => indentWidth rest + tabWidth
| _ => 0

/- Nothing but blanks and a comment. -/
def isIdle
    (cs : List Char) : Bool :=
  match cs.dropWhile Text.isBlank with
  | [] => true
  | c :: _ => c == '#'

end Lexer

end Gantry

------------------------------------------------------------
-- Indentation
------------------------------------------------------------

namespace Gantry

namespace Lexer

/- The width of the innermost open level. -/
def currentWidth
    (levels : List Nat) : Nat :=
  levels.headD 0

/- The levels that are wider than a line is indented. -/
def closedLevels
    (width : Nat)
    (levels : List Nat) : List Nat :=
  levels.takeWhile (width < ·)

/- The levels that stay open. -/
def openLevels
    (width : Nat)
    (levels : List Nat) : List Nat :=
  levels.dropWhile (width < ·)

/- The tokens and issues of one line, and the open levels. -/
structure Line where
  tokens : List Token
  issues : List Issue
  levels : List Nat
deriving DecidableEq, Repr

/-
  Open a level for a wider line and close levels for a
  narrower one. A line that matches no open level is
  reported and opens a level of its own. Levels are listed
  from the innermost one; the outermost has width zero and
  is not listed.
-/
def relayout
    (line width : Nat)
    (levels : List Nat) : Line :=
  let place := Span.point line 1
  if currentWidth levels < width then
    ⟨[⟨.indent, place⟩], [], width :: levels⟩
  else
    let dedents :=
      (closedLevels width levels).map fun _ =>
        (⟨.dedent, place⟩ : Token)
    let kept := openLevels width levels
    if currentWidth kept = width then
      ⟨dedents, [], kept⟩
    else
      ⟨dedents,
        [⟨.inconsistentDedent, Span.onLine line 1 width⟩],
        width :: kept⟩

/-
  One line of a script. An idle line leaves no trace; any
  other ends in a newline token behind its last character.
-/
def lexLine
    (line : Nat)
    (levels : List Nat)
    (cs : List Char) : Line :=
  if isIdle cs then
    ⟨[], [], levels⟩
  else
    let layout := relayout line (indentWidth cs) levels
    let items := scan line 1 false cs
    let newline : Token :=
      ⟨.newline, Span.point line (cs.length + 1)⟩
    ⟨layout.tokens ++ items.filterMap Item.token? ++
        [newline],
      layout.issues ++ items.filterMap Item.issue?,
      layout.levels⟩

end Lexer

end Gantry

------------------------------------------------------------
-- Scripts
------------------------------------------------------------

namespace Gantry

/- The tokens of a script and what was wrong with it. -/
structure Lexed where
  tokens : List Token
  log : Log Issue
deriving DecidableEq, Repr

namespace Lexer

/- The tokens that end a script: open levels are closed. -/
def closing
    (finish : Span)
    (levels : List Nat) : List Token :=
  (levels.map fun _ => (⟨.dedent, finish⟩ : Token)) ++
    [⟨.endOfFile, finish⟩]

/-
  The remaining lines of a script. No line is begun once the
  log is full.
-/
def lexLines
    (finish : Span)
    (levels : List Nat)
    (log : Log Issue) :
    List (Nat × String) → Lexed
| [] => ⟨closing finish levels, log⟩
| (number, text) :: rest =>
    if log.isFull then
      ⟨closing finish levels, log⟩
    else
      let line := lexLine number levels text.toList
      let after :=
        lexLines finish line.levels
          (log.pushAll line.issues) rest
      ⟨line.tokens ++ after.tokens, after.log⟩

end Lexer

/- All tokens of a script. -/
def Source.lex
    (source : Source) : Lexed :=
  Lexer.lexLines source.finish [] Log.empty source.numbered

end Gantry
