import Gantry.Source
import Gantry.Number.Numeral
import Gantry.Number.Shortest

/-
  This file defines the tokens of the script language:
  literals, names, reserved words, symbols and layout.

  Key definitions include:
    * `Gantry.Keyword`
    * `Gantry.Keyword.ofText?`
    * `Gantry.Symbol`
    * `Gantry.TokenKind`
    * `Gantry.TokenKind.endsOperand`
    * `Gantry.TokenKind.text`
    * `Gantry.Token`
-/

------------------------------------------------------------
-- Reserved Words
------------------------------------------------------------

namespace Gantry

/- A word that cannot be used as a name. -/
inductive Keyword where
  | defWord
  | ifWord
  | elifWord
  | elseWord
  | forWord
  | whileWord
  | returnWord
  | passWord
  | breakWord
  | continueWord
  | andWord
  | orWord
  | notWord
  | inWord
  | trueWord
  | falseWord
  | noneWord
deriving DecidableEq, Repr

namespace Keyword

/- Every reserved word: statements, operators, literals. -/
def all : List Keyword :=
  [defWord, ifWord, elifWord, elseWord, forWord, whileWord,
   returnWord, passWord, breakWord, continueWord, andWord,
   orWord, notWord, inWord, trueWord, falseWord, noneWord]

/- The spelling of a reserved word. -/
def text :
    Keyword → String
| defWord => "def"
| ifWord => "if"
| elifWord => "elif"
| elseWord => "else"
| forWord => "for"
| whileWord => "while"
| returnWord => "return"
| passWord => "pass"
| breakWord => "break"
| continueWord => "continue"
| andWord => "and"
| orWord => "or"
| notWord => "not"
| inWord => "in"
| trueWord => "True"
| falseWord => "False"
| noneWord => "None"

/- The reserved word with the given spelling. -/
def ofText?
    (word : String) : Option Keyword :=
  all.find? fun keyword => keyword.text == word

/- The reserved words that are literals. -/
def isLiteral :
    Keyword → Bool
| trueWord => true
| falseWord => true
| noneWord => true
| _ => false

end Keyword

end Gantry

------------------------------------------------------------
-- Symbols
------------------------------------------------------------

namespace Gantry

/- An operator or a punctuation mark. -/
inductive Symbol where
  | plus
  | minus
  | star
  | slash
  | slashSlash
  | percent
  | eqEq
  | bangEq
  | less
  | greater
  | lessEq
  | greaterEq
  | eq
  | leftParen
  | rightParen
  | leftBracket
  | rightBracket
  | comma
  | colon
  | dot
deriving DecidableEq, Repr

/- The spelling of a symbol. -/
def Symbol.text :
    Symbol → String
| .plus => "+"
| .minus => "-"
| .star => "*"
| .slash => "/"
| .slashSlash => "//"
| .percent => "%"
| .eqEq => "=="
| .bangEq => "!="
| .less => "<"
| .greater => ">"
| .lessEq => "<="
| .greaterEq => ">="
| .eq => "="
| .leftParen => "("
| .rightParen => ")"
| .leftBracket => "["
| .rightBracket => "]"
| .comma => ","
| .colon => ":"
| .dot => "."

end Gantry

------------------------------------------------------------
-- Tokens
------------------------------------------------------------

namespace Gantry

/-
  What a token is. A string holds its text with all escapes
  resolved.
-/
inductive TokenKind where
  | number (numeral : Numeral)
  | string (text : String)
  | name (text : String)
  | keyword (word : Keyword)
  | symbol (mark : Symbol)
  | indent
  | dedent
  | newline
  | endOfFile
deriving DecidableEq, Repr

namespace TokenKind

/- A reserved word. -/
def isKeyword :
    TokenKind → Bool
| keyword _ => true
| _ => false

/-
  The kinds that can finish an operand. A minus behind one of
  them is an operator and never the sign of a number.
-/
def endsOperand :
    TokenKind → Bool
| number _ => true
| string _ => true
| name _ => true
| keyword word => word.isLiteral
| symbol .rightParen => true
| symbol .rightBracket => true
| _ => false

/-
  A number in a message: its shortest digits, with the sign
  of a zero and the usual names of what is not finite.
-/
def numberText
    (x : Float) : String :=
  match Number.positional? x with
  | some digits => String.ofList digits
  | none =>
      if x.isNaN then
        "NaN"
      else if x < 0 then
        "-inf"
      else
        "inf"

/- A token as messages show it. -/
def text :
    TokenKind → String
| number numeral => numberText numeral.value
| string text => s!"'{text}'"
| name text => text
| keyword word => word.text
| symbol mark => mark.text
| indent => "indent"
| dedent => "dedent"
| newline => "newline"
| endOfFile => "end of file"

end TokenKind

/- A token and the text it was read from. -/
structure Token where
  kind : TokenKind
  span : Span
deriving DecidableEq, Repr

end Gantry

------------------------------------------------------------
-- Spellings
------------------------------------------------------------

namespace Gantry

/- A reserved word is found by its spelling. -/
theorem Keyword.ofText?_text
    (word : Keyword) :
    Keyword.ofText? word.text = some word := by
  cases word <;> decide

end Gantry
