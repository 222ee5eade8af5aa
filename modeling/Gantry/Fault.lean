import Gantry.Log
import Gantry.Token

/-
  This file defines what can be wrong with a script's text,
  and how it is reported next to the line it concerns.

  Key definitions include:
    * `Gantry.Fault`
    * `Gantry.Fault.code`
    * `Gantry.Fault.message`
    * `Gantry.Issue`
    * `Gantry.Diagnostic`
    * `Gantry.Source.diagnose`
-/

------------------------------------------------------------
-- Faults
------------------------------------------------------------

namespace Gantry

/- How many levels an expression may nest. -/
def maxNesting : Nat := 64

/-
  A fault of a script's text. The first four concern its
  characters and its indentation, the others its grammar.
-/
inductive Fault where
  | unexpectedCharacter (found : Char)
  | unterminatedString (quote : Char)
  | invalidNumber (text : String)
  | inconsistentDedent
  | expectedToken (wanted found : TokenKind)
  | expectedLineEnd (found : TokenKind)
  | expectedBody (found : TokenKind)
  | expectedName (found : TokenKind)
  | reservedName (word : Keyword)
  | expectedExpression (found : TokenKind)
  | duplicateParameter (name : String)
  | invalidTarget
  | expectedBlock
  | unexpectedIndent
  | outsideLoop (word : Keyword)
  | outsideFunction
  | nestingTooDeep
deriving DecidableEq, Repr

namespace Fault

/- The number under which a fault is known. -/
def code :
    Fault → Nat
| unexpectedCharacter _ => 100
| unterminatedString _ => 101
| invalidNumber _ => 102
| inconsistentDedent => 103
| expectedToken _ _ => 150
| expectedLineEnd _ => 150
| expectedBody _ => 150
| expectedName _ => 150
| reservedName _ => 150
| expectedExpression _ => 150
| duplicateParameter _ => 150
| invalidTarget => 151
| expectedBlock => 152
| unexpectedIndent => 153
| outsideLoop _ => 154
| outsideFunction => 155
| nestingTooDeep => 156

/- What is wrong, in words. -/
def message :
    Fault → String
| unexpectedCharacter found =>
    s!"unexpected character '{found}'"
| unterminatedString _ => "unterminated string literal"
| invalidNumber text => s!"invalid number literal '{text}'"
| inconsistentDedent =>
    "unindent does not match any outer indentation level"
| expectedToken wanted found =>
    s!"expected '{wanted.text}', got '{found.text}'"
| expectedLineEnd found =>
    s!"expected end of line, got '{found.text}'"
| expectedBody found =>
    s!"expected end of line after ':', got '{found.text}'"
| expectedName found =>
    s!"expected a name, got '{found.text}'"
| reservedName word =>
    s!"'{word.text}' is a reserved word " ++
      "and cannot be used as a name"
| expectedExpression found =>
    s!"expected an expression, got '{found.text}'"
| duplicateParameter name =>
    s!"duplicate parameter '{name}'"
| invalidTarget => "invalid assignment target"
| expectedBlock => "expected an indented block"
| unexpectedIndent => "unexpected indent"
| outsideLoop word => s!"'{word.text}' outside loop"
| outsideFunction => "'return' outside function"
| nestingTooDeep =>
    s!"expressions may nest at most {maxNesting} " ++
      "levels deep"

/- How to mend it, where there is a common way. -/
def suggestion? :
    Fault → Option String
| unexpectedCharacter '!' =>
    some "use 'not' for negation, or '!=' for inequality"
| unterminatedString quote =>
    some s!"close the string with {quote}"
| inconsistentDedent =>
    some "line this statement up with an enclosing block"
| expectedBody _ =>
    some "put the body on the following lines, indented"
| reservedName _ => some "choose a different name"
| invalidTarget =>
    some ("assign to a name or a list element; " ++
      "use '==' to compare")
| _ => none

end Fault

/- A fault and the text it concerns. -/
structure Issue where
  fault : Fault
  span : Span
deriving DecidableEq, Repr

end Gantry

------------------------------------------------------------
-- Diagnostics
------------------------------------------------------------

namespace Gantry

/- The stage of reading a script that finds a fault. -/
inductive Category where
  | lexical
  | grammatical
deriving DecidableEq, Repr

namespace Category

/- Numbers 100 to 149 belong to the lexical stage. -/
def ofCode
    (code : Nat) : Category :=
  if 100 ≤ code ∧ code ≤ 149 then lexical else grammatical

/- The name of a stage. -/
def text :
    Category → String
| lexical => "lex"
| grammatical => "syntax"

end Category

/- A fault as a host shows it, with the line it is on. -/
structure Diagnostic where
  file : String
  code : Nat
  message : String
  span : Span
  sourceLine : String
  suggestion? : Option String := none
deriving DecidableEq, Repr

namespace Diagnostic

/- The stage that found the fault. -/
def category
    (diagnostic : Diagnostic) : Category :=
  Category.ofCode diagnostic.code

/- The number of a fault as it is written. -/
def codeText
    (diagnostic : Diagnostic) : String :=
  s!"E{diagnostic.code}"

/- The whole diagnostic on one line. -/
def text
    (diagnostic : Diagnostic) : String :=
  let hint :=
    match diagnostic.suggestion? with
    | some suggestion => s!" (hint: {suggestion})"
    | none => ""
  diagnostic.span.text ++ ": " ++ diagnostic.codeText ++
    " [" ++ diagnostic.category.text ++ "] " ++
    diagnostic.message ++ hint

end Diagnostic

/- Put an issue next to the line on which it starts. -/
def Source.diagnose
    (source : Source)
    (issue : Issue) : Diagnostic :=
  { file := source.name
    code := issue.fault.code
    message := issue.fault.message
    span := issue.span
    sourceLine :=
      (source.line? issue.span.start.line).getD ""
    suggestion? := issue.fault.suggestion? }

end Gantry
