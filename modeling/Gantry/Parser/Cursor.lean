import Gantry.Fault
import Gantry.Script

/-
  This file defines the cursor that walks a token stream, and
  the steps that look at one token or recover from a fault.

  A step either yields a value or fails after it has reported
  an issue; both leave the cursor where reading goes on. The
  token that ends the file is never taken, so a cursor that
  stands on it stays there.

  Key definitions include:
    * `Gantry.Cursor`
    * `Gantry.Parser`
    * `Gantry.Parser.expect`
    * `Gantry.Parser.identifier`
    * `Gantry.Parser.synchronize`
-/

------------------------------------------------------------
-- Cursors
------------------------------------------------------------

namespace Gantry

/-
  The tokens still to be read, the text of the one taken
  last, and the issues reported so far.
-/
structure Cursor where
  rest : List Token
  previous : Span := Span.point 1 1
  log : Log Issue := Log.empty
deriving DecidableEq, Repr

namespace Cursor

/- The kind of the next token. -/
def kind
    (cursor : Cursor) : TokenKind :=
  match cursor.rest with
  | [] => .endOfFile
  | token :: _ => token.kind

/- The text of the next token. -/
def here
    (cursor : Cursor) : Span :=
  match cursor.rest with
  | [] => Span.point 1 1
  | token :: _ => token.span

/- Take the next token. -/
def next
    (cursor : Cursor) : Cursor :=
  match cursor.rest with
  | [] => cursor
  | token :: rest =>
      { cursor with rest := rest, previous := token.span }

/- Report an issue. -/
def report
    (cursor : Cursor)
    (fault : Fault)
    (span : Span) : Cursor :=
  { cursor with log := cursor.log.push ⟨fault, span⟩ }

/- Nothing but the end of the file is left. -/
def atEnd
    (cursor : Cursor) : Bool :=
  cursor.kind == .endOfFile

end Cursor

end Gantry

------------------------------------------------------------
-- Steps
------------------------------------------------------------

namespace Gantry

/- A step of reading that may fail. -/
abbrev Parser (α : Type) := OptionT (StateM Cursor) α

namespace Parser

variable {α : Type}

/- The kind of the next token. -/
def peek : Parser TokenKind := do
  return (← get).kind

/- The text of the next token. -/
def here : Parser Span := do
  return (← get).here

/- Take the next token and give its text. -/
def advance : Parser Span := do
  let cursor ← get
  set cursor.next
  return cursor.here

/- Report an issue and go on. -/
def report
    (fault : Fault)
    (span : Span) : Parser Unit :=
  modify (·.report fault span)

/- Report an issue and fail. -/
def reject
    (fault : Fault)
    (span : Span) : Parser α := do
  report fault span
  failure

/- Report an issue at the next token and fail. -/
def rejectHere
    (fault : Fault) : Parser α := do
  reject fault (← here)

/- The next token is of the given kind. -/
def check
    (kind : TokenKind) : Parser Bool := do
  return (← peek) == kind

/- Take the next token if it is of the given kind. -/
def eat
    (kind : TokenKind) : Parser Bool := do
  if ← check kind then
    let _ ← advance
    return true
  else
    return false

/- Take a token of the given kind. -/
def expect
    (kind : TokenKind) : Parser Span := do
  let found ← peek
  if found == kind then
    advance
  else
    rejectHere (.expectedToken kind found)

/- Take a name. -/
def identifier : Parser Ident := do
  match ← peek with
  | .name name =>
      let span ← advance
      return ⟨name, span⟩
  | .keyword word => rejectHere (.reservedName word)
  | found => rejectHere (.expectedName found)

/-
  Take the end of a line. The end of the file and of a block
  end a line as well and are left in place.
-/
def lineEnd : Parser Unit := do
  match ← peek with
  | .newline =>
      let _ ← advance
      return ()
  | .endOfFile => return ()
  | .dedent => return ()
  | found => rejectHere (.expectedLineEnd found)

end Parser

end Gantry

------------------------------------------------------------
-- Recovery
------------------------------------------------------------

namespace Gantry

namespace Parser

/- Drop newline tokens. -/
def dropNewlines
    (previous : Span) :
    List Token → Span × List Token
| [] => (previous, [])
| token :: rest =>
    if token.kind = .newline then
      dropNewlines token.span rest
    else
      (previous, token :: rest)

/-
  Drop tokens through the dedent that closes the region at
  hand, of which `depth` levels are open.
-/
def dropRegion
    (depth : Nat)
    (previous : Span) :
    List Token → Span × List Token
| [] => (previous, [])
| token :: rest =>
    match token.kind with
    | .endOfFile => (previous, token :: rest)
    | .indent => dropRegion (depth + 1) token.span rest
    | .dedent =>
        if depth ≤ 1 then
          (token.span, rest)
        else
          dropRegion (depth - 1) token.span rest
    | _ => dropRegion depth token.span rest

/-
  Drop the rest of a line and the indented region that hangs
  under it. Other layout is left in place, so that levels
  stay balanced.
-/
def dropLine
    (previous : Span) :
    List Token → Span × List Token
| [] => (previous, [])
| token :: rest =>
    match token.kind with
    | .endOfFile => (previous, token :: rest)
    | .indent => (previous, token :: rest)
    | .dedent => (previous, token :: rest)
    | .newline =>
        if rest.head?.any (·.kind == .indent) then
          dropRegion 0 token.span rest
        else
          (token.span, rest)
    | _ => dropLine token.span rest

/- Move a cursor by a function that drops tokens. -/
def dropBy
    (drop : Span → List Token → Span × List Token) :
    StateM Cursor Unit :=
  modify fun cursor =>
    let (previous, rest) := drop cursor.previous cursor.rest
    { cursor with rest := rest, previous := previous }

/- Skip blank lines. -/
def skipNewlines : StateM Cursor Unit :=
  dropBy dropNewlines

/- Skip to the next line after a fault. -/
def synchronize : StateM Cursor Unit :=
  dropBy dropLine

end Parser

end Gantry
