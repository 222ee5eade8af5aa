/-
  This file defines places in a script, spans between two
  places, and the numbered lines of a script's text.

  Key definitions include:
    * `Gantry.Position`
    * `Gantry.Span`
    * `Gantry.Span.merge`
    * `Gantry.Source`
    * `Gantry.Source.ofText`
    * `Gantry.Source.line?`
-/

------------------------------------------------------------
-- Positions
------------------------------------------------------------

namespace Gantry

/-
  A place in a script. Lines and columns count from one, and
  a column counts characters.
-/
structure Position where
  line : Nat
  column : Nat
deriving DecidableEq, Repr

namespace Position

/- Reading order: by line, then by column. -/
def AtMost
    (p q : Position) : Prop :=
  p.line < q.line ∨
    (p.line = q.line ∧ p.column ≤ q.column)

instance : LE Position where
  le := AtMost

instance
    (p q : Position) :
    Decidable (p ≤ q) := by
  change Decidable (AtMost p q)
  unfold AtMost
  infer_instance

/- The place read first. -/
def first
    (p q : Position) : Position :=
  if p ≤ q then p else q

/- The place read last. -/
def last
    (p q : Position) : Position :=
  if p ≤ q then q else p

end Position

end Gantry

------------------------------------------------------------
-- Spans
------------------------------------------------------------

namespace Gantry

/- A stretch of text, both ends included. -/
structure Span where
  start : Position
  stop : Position
deriving DecidableEq, Repr

namespace Span

/- The span before anything has been read. -/
def unset : Span :=
  ⟨⟨0, 0⟩, ⟨0, 0⟩⟩

instance : Inhabited Span where
  default := unset

/- A single place. -/
def point
    (line column : Nat) : Span :=
  ⟨⟨line, column⟩, ⟨line, column⟩⟩

/-
  The `length` characters of one line from `column` on. No
  characters are marked by their place alone.
-/
def onLine
    (line column length : Nat) : Span :=
  ⟨⟨line, column⟩, ⟨line, column + (length - 1)⟩⟩

/- The least span that covers both. -/
def merge
    (s t : Span) : Span :=
  ⟨s.start.first t.start, s.stop.last t.stop⟩

/- A span is announced by the place where it starts. -/
def text
    (s : Span) : String :=
  s!"{s.start.line}:{s.start.column}"

end Span

end Gantry

------------------------------------------------------------
-- Source Texts
------------------------------------------------------------

namespace Gantry

/- A named script, cut into lines. -/
structure Source where
  name : String
  lines : List String
deriving DecidableEq, Repr

namespace Source

/-
  The lines of a text. A line feed, a carriage return, and a
  carriage return with its line feed each end one line.
-/
def splitLines :
    List Char → List (List Char)
| [] => [[]]
| '\r' :: '\n' :: rest => [] :: splitLines rest
| c :: rest =>
    if c = '\n' ∨ c = '\r' then
      [] :: splitLines rest
    else
      match splitLines rest with
      | [] => [[c]]
      | line :: lines => (c :: line) :: lines

/- The lines of a script's text. -/
def ofText
    (name text : String) : Source :=
  ⟨name, (splitLines text.toList).map String.ofList⟩

/- The text with every line end written as a line feed. -/
def text
    (source : Source) : String :=
  "\n".intercalate source.lines

/- The line with the given number. -/
def line?
    (source : Source)
    (number : Nat) : Option String :=
  match number with
  | 0 => none
  | n + 1 => source.lines[n]?

/- The lines with their numbers. -/
def numbered
    (source : Source) : List (Nat × String) :=
  source.lines.zipIdx.map fun (line, index) =>
    (index + 1, line)

/- The place just behind the last character. -/
def finish
    (source : Source) : Span :=
  let count := source.lines.length
  let width := ((source.line? count).getD "").length
  Span.point (max count 1) (width + 1)

end Source

end Gantry
