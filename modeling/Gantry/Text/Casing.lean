import Gantry.Text.CaseData

/-
  This file changes the case of a text by the full mappings
  of the Unicode standard. A capital sigma at the end of a
  word has a lower case of its own.

  Key definitions include:
    * `Gantry.Text.upper`
    * `Gantry.Text.lower`
    * `Gantry.Text.isFinalSigma`
-/

------------------------------------------------------------
-- Tables
------------------------------------------------------------

namespace Gantry

namespace Text

/-
  Search a table, whose entries are in the order of their
  last codes, for the first entry that does not end before a
  code. Every round halves what is left of the table.
-/
def seek
    {α : Type}
    (table : Array α)
    (last : α → Nat)
    (code : Nat) :
    Nat → Nat → Nat → Option α
| 0, _, _ => none
| rounds + 1, low, high =>
    if low < high then
      let middle := (low + high) / 2
      match table[middle]? with
      | none => none
      | some entry =>
          if last entry < code then
            seek table last code rounds (middle + 1) high
          else
            seek table last code rounds low middle
    else
      table[low]?

/- The first entry that does not end before a code. -/
def entryFor
    {α : Type}
    (table : Array α)
    (last : α → Nat)
    (code : Nat) : Option α :=
  seek table last code (table.size + 1) 0 table.size

/- The table of runs toward upper case. -/
def upperTable : Array CaseRun :=
  upperRuns.toArray

/- The table of runs toward lower case. -/
def lowerTable : Array CaseRun :=
  lowerRuns.toArray

/- The table of cased characters. -/
def casedTable : Array (Nat × Nat) :=
  casedRanges.toArray

/- The table of case-ignorable characters. -/
def caseIgnorableTable : Array (Nat × Nat) :=
  caseIgnorableRanges.toArray

/- The code of a character lies in one of the ranges. -/
def inTable
    (table : Array (Nat × Nat))
    (c : Char) : Bool :=
  match entryFor table (·.2) c.toNat with
  | some (first, _) => first ≤ c.toNat
  | none => false

end Text

end Gantry

------------------------------------------------------------
-- Single Characters
------------------------------------------------------------

namespace Gantry

namespace Text

/-
  The other case of one character, from a table of runs and
  a list of expansions. A character in neither is its own.
-/
def recase
    (runs : Array CaseRun)
    (expansions : List (Nat × List Nat))
    (c : Char) : List Char :=
  let code := c.toNat
  match (entryFor runs (·.last) code).filter
      (·.contains code) with
  | some run => [Char.ofNat (code + run.shift).toNat]
  | none =>
      match expansions.lookup code with
      | some codes => codes.map Char.ofNat
      | none => [c]

/- A character of the first 128, which need no table. -/
def isPlain
    (c : Char) : Bool :=
  c.toNat < 128

/- The upper case of one character. -/
def upperChar
    (c : Char) : List Char :=
  if isPlain c then
    [c.toUpper]
  else
    recase upperTable upperExpansions c

/- The lower case of one character away from a word end. -/
def lowerChar
    (c : Char) : List Char :=
  if isPlain c then
    [c.toLower]
  else
    recase lowerTable lowerExpansions c

end Text

end Gantry

------------------------------------------------------------
-- Texts
------------------------------------------------------------

namespace Gantry

namespace Text

/- Replace every character of a text by others. -/
def replaceChars
    (replace : Char → List Char)
    (text : String) : String :=
  text.foldl
    (fun out c => (replace c).foldl String.push out) ""

/-
  The first character that is not case-ignorable is a cased
  one.
-/
def startsCased
    (cs : List Char) : Bool :=
  match cs.dropWhile (inTable caseIgnorableTable) with
  | [] => false
  | c :: _ => inTable casedTable c

/-
  A sigma ends a word when cased text comes before it and
  none comes after it. What comes before is given backwards.
-/
def isFinalSigma
    (before after : List Char) : Bool :=
  startsCased before && !startsCased after

/- The upper case of a text. -/
def upper
    (text : String) : String :=
  replaceChars upperChar text

/- Lower-case characters, knowing those before, backwards. -/
def lowerFrom
    (before : List Char) :
    List Char → List Char
| [] => []
| c :: rest =>
    let lowered :=
      if c = 'Σ' then
        [if isFinalSigma before rest then 'ς' else 'σ']
      else
        lowerChar c
    lowered ++ lowerFrom (c :: before) rest

/-
  The lower case of a text. Only a capital sigma needs to
  know what is around it.
-/
def lower
    (text : String) : String :=
  if text.any (· == 'Σ') then
    String.ofList (lowerFrom [] text.toList)
  else
    replaceChars lowerChar text

end Text

end Gantry
