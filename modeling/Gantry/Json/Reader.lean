import Gantry.Json

/-
  This file reads JSON documents. Nothing is accepted beyond
  the standard: no comments, no trailing commas, no leading
  zeros, and nothing but blanks around the document.

  Key definitions include:
    * `Gantry.Json.number?`
    * `Gantry.Json.stringUnits?`
    * `Gantry.Json.value?`
    * `Gantry.Json.read?`
-/

------------------------------------------------------------
-- Numbers
------------------------------------------------------------

namespace Gantry

namespace Json

/- A blank between the parts of a document. -/
def isBlank
    (c : Char) : Bool :=
  c == ' ' || c == '\t' || c == '\n' || c == '\r'

/- What follows the blanks. -/
def skipBlanks
    (cs : List Char) : List Char :=
  cs.dropWhile isBlank

/- A decimal digit. -/
def isDigit
    (c : Char) : Bool :=
  '0' ≤ c && c ≤ '9'

/- The leading digits and what follows them. -/
def digitRun
    (cs : List Char) : List Char × List Char :=
  (cs.takeWhile isDigit, cs.dropWhile isDigit)

/- The number that a run of digits writes. -/
def natOfDigits
    (ds : List Char) : Nat :=
  ds.foldl (fun n d => 10 * n + (d.toNat - 48)) 0

/- Digits without a leading zero, unless it stands alone. -/
def wholePart?
    (cs : List Char) : Option (List Char × List Char) :=
  match digitRun cs with
  | ([], _) => none
  | (['0'], rest) => some (['0'], rest)
  | ('0' :: _, _) => none
  | (digits, rest) => some (digits, rest)

/- A point with digits behind it, if there is a point. -/
def fractionPart? :
    List Char → Option (List Char × List Char)
| '.' :: rest =>
    match digitRun rest with
    | ([], _) => none
    | (digits, rest) => some ('.' :: digits, rest)
| rest => some ([], rest)

/- The sign of an exponent, if there is one. -/
def exponentSign :
    List Char → List Char × List Char
| '+' :: rest => (['+'], rest)
| '-' :: rest => (['-'], rest)
| rest => ([], rest)

/- An exponent, if there is one. -/
def exponentPart? :
    List Char → Option (List Char × List Char)
| [] => some ([], [])
| c :: rest =>
    if c = 'e' ∨ c = 'E' then
      let (sign, afterSign) := exponentSign rest
      match digitRun afterSign with
      | ([], _) => none
      | (digits, after) =>
          some (c :: sign ++ digits, after)
    else
      some ([], c :: rest)

/- The sign of a number, if there is one. -/
def minusSign :
    List Char → Bool × List Char
| '-' :: rest => (true, rest)
| rest => (false, rest)

/- As many digits as a count of 64 bits can have. -/
def wholeDigits : Nat := 20

/-
  A number. It is whole when it has neither a fraction nor an
  exponent; a zero with a minus is not, and neither is what
  has more digits than any count.
-/
def number?
    (cs : List Char) : Option (Json × List Char) := do
  let (negative, unsigned) := minusSign cs
  let (whole, afterWhole) ← wholePart? unsigned
  let (fraction, afterFraction) ← fractionPart? afterWhole
  let (exponent, rest) ← exponentPart? afterFraction
  if fraction.isEmpty && exponent.isEmpty &&
      !(negative && whole == ['0']) &&
      decide (whole.length ≤ wholeDigits) then
    let n : Int := natOfDigits whole
    return (int (if negative then -n else n), rest)
  else
    let sign := if negative then ['-'] else []
    let digits := sign ++ whole ++ fraction ++ exponent
    return (real (String.ofList digits), rest)

end Json

end Gantry

------------------------------------------------------------
-- Strings
------------------------------------------------------------

namespace Gantry

namespace Json

/- The value of a hexadecimal digit. -/
def hexValue?
    (c : Char) : Option Nat :=
  if isDigit c then
    some (c.toNat - 48)
  else if 'a' ≤ c && c ≤ 'f' then
    some (c.toNat - 87)
  else if 'A' ≤ c && c ≤ 'F' then
    some (c.toNat - 55)
  else
    none

/- The code of four hexadecimal digits. -/
def hexCode?
    (a b c d : Char) : Option Nat := do
  let high := 16 * (← hexValue? a) + (← hexValue? b)
  let low := 16 * (← hexValue? c) + (← hexValue? d)
  return 256 * high + low

/- The code of an escape of one character. -/
def shortEscape? :
    Char → Option Nat
| '"' => some 0x22
| '\\' => some 0x5C
| '/' => some 0x2F
| 'b' => some 0x08
| 'f' => some 0x0C
| 'n' => some 0x0A
| 'r' => some 0x0D
| 't' => some 0x09
| _ => none

/-
  The codes of a string up to its closing quote, and what
  follows it. Codes of surrogates come from escapes only.
-/
def stringUnits? :
    List Char → Option (List Nat × List Char)
| [] => none
| '"' :: rest => some ([], rest)
| '\\' :: 'u' :: a :: b :: c :: d :: rest => do
    let code ← hexCode? a b c d
    let (codes, after) ← stringUnits? rest
    return (code :: codes, after)
| '\\' :: c :: rest => do
    let code ← shortEscape? c
    let (codes, after) ← stringUnits? rest
    return (code :: codes, after)
| c :: rest =>
    if c.toNat < 0x20 ∨ c = '\\' then
      none
    else do
      let (codes, after) ← stringUnits? rest
      return (c.toNat :: codes, after)

/- The first half of a surrogate pair. -/
def isHighSurrogate
    (code : Nat) : Bool :=
  0xD800 ≤ code && code < 0xDC00

/- The second half of a surrogate pair. -/
def isLowSurrogate
    (code : Nat) : Bool :=
  0xDC00 ≤ code && code < 0xE000

/- The character of a surrogate pair. -/
def joinSurrogates
    (high low : Nat) : Char :=
  Char.ofNat
    (0x10000 + (high - 0xD800) * 0x400 + (low - 0xDC00))

/- The characters of some codes, if no half is missing. -/
def charsOfUnits? :
    List Nat → Option (List Char)
| [] => some []
| code :: rest =>
    if isLowSurrogate code then
      none
    else if isHighSurrogate code then
      match rest with
      | low :: after =>
          if isLowSurrogate low then
            (charsOfUnits? after).map
              (joinSurrogates code low :: ·)
          else
            none
      | [] => none
    else
      (charsOfUnits? rest).map (Char.ofNat code :: ·)

/- A string behind its opening quote; its text may be lost. -/
def string?
    (cs : List Char) :
    Option (Option String × List Char) := do
  let (codes, rest) ← stringUnits? cs
  return ((charsOfUnits? codes).map String.ofList, rest)

end Json

end Gantry

------------------------------------------------------------
-- Documents
------------------------------------------------------------

namespace Gantry

namespace Json

/- A string as a document. -/
def ofString? :
    Option String → Json
| some text => str text
| none => broken

/- An object from its fields, if all keys are texts. -/
def ofFields
    (fields : List (Option String × Json)) : Json :=
  match fields.mapM fun (key, value) =>
      key.map (·, value) with
  | some known => obj known
  | none => broken

mutual

/-
  A document and what follows it. Each step inward takes a
  character, so that the length of the text bounds the
  recursion.
-/
def value?
    (bound : Nat)
    (cs : List Char) : Option (Json × List Char) :=
  match bound with
  | 0 => none
  | bound + 1 =>
      match skipBlanks cs with
      | 'n' :: 'u' :: 'l' :: 'l' :: rest =>
          some (null, rest)
      | 't' :: 'r' :: 'u' :: 'e' :: rest =>
          some (bool true, rest)
      | 'f' :: 'a' :: 'l' :: 's' :: 'e' :: rest =>
          some (bool false, rest)
      | '"' :: rest => do
          let (text, after) ← string? rest
          return (ofString? text, after)
      | '[' :: rest =>
          match skipBlanks rest with
          | ']' :: after => some (arr [], after)
          | _ => do
              let (items, after) ← items? bound rest
              return (arr items, after)
      | '\x7b' :: rest =>
          match skipBlanks rest with
          | '\x7d' :: after => some (obj [], after)
          | _ => do
              let (fields, after) ← fields? bound rest
              return (ofFields fields, after)
      | rest => number? rest

/- The items of an array through its closing bracket. -/
def items?
    (bound : Nat)
    (cs : List Char) : Option (List Json × List Char) :=
  match bound with
  | 0 => none
  | bound + 1 => do
      let (item, afterItem) ← value? bound cs
      match skipBlanks afterItem with
      | ']' :: after => return ([item], after)
      | ',' :: rest =>
          let (items, after) ← items? bound rest
          return (item :: items, after)
      | _ => none

/- The fields of an object through its closing brace. -/
def fields?
    (bound : Nat)
    (cs : List Char) :
    Option (List (Option String × Json) × List Char) :=
  match bound with
  | 0 => none
  | bound + 1 => do
      match skipBlanks cs with
      | '"' :: rest =>
          let (key, afterKey) ← string? rest
          match skipBlanks afterKey with
          | ':' :: afterColon =>
              let (value, afterValue) ←
                value? bound afterColon
              match skipBlanks afterValue with
              | '\x7d' :: after =>
                  return ([(key, value)], after)
              | ',' :: rest =>
                  let (fields, after) ← fields? bound rest
                  return ((key, value) :: fields, after)
              | _ => none
          | _ => none
      | _ => none

end

/- A text that is one document. -/
def read?
    (text : String) : Option Json := do
  let cs := text.toList
  let (json, rest) ← value? (2 * cs.length + 2) cs
  if (skipBlanks rest).isEmpty then
    return json
  else
    none

end Json

end Gantry
