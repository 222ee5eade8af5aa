/-
  This file defines JSON documents and writes them, on one
  line or indented.

  A document that was read may hold text that is no sequence
  of characters, because half of a surrogate pair is missing.
  Such a part can be skipped but not used; it is `broken`.

  Key definitions include:
    * `Gantry.Json`
    * `Gantry.Json.compact`
    * `Gantry.Json.pretty`
    * `Gantry.Json.record?`
-/

------------------------------------------------------------
-- Documents
------------------------------------------------------------

namespace Gantry

/-
  A JSON document. A number that is not a whole one of
  moderate length is kept as it is written.
-/
inductive Json where
  | null
  | bool (value : Bool)
  | int (value : Int)
  | real (text : String)
  | str (text : String)
  | arr (items : List Json)
  | obj (fields : List (String × Json))
  | broken
deriving Repr

namespace Json

/- A text, or nothing. -/
def ofText? :
    Option String → Json
| some text => str text
| none => null

/- A natural number. -/
def ofNat
    (n : Nat) : Json :=
  int n

end Json

end Gantry

------------------------------------------------------------
-- Strings
------------------------------------------------------------

namespace Gantry

namespace Json

/- The hexadecimal digit of a number below sixteen. -/
def hexDigit
    (n : Nat) : Char :=
  if n < 10 then
    Char.ofNat (48 + n)
  else
    Char.ofNat (87 + n)

/-
  A character of a string. Quotes, backslashes and control
  characters are escaped.
-/
def escapeChar
    (c : Char) : List Char :=
  match c.toNat with
  | 0x22 => ['\\', '"']
  | 0x5C => ['\\', '\\']
  | 0x08 => ['\\', 'b']
  | 0x09 => ['\\', 't']
  | 0x0A => ['\\', 'n']
  | 0x0C => ['\\', 'f']
  | 0x0D => ['\\', 'r']
  | code =>
      if code < 0x20 then
        ['\\', 'u', '0', '0', hexDigit (code / 16),
          hexDigit (code % 16)]
      else
        [c]

/- A string with its quotes. -/
def quote
    (text : String) : List Char :=
  '"' :: text.toList.flatMap escapeChar ++ ['"']

/- A whole number. -/
def intChars
    (n : Int) : List Char :=
  match n with
  | .ofNat m => Nat.toDigits 10 m
  | .negSucc m => '-' :: Nat.toDigits 10 (m + 1)

/- The text of a document without parts. -/
def leafChars :
    Json → List Char
| null => ['n', 'u', 'l', 'l']
| bool true => ['t', 'r', 'u', 'e']
| bool false => ['f', 'a', 'l', 's', 'e']
| int value => intChars value
| real text => text.toList
| str text => quote text
| _ => ['n', 'u', 'l', 'l']

end Json

end Gantry

------------------------------------------------------------
-- Writing On One Line
------------------------------------------------------------

namespace Gantry

namespace Json

mutual

/- A document without any blanks. -/
def chars :
    Json → List Char
| arr items => '[' :: itemChars items ++ [']']
| obj fields =>
    '\x7b' :: fieldChars fields ++ ['\x7d']
| null => leafChars null
| bool value => leafChars (bool value)
| int value => leafChars (int value)
| real text => leafChars (real text)
| str text => leafChars (str text)
| broken => leafChars broken

/- Documents between commas. -/
def itemChars :
    List Json → List Char
| [] => []
| [item] => chars item
| item :: rest => chars item ++ ',' :: itemChars rest

/- Fields between commas. -/
def fieldChars :
    List (String × Json) → List Char
| [] => []
| [(key, value)] => quote key ++ ':' :: chars value
| (key, value) :: rest =>
    quote key ++ ':' :: chars value ++ ',' ::
      fieldChars rest

end

/- A document on one line. -/
def compact
    (json : Json) : String :=
  String.ofList json.chars

end Json

end Gantry

------------------------------------------------------------
-- Writing With Indentation
------------------------------------------------------------

namespace Gantry

namespace Json

/- A new line at some depth. -/
def newLine
    (depth : Nat) : List Char :=
  '\n' :: List.replicate (2 * depth) ' '

mutual

/- A document over several lines, from some depth on. -/
def indented
    (depth : Nat) :
    Json → List Char
| arr [] => ['[', ']']
| arr (item :: rest) =>
    '[' :: indentedItems (depth + 1) (item :: rest) ++
      newLine depth ++ [']']
| obj [] => ['\x7b', '\x7d']
| obj (field :: rest) =>
    '\x7b' :: indentedFields (depth + 1) (field :: rest) ++
      newLine depth ++ ['\x7d']
| null => leafChars null
| bool value => leafChars (bool value)
| int value => leafChars (int value)
| real text => leafChars (real text)
| str text => leafChars (str text)
| broken => leafChars broken

/- Documents on lines of their own. -/
def indentedItems
    (depth : Nat) :
    List Json → List Char
| [] => []
| [item] => newLine depth ++ indented depth item
| item :: rest =>
    newLine depth ++ indented depth item ++ ',' ::
      indentedItems depth rest

/- Fields on lines of their own. -/
def indentedFields
    (depth : Nat) :
    List (String × Json) → List Char
| [] => []
| [(key, value)] =>
    newLine depth ++ quote key ++ ':' :: ' ' ::
      indented depth value
| (key, value) :: rest =>
    newLine depth ++ quote key ++ ':' :: ' ' ::
      indented depth value ++ ',' ::
      indentedFields depth rest

end

mutual

/- A document with the fields of every object sorted. -/
def sorted :
    Json → Json
| arr items => arr (sortedItems items)
| obj fields =>
    obj ((sortedFields fields).mergeSort fun a b =>
      decide (a.1 ≤ b.1))
| null => null
| bool value => bool value
| int value => int value
| real text => real text
| str text => str text
| broken => broken

/- Every document with its fields sorted. -/
def sortedItems :
    List Json → List Json
| [] => []
| item :: rest => sorted item :: sortedItems rest

/- Every field's document with its fields sorted. -/
def sortedFields :
    List (String × Json) → List (String × Json)
| [] => []
| (key, value) :: rest =>
    (key, sorted value) :: sortedFields rest

end

/- A document over several lines, with sorted fields. -/
def pretty
    (json : Json) : String :=
  String.ofList (indented 0 json.sorted)

end Json

end Gantry

------------------------------------------------------------
-- Taking Documents Apart
------------------------------------------------------------

namespace Gantry

namespace Json

/- The values of the fields with a given key. -/
def valuesOf
    (fields : List (String × Json))
    (key : String) : List Json :=
  fields.filterMap fun (other, value) =>
    if other = key then some value else none

/-
  One field of an object. A key that is there more than once
  is refused.
-/
def field?
    (fields : List (String × Json))
    (key : String) : Option (Option Json) :=
  match valuesOf fields key with
  | [] => some none
  | [value] => some (some value)
  | _ => none

/-
  The fields of a record, each where it is given. A record is
  an object, whose other keys are skipped, or an array of the
  first fields in order.
-/
def record?
    (keys : List String) :
    Json → Option (List (Option Json))
| obj fields => keys.mapM (field? fields)
| arr items =>
    if items.length ≤ keys.length then
      some (items.map some ++
        List.replicate (keys.length - items.length) none)
    else
      none
| _ => none

/- A field that may be left out. -/
def orDefault
    {α : Type}
    (field : Option Json)
    (fallback : α)
    (decode : Json → Option α) : Option α :=
  match field with
  | none => some fallback
  | some value => decode value

/- A whole number within bounds. -/
def intWithin?
    (low high : Int) :
    Json → Option Int
| int n => if low ≤ n ∧ n ≤ high then some n else none
| _ => none

/- A coordinate: a whole number of 32 bits. -/
def coordinate? : Json → Option Int :=
  intWithin? (-0x80000000) 0x7FFFFFFF

/- A count: a whole number of 64 bits without a sign. -/
def count?
    (json : Json) : Option Nat :=
  (intWithin? 0 0xFFFFFFFFFFFFFFFF json).map Int.toNat

/- A text. -/
def text? :
    Json → Option String
| str text => some text
| _ => none

/- A text or nothing. -/
def optionalText? :
    Json → Option (Option String)
| null => some none
| str text => some (some text)
| _ => none

/- An array of like documents. -/
def arrayOf?
    {α : Type}
    (decode : Json → Option α) :
    Json → Option (List α)
| arr items => items.mapM decode
| _ => none

/-
  The name of a choice: a string, or an object with the name
  as its only key and nothing as its value.
-/
def choice? :
    Json → Option String
| str name => some name
| obj [(name, null)] => some name
| _ => none

end Json

end Gantry
