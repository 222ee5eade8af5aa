import Mathlib.Algebra.Group.Nat.Defs
import Gantry.Json.Reader

/-
  This file shows that a document that was written on one
  line is read back as it was, whatever its strings hold.
  Numbers are whole and no longer than the reader takes
  whole numbers to be.

  Key definitions include:
    * `Gantry.Json.Exact`
    * `Gantry.Json.Closes`

  Main statements:
    * `Gantry.Json.number?_intChars`
    * `Gantry.Json.string?_escaped`
    * `Gantry.Json.value?_chars`
    * `Gantry.Json.read?_compact`
-/

------------------------------------------------------------
-- Numbers
------------------------------------------------------------

namespace Gantry

namespace Json

/- What can stand behind a document: nothing that goes on. -/
def Closes :
    List Char → Prop
| [] => True
| c :: _ => c = ',' ∨ c = ']' ∨ c = '\x7d'

theorem isDigit_of_mem_toDigits
    {n : Nat}
    {c : Char}
    (hDigit : c ∈ Nat.toDigits 10 n) :
    isDigit c = true := by
  have hChar :=
    Nat.isDigit_of_mem_toDigits (by decide) (by decide)
      hDigit
  simpa [isDigit, Char.isDigit, Char.le_def] using hChar

/- No number but zero starts with a zero. -/
theorem head?_toDigits
    {n : Nat}
    (hNonzero : n ≠ 0) :
    (Nat.toDigits 10 n).head? ≠ some '0' := by
  have hDigits : ∀ m < 10, m ≠ 0 → m.digitChar ≠ '0' := by
    decide
  induction n using Nat.strongRecOn with
  | ind n ih =>
      rcases Nat.lt_or_ge n 10 with hSmall | hLarge
      · rw [Nat.toDigits_of_lt_base hSmall, List.head?_cons]
        simpa using hDigits n hSmall hNonzero
      · have hFirst := ih (n / 10) (by omega) (by omega)
        rw [Nat.toDigits_of_base_le (by decide) hLarge]
        cases hDigits : Nat.toDigits 10 (n / 10) with
        | nil => exact absurd hDigits Nat.toDigits_ne_nil
        | cons first others => rwa [hDigits] at hFirst

theorem natOfDigits_toDigits
    (n : Nat) :
    natOfDigits (Nat.toDigits 10 n) = n := by
  have hDigits := @Nat.ofDigitChars_ten_toDigits n
  rwa [Nat.ofDigitChars_eq_foldl] at hDigits

/- A digit does not close anything. -/
theorem Closes.not_digit
    {c : Char}
    {rest : List Char}
    (hRest : Closes (c :: rest)) :
    isDigit c = false := by
  rcases hRest with rfl | rfl | rfl <;> decide

theorem digitRun_append
    {digits rest : List Char}
    (hDigits : ∀ c ∈ digits, isDigit c = true)
    (hRest : Closes rest) :
    digitRun (digits ++ rest) = (digits, rest) := by
  rw [digitRun, List.takeWhile_append_of_pos hDigits,
    List.dropWhile_append_of_pos hDigits]
  cases rest with
  | nil => simp
  | cons c rest => simp [hRest.not_digit]

theorem wholePart?_toDigits
    (n : Nat)
    {rest : List Char}
    (hRest : Closes rest) :
    wholePart? (Nat.toDigits 10 n ++ rest) =
      some (Nat.toDigits 10 n, rest) := by
  rw [wholePart?, digitRun_append
    (fun _ => isDigit_of_mem_toDigits) hRest]
  rcases Nat.eq_zero_or_pos n with rfl | hPositive
  · rfl
  · have hHead := head?_toDigits (Nat.ne_of_gt hPositive)
    cases hDigits : Nat.toDigits 10 n with
    | nil => exact absurd hDigits Nat.toDigits_ne_nil
    | cons first others =>
        rw [hDigits, List.head?_cons] at hHead
        split <;> simp_all

theorem fractionPart?_of_closes
    {rest : List Char}
    (hRest : Closes rest) :
    fractionPart? rest = some ([], rest) := by
  cases rest with
  | nil => rfl
  | cons c rest =>
      rcases hRest with rfl | rfl | rfl <;> rfl

theorem exponentPart?_of_closes
    {rest : List Char}
    (hRest : Closes rest) :
    exponentPart? rest = some ([], rest) := by
  cases rest with
  | nil => rfl
  | cons c rest =>
      rcases hRest with rfl | rfl | rfl <;> rfl

/- Digits in front of a mark have no sign. -/
theorem minusSign_toDigits
    (n : Nat)
    (rest : List Char) :
    minusSign (Nat.toDigits 10 n ++ rest) =
      (false, Nat.toDigits 10 n ++ rest) := by
  cases hDigits : Nat.toDigits 10 n with
  | nil => exact absurd hDigits Nat.toDigits_ne_nil
  | cons first others =>
      have hFirst : isDigit first = true :=
        isDigit_of_mem_toDigits (hDigits ▸ List.mem_cons_self)
      rw [List.cons_append, minusSign]
      rintro _ ⟨rfl, _⟩
      exact absurd hFirst (by decide)

/- A whole number is read back. -/
theorem number?_intChars
    {n : Int}
    (hSize : n.natAbs < 10 ^ wholeDigits)
    {rest : List Char}
    (hRest : Closes rest) :
    number? (intChars n ++ rest) = some (int n, rest) := by
  have hLength :
      ∀ m < 10 ^ wholeDigits,
        (Nat.toDigits 10 m).length ≤ wholeDigits :=
    fun m => (Nat.length_toDigits_le_iff (by decide)
      (by decide)).mpr
  cases n with
  | ofNat m =>
      simp [number?, intChars, minusSign_toDigits,
        wholePart?_toDigits m hRest,
        fractionPart?_of_closes hRest,
        exponentPart?_of_closes hRest, hLength m hSize,
        natOfDigits_toDigits]
  | negSucc m =>
      have hNonzero : Nat.toDigits 10 (m + 1) ≠ ['0'] := by
        intro hZero
        exact head?_toDigits (Nat.succ_ne_zero m)
          (by rw [hZero]; rfl)
      simp [number?, intChars, minusSign,
        wholePart?_toDigits (m + 1) hRest,
        fractionPart?_of_closes hRest,
        exponentPart?_of_closes hRest, hLength (m + 1) hSize,
        natOfDigits_toDigits, hNonzero, Int.negSucc_eq]

end Json

end Gantry

------------------------------------------------------------
-- Strings
------------------------------------------------------------

namespace Gantry

namespace Json

theorem hexCode?_hexDigit :
    ∀ code < 0x20,
      hexCode? '0' '0' (hexDigit (code / 16))
        (hexDigit (code % 16)) = some code := by
  decide

/- Most characters stand for themselves. -/
theorem stringUnits?_cons
    {c : Char}
    (hQuote : c ≠ '"')
    (hSlash : c ≠ '\\')
    (hControl : ¬c.toNat < 0x20)
    (rest : List Char) :
    stringUnits? (c :: rest) =
      (stringUnits? rest).map fun (codes, after) =>
        (c.toNat :: codes, after) := by
  rw [stringUnits?]
  · rw [if_neg (by simp [hControl, hSlash])]
    cases stringUnits? rest <;> rfl
  · exact hQuote
  · exact fun _ _ _ _ _ hCut _ => hSlash hCut
  · exact fun _ _ hCut _ => hSlash hCut

/- A character is read back through its escape. -/
theorem stringUnits?_escapeChar
    (c : Char)
    (rest : List Char) :
    stringUnits? (escapeChar c ++ rest) =
      (stringUnits? rest).map fun (codes, after) =>
        (c.toNat :: codes, after) := by
  unfold escapeChar
  split
  case h_8 hQuote hSlash _ _ _ _ _ =>
    split
    next hControl =>
      simp only [List.cons_append, List.nil_append]
      rw [stringUnits?, hexCode?_hexDigit _ hControl]
      cases stringUnits? rest <;> rfl
    next hControl =>
      refine stringUnits?_cons ?_ ?_ hControl rest
      · rintro rfl
        exact hQuote rfl
      · rintro rfl
        exact hSlash rfl
  all_goals
    rename_i hCode
    rw [hCode]
    cases hUnits : stringUnits? rest <;>
      simp [stringUnits?, shortEscape?, hUnits]

theorem stringUnits?_escaped
    (rest : List Char) :
    (cs : List Char) →
    stringUnits? (cs.flatMap escapeChar ++ '"' :: rest) =
      some (cs.map Char.toNat, rest)
| [] => rfl
| c :: cs => by
    rw [List.flatMap_cons, List.append_assoc,
      stringUnits?_escapeChar, stringUnits?_escaped rest cs]
    rfl

/- No character is half of a surrogate pair. -/
theorem toNat_apart
    (c : Char) :
    c.toNat < 0xD800 ∨ 0xDFFF < c.toNat := by
  rcases c.valid with hBelow | hAbove
  · exact .inl hBelow
  · exact .inr hAbove.1

theorem charsOfUnits?_toNat :
    (cs : List Char) →
    charsOfUnits? (cs.map Char.toNat) = some cs
| [] => rfl
| c :: cs => by
    have hApart := toNat_apart c
    have hLow : ¬isLowSurrogate c.toNat = true := by
      simp only [isLowSurrogate, Bool.and_eq_true,
        decide_eq_true_eq]
      omega
    have hHigh : ¬isHighSurrogate c.toNat = true := by
      simp only [isHighSurrogate, Bool.and_eq_true,
        decide_eq_true_eq]
      omega
    rw [List.map_cons, charsOfUnits?.eq_def]
    simp only [if_neg hLow, if_neg hHigh,
      charsOfUnits?_toNat cs, Char.ofNat_toNat,
      Option.map_some]

/- A text is read back behind its opening quote. -/
theorem string?_escaped
    (text : String)
    (rest : List Char) :
    string? (text.toList.flatMap escapeChar ++ '"' :: rest) =
      some (some text, rest) := by
  rw [string?, stringUnits?_escaped]
  simp [charsOfUnits?_toNat]

end Json

end Gantry

------------------------------------------------------------
-- Documents
------------------------------------------------------------

namespace Gantry

namespace Json

mutual

/-
  A document that is read back as it is: its numbers are
  whole, and short enough to be read as such.
-/
def Exact :
    Json → Prop
| .null => True
| .bool _ => True
| .int n => n.natAbs < 10 ^ wholeDigits
| .real _ => False
| .str _ => True
| .arr items => ListExact items
| .obj fields => FieldsExact fields
| .broken => False

def ListExact :
    List Json → Prop
| [] => True
| item :: items => item.Exact ∧ ListExact items

def FieldsExact :
    List (String × Json) → Prop
| [] => True
| (_, value) :: fields => value.Exact ∧ FieldsExact fields

end

/-
  A character with which a document can start. A list or an
  object that starts with it is not empty.
-/
def Opens
    (c : Char) : Prop :=
  isBlank c = false ∧ c ≠ ']' ∧ c ≠ '\x7d'

instance
    (c : Char) :
    Decidable (Opens c) :=
  inferInstanceAs (Decidable (_ ∧ _ ∧ _))

theorem skipBlanks_cons
    {c : Char}
    (hBlank : isBlank c = false)
    (rest : List Char) :
    skipBlanks (c :: rest) = c :: rest := by
  simp [skipBlanks, hBlank]

theorem skipBlanks_comma
    (rest : List Char) :
    skipBlanks (',' :: rest) = ',' :: rest :=
  skipBlanks_cons (by decide) rest

theorem skipBlanks_colon
    (rest : List Char) :
    skipBlanks (':' :: rest) = ':' :: rest :=
  skipBlanks_cons (by decide) rest

theorem opens_of_isDigit
    {c : Char}
    (hDigit : isDigit c = true) :
    Opens c := by
  refine ⟨?_, ?_, ?_⟩
  · simp only [isBlank, Bool.or_eq_false_iff,
      beq_eq_false_iff_ne]
    refine ⟨⟨⟨?_, ?_⟩, ?_⟩, ?_⟩ <;> rintro rfl <;>
      exact absurd hDigit (by decide)
  all_goals
    rintro rfl
    exact absurd hDigit (by decide)

/- The first character of a number. -/
theorem exists_intChars_cons
    (n : Int) :
    ∃ c cs,
      intChars n = c :: cs ∧ (isDigit c = true ∨ c = '-') := by
  cases n with
  | ofNat m =>
      rw [intChars]
      cases hDigits : Nat.toDigits 10 m with
      | nil => exact absurd hDigits Nat.toDigits_ne_nil
      | cons c cs =>
          exact ⟨c, cs, rfl, .inl
            (isDigit_of_mem_toDigits
              (hDigits ▸ List.mem_cons_self))⟩
  | negSucc m => exact ⟨'-', _, rfl, .inr rfl⟩

theorem exists_chars_cons
    {json : Json}
    (hExact : json.Exact) :
    ∃ c cs, json.chars = c :: cs ∧ Opens c := by
  cases json with
  | null => exact ⟨'n', _, rfl, by decide⟩
  | bool value =>
      cases value with
      | true => exact ⟨'t', _, rfl, by decide⟩
      | false => exact ⟨'f', _, rfl, by decide⟩
  | int n =>
      rcases exists_intChars_cons n with
        ⟨c, cs, hChars, hFirst⟩
      refine ⟨c, cs, by rw [chars, leafChars, hChars], ?_⟩
      rcases hFirst with hDigit | rfl
      · exact opens_of_isDigit hDigit
      · decide
  | real text => exact hExact.elim
  | str text => exact ⟨'"', _, rfl, by decide⟩
  | arr items => exact ⟨'[', _, by rw [chars]; rfl, by decide⟩
  | obj fields =>
      exact ⟨'\x7b', _, by rw [chars]; rfl, by decide⟩
  | broken => exact hExact.elim

/- What starts like a number is read as one. -/
theorem value?_number
    {c : Char}
    (hFirst : isDigit c = true ∨ c = '-')
    (bound : Nat)
    (rest : List Char) :
    value? (bound + 1) (c :: rest) = number? (c :: rest) := by
  have hBlank : isBlank c = false := by
    rcases hFirst with hDigit | rfl
    · exact (opens_of_isDigit hDigit).1
    · decide
  rw [value?, skipBlanks_cons hBlank]
  split
  case h_7 => rfl
  all_goals
    rename_i hCons
    cases hCons
    exact absurd hFirst (by decide)

/- A list that does not close at once has items. -/
theorem value?_arr
    {c : Char}
    (hOpens : Opens c)
    (bound : Nat)
    (rest : List Char) :
    value? (bound + 1) ('[' :: c :: rest) =
      (items? bound (c :: rest)).map fun (items, after) =>
        (arr items, after) := by
  rw [value?, skipBlanks_cons (by decide)]
  simp only [skipBlanks_cons hOpens.1]
  split
  · rename_i hCons
    cases hCons
    exact absurd rfl hOpens.2.1
  · cases items? bound (c :: rest) <;> rfl

/- An object that does not close at once has fields. -/
theorem value?_obj
    {c : Char}
    (hOpens : Opens c)
    (bound : Nat)
    (rest : List Char) :
    value? (bound + 1) ('\x7b' :: c :: rest) =
      (fields? bound (c :: rest)).map fun (fields, after) =>
        (ofFields fields, after) := by
  rw [value?, skipBlanks_cons (by decide)]
  simp only [skipBlanks_cons hOpens.1]
  split
  · rename_i hCons
    cases hCons
    exact absurd rfl hOpens.2.2
  · cases fields? bound (c :: rest) <;> rfl

/- A field whose key is known. -/
def keyed
    (field : String × Json) : Option String × Json :=
  (some field.1, field.2)

/- The fields of an object are put together again. -/
theorem ofFields_keyed
    (fields : List (String × Json)) :
    ofFields (fields.map keyed) = obj fields := by
  have hKnown :
      (fields.map keyed).mapM (fun field =>
        field.1.map (·, field.2)) = some fields := by
    induction fields with
    | nil => rfl
    | cons field fields ih =>
        rw [List.map_cons, List.mapM_cons, ih]
        rfl
  unfold ofFields
  split
  · rename_i known hFound
    rw [Option.some.inj (hFound.symm.trans hKnown)]
  · rename_i hFound
    exact absurd (hFound.symm.trans hKnown) nofun

theorem itemChars_cons
    (item next : Json)
    (items : List Json) :
    itemChars (item :: next :: items) =
      item.chars ++ ',' :: itemChars (next :: items) := by
  rw [itemChars]
  exact nofun

/- The first character between the brackets of a list. -/
theorem exists_itemChars_cons
    {item : Json}
    (items : List Json)
    (hExact : item.Exact) :
    ∃ c cs, itemChars (item :: items) = c :: cs ∧ Opens c := by
  rcases exists_chars_cons hExact with ⟨c, cs, hChars, hOpens⟩
  cases items with
  | nil => exact ⟨c, cs, by rw [itemChars, hChars], hOpens⟩
  | cons next items =>
      refine ⟨c, cs ++ ',' :: itemChars (next :: items), ?_,
        hOpens⟩
      rw [itemChars_cons, hChars, List.cons_append]

/- A field is its key, a colon and its value. -/
theorem fieldChars_singleton
    (key : String)
    (value : Json) :
    fieldChars [(key, value)] =
      '"' :: (key.toList.flatMap escapeChar ++
        '"' :: ':' :: value.chars) := by
  simp [fieldChars, quote]

theorem fieldChars_cons
    (key : String)
    (value : Json)
    (next : String × Json)
    (fields : List (String × Json)) :
    fieldChars ((key, value) :: next :: fields) =
      fieldChars [(key, value)] ++
        ',' :: fieldChars (next :: fields) := by
  simp [fieldChars]

theorem exists_fieldChars_cons
    (field : String × Json)
    (fields : List (String × Json)) :
    ∃ cs, fieldChars (field :: fields) = '"' :: cs := by
  cases fields with
  | nil => exact ⟨_, fieldChars_singleton field.1 field.2⟩
  | cons next fields =>
      exact ⟨_, fieldChars_cons field.1 field.2 next fields⟩

mutual

/-
  A document is read back, by induction on it. Each of its
  parts is shorter than it is, so that the bound is enough.
-/
theorem value?_chars :
    (json : Json) →
    json.Exact →
    (rest : List Char) →
    Closes rest →
    {bound : Nat} →
    2 * json.chars.length ≤ bound →
    value? bound (json.chars ++ rest) = some (json, rest)
| json, hExact, rest, hRest, 0, hBound => by
    rcases exists_chars_cons hExact with ⟨c, cs, hChars, _⟩
    rw [hChars, List.length_cons] at hBound
    contradiction
| .null, _, _, _, bound + 1, _ => rfl
| .bool true, _, _, _, bound + 1, _ => rfl
| .bool false, _, _, _, bound + 1, _ => rfl
| .int n, hSize, rest, hRest, bound + 1, _ => by
    rcases exists_intChars_cons n with
      ⟨c, cs, hChars, hFirst⟩
    have hNumber := number?_intChars hSize hRest
    rw [hChars, List.cons_append] at hNumber
    rw [chars, leafChars, hChars, List.cons_append,
      value?_number hFirst, hNumber]
| .str text, _, rest, _, bound + 1, _ => by
    have hText := string?_escaped text rest
    simp only [chars, leafChars, quote, List.cons_append,
      List.append_assoc, List.nil_append]
    rw [value?, skipBlanks_cons (by decide)]
    simp only [hText]
    rfl
| .arr [], _, _, _, bound + 1, _ => by
    rw [chars]
    rfl
| .arr (item :: items), hExact, rest, _, bound + 1,
    hBound => by
    rcases exists_itemChars_cons items hExact.1 with
      ⟨c, cs, hChars, hOpens⟩
    have hItems :
        items? bound
            (itemChars (item :: items) ++ ']' :: rest) =
          some (item :: items, rest) := by
      apply items?_itemChars item items hExact rest
      simp only [chars, List.length_append,
        List.length_cons] at hBound
      omega
    rw [hChars, List.cons_append] at hItems
    simp only [chars, hChars, List.cons_append,
      List.append_assoc, List.nil_append]
    rw [value?_arr hOpens, hItems]
    rfl
| .obj [], _, _, _, bound + 1, _ => by
    rw [chars]
    rfl
| .obj (field :: fields), hExact, rest, _, bound + 1,
    hBound => by
    have hFields :
        fields? bound
            (fieldChars (field :: fields) ++ '\x7d' :: rest) =
          some ((field :: fields).map keyed, rest) := by
      apply fields?_fieldChars field fields hExact rest
      simp only [chars, List.length_append,
        List.length_cons] at hBound
      omega
    rcases exists_fieldChars_cons field fields with
      ⟨cs, hChars⟩
    rw [hChars, List.cons_append] at hFields
    simp only [chars, hChars, List.cons_append,
      List.append_assoc, List.nil_append]
    rw [value?_obj (by decide), hFields, ← ofFields_keyed]
    rfl
| .real _, hExact, _, _, _, _ => hExact.elim
| .broken, hExact, _, _, _, _ => hExact.elim

theorem items?_itemChars :
    (item : Json) →
    (items : List Json) →
    ListExact (item :: items) →
    (rest : List Char) →
    {bound : Nat} →
    2 * (itemChars (item :: items)).length + 1 ≤ bound →
    items? bound (itemChars (item :: items) ++ ']' :: rest) =
      some (item :: items, rest)
| item, [], hExact, rest, bound + 1, hBound => by
    have hItem :
        value? bound (item.chars ++ ']' :: rest) =
          some (item, ']' :: rest) := by
      apply value?_chars item hExact.1 _ (by simp [Closes])
      rw [itemChars] at hBound
      omega
    rw [itemChars, items?, hItem]
    rfl
| item, next :: items, hExact, rest, bound + 1, hBound => by
    rw [itemChars_cons, List.length_append,
      List.length_cons] at hBound
    have hItem :
        value? bound (item.chars ++
            ',' :: (itemChars (next :: items) ++
              ']' :: rest)) =
          some (item,
            ',' :: (itemChars (next :: items) ++
              ']' :: rest)) := by
      apply value?_chars item hExact.1 _ (by simp [Closes])
      omega
    have hItems :
        items? bound
            (itemChars (next :: items) ++ ']' :: rest) =
          some (next :: items, rest) := by
      apply items?_itemChars next items hExact.2 rest
      omega
    rw [itemChars_cons, List.append_assoc, List.cons_append,
      items?, hItem]
    simp only [Option.bind_eq_bind, Option.bind_some,
      skipBlanks_comma, hItems]
    rfl

theorem fields?_fieldChars :
    (field : String × Json) →
    (fields : List (String × Json)) →
    FieldsExact (field :: fields) →
    (rest : List Char) →
    {bound : Nat} →
    2 * (fieldChars (field :: fields)).length + 1 ≤ bound →
    fields? bound
        (fieldChars (field :: fields) ++ '\x7d' :: rest) =
      some ((field :: fields).map keyed, rest)
| (key, value), [], hExact, rest, bound + 1, hBound => by
    have hValue :
        value? bound (value.chars ++ '\x7d' :: rest) =
          some (value, '\x7d' :: rest) := by
      apply value?_chars value hExact.1 _ (by simp [Closes])
      simp only [fieldChars_singleton, List.length_append,
        List.length_cons] at hBound
      omega
    simp only [fieldChars_singleton, List.cons_append,
      List.append_assoc]
    rw [fields?, skipBlanks_cons (by decide)]
    simp only [string?_escaped, Option.bind_eq_bind,
      Option.bind_some, skipBlanks_colon, hValue]
    rfl
| (key, value), next :: fields, hExact, rest, bound + 1,
    hBound => by
    simp only [fieldChars_cons, fieldChars_singleton,
      List.length_append, List.length_cons] at hBound
    have hValue :
        value? bound (value.chars ++
            ',' :: (fieldChars (next :: fields) ++
              '\x7d' :: rest)) =
          some (value,
            ',' :: (fieldChars (next :: fields) ++
              '\x7d' :: rest)) := by
      apply value?_chars value hExact.1 _ (by simp [Closes])
      omega
    have hFields :
        fields? bound
            (fieldChars (next :: fields) ++ '\x7d' :: rest) =
          some ((next :: fields).map keyed, rest) := by
      apply fields?_fieldChars next fields hExact.2 rest
      omega
    simp only [fieldChars_cons, fieldChars_singleton,
      List.cons_append, List.append_assoc]
    rw [fields?, skipBlanks_cons (by decide)]
    simp only [string?_escaped, Option.bind_eq_bind,
      Option.bind_some, skipBlanks_colon, hValue,
      skipBlanks_comma, hFields]
    rfl

end

/- A document that was written is read back. -/
theorem read?_compact
    {json : Json}
    (hExact : json.Exact) :
    read? json.compact = some json := by
  have hValue :
      value? (2 * json.chars.length + 2) (json.chars ++ []) =
        some (json, []) :=
    value?_chars json hExact [] trivial (by omega)
  rw [List.append_nil] at hValue
  simp only [read?, compact, String.toList_ofList, hValue]
  rfl

end Json

end Gantry
