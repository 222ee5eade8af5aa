import Gantry.Proofs.Token.Spelling

/-
  This file relates numbers to their bits and to the text
  they are written with: the bits of a number stand for it,
  and a finite number is written as a figure, possibly with
  a minus in front.

  Main statements:
    * `Gantry.Numeral.value_ofFloat`
    * `Gantry.Number.Finite.exists_of_isFinite`
    * `Gantry.Value.exists_figure_numberText`
    * `Gantry.Value.spells_numberText`
-/

------------------------------------------------------------
-- The Bits Of A Number
------------------------------------------------------------

namespace Gantry

namespace Numeral

open Float.Model

theorem toNat_unpackSign
    (bits : BitVec 64) :
    (@UnpackedFloat.unpackSign .binary64 bits).toNat =
      bits.toNat / 2 ^ 63 := by
  have hBits := bits.isLt
  simp only [UnpackedFloat.unpackSign, BitVec.toNat_cast,
    BitVec.extractLsb_toNat, Nat.shiftRight_eq_div_pow]
  omega

theorem toNat_unpackExponent
    (bits : BitVec 64) :
    (@UnpackedFloat.unpackExponent .binary64 bits).toNat =
      bits.toNat / 2 ^ 52 % 2 ^ 11 := by
  simp [UnpackedFloat.unpackExponent,
    Nat.shiftRight_eq_div_pow]

theorem toNat_unpackMantissa
    (bits : BitVec 64) :
    (@UnpackedFloat.unpackMantissa .binary64 bits).toNat =
      bits.toNat % 2 ^ 52 := by
  simp [UnpackedFloat.unpackMantissa]

/- The parts of the bits of a number make up all of them. -/
theorem packComponents_unpack
    (bits : BitVec 64) :
    UnpackedFloat.packComponents .binary64
        (UnpackedFloat.Sign.ofBitVec
          (@UnpackedFloat.unpackSign .binary64 bits))
        (@UnpackedFloat.unpackExponent .binary64 bits)
        (@UnpackedFloat.unpackMantissa .binary64 bits) =
      bits := by
  have hSign :
      ∀ b : BitVec 1,
        (UnpackedFloat.Sign.ofBitVec b).toBitVec = b := by
    decide
  have hBits := bits.isLt
  rw [UnpackedFloat.packComponents, hSign]
  apply BitVec.eq_of_toNat_eq
  rw [BitVec.toNat_append, BitVec.toNat_append,
    toNat_unpackSign, toNat_unpackExponent,
    toNat_unpackMantissa]
  change
    (((bits.toNat / 2 ^ 63) <<< 11 |||
          bits.toNat / 2 ^ 52 % 2 ^ 11) <<< 52 |||
        bits.toNat % 2 ^ 52) = bits.toNat
  rw [← Nat.shiftLeft_add_eq_or_of_lt (by omega),
    ← Nat.shiftLeft_add_eq_or_of_lt (by omega),
    Nat.shiftLeft_eq, Nat.shiftLeft_eq]
  omega

/- The leading bit that is left out of the bits. -/
theorem toNat_leading
    (mantissa : BitVec 52) :
    (1#1 ++ mantissa).toNat = 2 ^ 52 + mantissa.toNat := by
  rw [BitVec.toNat_append,
    ← Nat.shiftLeft_add_eq_or_of_lt mantissa.isLt,
    Nat.shiftLeft_eq]
  rfl

theorem log2_leading
    (mantissa : BitVec 52) :
    (1#1 ++ mantissa).toNat.log2 = 52 := by
  have hTotal := toNat_leading mantissa
  have hBits := mantissa.isLt
  have hSome : (1#1 ++ mantissa).toNat ≠ 0 := by omega
  have hBelow : (1#1 ++ mantissa).toNat.log2 < 53 :=
    (Nat.log2_lt hSome).mpr (by omega)
  have hAbove : 52 ≤ (1#1 ++ mantissa).toNat.log2 :=
    (Nat.le_log2 hSome).mpr (by omega)
  omega

/- A number with its leading bit is put together again. -/
theorem pack_normal
    (sign : UnpackedFloat.Sign)
    {exponent : BitVec 11}
    (mantissa : BitVec 52)
    (hFinite : exponent ≠ -1#11)
    (hPos : 0 < (1#1 ++ mantissa).toNat) :
    UnpackedFloat.pack .binary64
        (.finite sign (1#1 ++ mantissa).toNat
          ((exponent.toNat : Int) - (1023 + 52)) hPos) =
      UnpackedFloat.packComponents .binary64 sign exponent
        mantissa := by
  have hTotal := toNat_leading mantissa
  have hMantissa := mantissa.isLt
  have hExponent := exponent.isLt
  have hField : exponent.toNat ≠ 2047 := by
    intro hField
    exact hFinite (BitVec.eq_of_toNat_eq hField)
  have hBiased :
      ((exponent.toNat : Int) - (1023 + 52) +
          Format.binary64.exponentBias +
            Format.binary64.mantissaBitsWithoutImplicit).toNat =
        exponent.toNat := by
    change
      ((exponent.toNat : Int) - (1023 + 52) + 1023 +
        52).toNat = _
    omega
  have hRange : ¬2 ^ 11 ≤ exponent.toNat + 1 := by omega
  have hKept :
      BitVec.ofNat 52 (1#1 ++ mantissa).toNat =
        mantissa := by
    apply BitVec.eq_of_toNat_eq
    rw [BitVec.toNat_ofNat, hTotal]
    omega
  unfold UnpackedFloat.pack
  dsimp only
  rw [hBiased, log2_leading, if_neg hRange, if_pos (by rfl),
    hKept, BitVec.ofNat_toNat, BitVec.setWidth_eq]

/- So is one without it. -/
theorem pack_subnormal
    (sign : UnpackedFloat.Sign)
    {mantissa : BitVec 52}
    (hPos : 0 < mantissa.toNat) :
    UnpackedFloat.pack .binary64
        (.finite sign mantissa.toNat
          ((0 : Int) - (1023 + 52) + 1) hPos) =
      UnpackedFloat.packComponents .binary64 sign 0#11
        mantissa := by
  have hLog : mantissa.toNat.log2 < 52 :=
    (Nat.log2_lt (Nat.ne_of_gt hPos)).mpr mantissa.isLt
  have hBits :
      mantissa.toNat.log2 + 1 ≠
        Format.binary64.mantissaBits := by
    change _ ≠ 53
    omega
  unfold UnpackedFloat.pack
  dsimp only
  rw [if_neg (by decide), if_neg hBits, BitVec.ofNat_toNat,
    BitVec.setWidth_eq]

/-
  Taking valid bits apart and putting them together again
  changes nothing, by cases on the exponent.
-/
theorem pack_unpack
    {bits : BitVec 64}
    (hValid : Format.binary64.Valid bits) :
    UnpackedFloat.pack .binary64
        (UnpackedFloat.unpack .binary64 bits) = bits := by
  have hParts := packComponents_unpack bits
  unfold UnpackedFloat.unpack
  dsimp only
  by_cases hSpecial :
      @UnpackedFloat.unpackExponent .binary64 bits = -1#11
  · rw [if_pos hSpecial]
    by_cases hMantissa :
        @UnpackedFloat.unpackMantissa .binary64 bits = 0#52
    · rw [if_pos hMantissa]
      rw [hSpecial, hMantissa] at hParts
      exact hParts
    · rw [if_neg hMantissa]
      exact (hValid.eq_packedNaN hSpecial hMantissa).symm
  · rw [if_neg hSpecial]
    by_cases hLeast :
        @UnpackedFloat.unpackExponent .binary64 bits = 0#11
    · rw [if_pos hLeast]
      by_cases hMantissa :
          @UnpackedFloat.unpackMantissa .binary64 bits = 0#52
      · rw [dif_pos hMantissa]
        rw [hLeast, hMantissa] at hParts
        exact hParts
      · rw [dif_neg hMantissa]
        rw [hLeast] at hParts ⊢
        exact (pack_subnormal _ _).trans hParts
    · rw [if_neg hLeast]
      exact (pack_normal _ _ hSpecial _).trans hParts

/- The bits of a number stand for it. -/
theorem value_ofFloat
    (x : Float) :
    (ofFloat x).value = x := by
  rcases x with ⟨⟨bits, hValid⟩⟩
  have hBits :
      UInt64.ofBitVec
          (UnpackedFloat.pack .binary64
            (UnpackedFloat.unpack .binary64
              bits.toBitVec)) = bits := by
    rw [pack_unpack hValid, UInt64.ofBitVec_toBitVec]
  unfold value ofFloat Float.ofBits Float.toBits
    Float.Model.ofBits Float.Model.pack
  simp only [hBits]

end Numeral

/- A finite number has a significand and an exponent. -/
theorem Number.Finite.exists_of_isFinite
    {x : Float}
    (hFinite : x.isFinite = true) :
    ∃ f, Finite.ofFloat? x = some f := by
  have hExponent :
      @Float.Model.UnpackedFloat.unpackExponent .binary64
          x.toBits.toBitVec ≠ -1#11 := by
    intro hSpecial
    change
      (Float.Model.UnpackedFloat.unpack .binary64
        x.toBits.toBitVec).isFinite = true at hFinite
    unfold Float.Model.UnpackedFloat.unpack at hFinite
    dsimp only at hFinite
    rw [if_pos hSpecial] at hFinite
    split at hFinite <;> contradiction
  have hField :
      ((x.toBits >>> 52) &&& 0x7FF).toNat ≠ 2047 := by
    intro hField
    apply hExponent
    apply BitVec.eq_of_toNat_eq
    rw [UInt64.toNat_and, UInt64.toNat_shiftRight] at hField
    change
      (x.toBits.toNat >>> 52) &&& (2 ^ 11 - 1) = 2047
        at hField
    rw [Nat.and_two_pow_sub_one_eq_mod,
      Nat.shiftRight_eq_div_pow] at hField
    rw [Numeral.toNat_unpackExponent]
    exact hField
  unfold Finite.ofFloat?
  dsimp only
  rw [if_neg hField]
  split
  · exact ⟨_, rfl⟩
  · exact ⟨_, rfl⟩

end Gantry

------------------------------------------------------------
-- The Text Of A Number
------------------------------------------------------------

namespace Gantry

namespace Number

theorem isDigit_of_mem_digits
    {n : Nat}
    {c : Char}
    (hDigit : c ∈ digits n) :
    isDigit c = true := by
  have hChar :=
    Nat.isDigit_of_mem_toDigits (by decide) (by decide)
      hDigit
  simpa [isDigit, Char.isDigit, Char.le_def] using hChar

theorem digits_ne_nil
    (n : Nat) :
    digits n ≠ [] :=
  Nat.toDigits_ne_nil

/- Digits with or without a fraction are a figure. -/
theorem exists_figure
    {whole fraction : List Char}
    (hSome : whole ≠ [])
    (hWhole : ∀ c ∈ whole, isDigit c = true)
    (hFraction : ∀ c ∈ fraction, isDigit c = true) :
    ∃ figure : Figure,
      figure.chars =
        if fraction.isEmpty then whole
        else whole ++ '.' :: fraction := by
  cases whole with
  | nil => contradiction
  | cons first others =>
      refine ⟨⟨first, others, fraction, ?_⟩, ?_⟩
      · intro c hChar
        rcases List.mem_append.mp hChar with hChar | hChar
        · exact hWhole c hChar
        · exact hFraction c hChar
      · unfold Figure.chars Figure.tail
        split <;> rfl

theorem exists_figure_digits
    (n : Nat) :
    ∃ figure : Figure, figure.chars = digits n :=
  @exists_figure (digits n) [] (digits_ne_nil n)
    (fun _ => isDigit_of_mem_digits) (by simp)

theorem exists_figure_placeValue
    (point : Nat)
    (k : Int) :
    ∃ figure : Figure, figure.chars = placeValue point k := by
  unfold placeValue
  split
  · exact exists_figure_digits _
  · apply exists_figure (digits_ne_nil _)
      (fun _ => isDigit_of_mem_digits)
    intro c hChar
    have hKept := List.mem_reverse.mp hChar
    have hPadded :=
      List.mem_reverse.mp
        ((List.dropWhile_sublist _).subset hKept)
    rcases List.mem_append.mp hPadded with hZero | hDigit
    · rw [List.eq_of_mem_replicate hZero]
      rfl
    · exact isDigit_of_mem_digits hDigit

end Number

namespace Value

theorem exists_figure_integer
    (n : Int) :
    ∃ figure : Figure,
      (toString n).toList = figure.chars ∨
        (toString n).toList = '-' :: figure.chars := by
  cases n with
  | ofNat n =>
      rcases Number.exists_figure_digits n with
        ⟨figure, hFigure⟩
      refine ⟨figure, .inl ?_⟩
      rw [hFigure]
      exact Nat.toList_repr
  | negSucc n =>
      rcases Number.exists_figure_digits (n + 1) with
        ⟨figure, hFigure⟩
      refine ⟨figure, .inr ?_⟩
      rw [hFigure]
      have hText :
          toString (Int.negSucc n) = "-" ++ (n + 1).repr := rfl
      rw [hText, String.toList_append, Nat.toList_repr]
      rfl

/-
  A finite number is written as a figure, possibly with a
  minus in front of it.
-/
theorem exists_figure_numberText
    {x : Float}
    {f : Number.Finite}
    (hFinite : Number.Finite.ofFloat? x = some f) :
    ∃ figure : Figure,
      (numberText x).toList = figure.chars ∨
        (numberText x).toList = '-' :: figure.chars := by
  have hPlaces :
      ∃ figure : Figure,
        (((Number.positional? x).map String.ofList).getD
          (specialText x)).toList = figure.chars ∨
        (((Number.positional? x).map String.ofList).getD
          (specialText x)).toList = '-' :: figure.chars := by
    rcases Number.exists_figure_placeValue f.shortest.1
        f.shortest.2 with ⟨figure, hFigure⟩
    refine ⟨figure, ?_⟩
    rw [Number.positional?, hFinite, hFigure]
    cases f.negative <;> simp
  unfold numberText
  split
  · rename_i n _
    split
    · exact exists_figure_integer n
    · exact hPlaces
  · exact hPlaces

theorem onOneLine_numberText
    {x : Float}
    (hFinite : x.isFinite = true) :
    ∀ c ∈ (numberText x).toList, c ≠ '\n' ∧ c ≠ '\r' := by
  rcases Number.Finite.exists_of_isFinite hFinite with
    ⟨f, hParts⟩
  rcases exists_figure_numberText hParts with
    ⟨figure, hText | hText⟩
  · rw [hText]
    exact figure.onOneLine_chars
  · rw [hText, List.forall_mem_cons]
    exact ⟨by decide, figure.onOneLine_chars⟩

/-
  A finite number that reads back is the number it reads
  back as, where no operand stands in front of it.
-/
theorem spells_numberText
    {x y : Float}
    (hFinite : x.isFinite = true)
    (hRead : Number.read? (numberText x).toList = some y)
    {rest : List Char}
    (hApart : Lexer.Apart rest) :
    Lexer.Spells false (numberText x).toList rest
      (.number (Numeral.ofFloat y)) := by
  rcases Number.Finite.exists_of_isFinite hFinite with
    ⟨f, hParts⟩
  rcases exists_figure_numberText hParts with
    ⟨figure, hText | hText⟩
  · rw [hText] at hRead ⊢
    have hStarts :
        Lexer.startsNumber false figure.first
          (figure.tail ++ rest) = true := by
      simp [Lexer.startsNumber, figure.isDigit_first]
    exact Lexer.spells_number hStarts
      figure.isNumberPart_tail hApart hRead
  · rw [hText] at hRead ⊢
    have hStarts :
        Lexer.startsNumber false '-'
          (figure.chars ++ rest) = true := by
      simp [Lexer.startsNumber, Figure.chars,
        figure.isDigit_first]
    exact Lexer.spells_number hStarts
      figure.isNumberPart_chars hApart hRead

end Value

end Gantry
