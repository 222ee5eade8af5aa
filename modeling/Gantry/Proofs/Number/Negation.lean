import Gantry.Proofs.Number.Figures

/-
  This file shows what a sign does to a number and what it
  leaves alone. Only the first bit of a number changes when
  it is negated, so that a whole number stays whole and its
  kind keeps its name. A minus in front of digits is read as
  the negation of the number that the digits write.

  Main statements:
    * `Gantry.Number.toNat_toBits_neg`
    * `Gantry.Number.isIntegral_neg`
    * `Gantry.Value.typeName_neg`
    * `Gantry.Lexer.number_of_minus`
-/

------------------------------------------------------------
-- The Sign Of A Number
------------------------------------------------------------

namespace Gantry

namespace Number

open Float.Model

/- All bits but the sign, whichever that is. -/
theorem toNat_packComponents_mod
    (sign : UnpackedFloat.Sign)
    (exponent : BitVec 11)
    (mantissa : BitVec 52) :
    (UnpackedFloat.packComponents .binary64 sign exponent
        mantissa).toNat % 2 ^ 63 =
      exponent.toNat * 2 ^ 52 + mantissa.toNat := by
  have hExponent := exponent.isLt
  have hMantissa := mantissa.isLt
  rw [UnpackedFloat.packComponents, BitVec.toNat_append,
    BitVec.toNat_append]
  change
    ((sign.toBitVec.toNat <<< 11 ||| exponent.toNat) <<< 52 |||
      mantissa.toNat) % 2 ^ 63 = _
  rw [← Nat.shiftLeft_add_eq_or_of_lt hExponent,
    ← Nat.shiftLeft_add_eq_or_of_lt hMantissa,
    Nat.shiftLeft_eq, Nat.shiftLeft_eq]
  omega

/- What is no number stays so; else the sign is put in. -/
theorem pack_neg_unpack
    {bits : BitVec 64}
    (hValid : Format.binary64.Valid bits) :
    UnpackedFloat.pack .binary64
          (UnpackedFloat.unpack .binary64 bits).neg =
        bits ∨
      ∃ sign,
        UnpackedFloat.pack .binary64
            (UnpackedFloat.unpack .binary64 bits).neg =
          UnpackedFloat.packComponents .binary64 sign
            (@UnpackedFloat.unpackExponent .binary64 bits)
            (@UnpackedFloat.unpackMantissa .binary64
              bits) := by
  unfold UnpackedFloat.unpack
  dsimp only
  by_cases hSpecial :
      @UnpackedFloat.unpackExponent .binary64 bits = -1#11
  · rw [if_pos hSpecial]
    by_cases hMantissa :
        @UnpackedFloat.unpackMantissa .binary64 bits = 0#52
    · rw [if_pos hMantissa]
      right
      rw [hSpecial, hMantissa]
      exact ⟨_, rfl⟩
    · rw [if_neg hMantissa]
      exact .inl
        (hValid.eq_packedNaN hSpecial hMantissa).symm
  · rw [if_neg hSpecial]
    right
    by_cases hLeast :
        @UnpackedFloat.unpackExponent .binary64 bits = 0#11
    · rw [if_pos hLeast]
      by_cases hMantissa :
          @UnpackedFloat.unpackMantissa .binary64 bits = 0#52
      · rw [dif_pos hMantissa, hLeast, hMantissa]
        exact ⟨_, rfl⟩
      · rw [dif_neg hMantissa, hLeast]
        exact ⟨_, Numeral.pack_subnormal _ _⟩
    · rw [if_neg hLeast]
      exact ⟨_, Numeral.pack_normal _ _ hSpecial _⟩

/- Negation leaves all bits behind the first one alone. -/
theorem toNat_toBits_neg
    (x : Float) :
    (-x).toBits.toNat % 2 ^ 63 =
      x.toBits.toNat % 2 ^ 63 := by
  rcases x with ⟨⟨bits, hValid⟩⟩
  change
    (UnpackedFloat.pack .binary64
        (UnpackedFloat.unpack .binary64
          bits.toBitVec).neg).toNat % 2 ^ 63 =
      bits.toBitVec.toNat % 2 ^ 63
  have hParts :=
    congrArg BitVec.toNat
      (Numeral.packComponents_unpack bits.toBitVec)
  rcases pack_neg_unpack hValid with hSame | ⟨sign, hSign⟩
  · rw [hSame]
  · rw [hSign, ← hParts, toNat_packComponents_mod,
      toNat_packComponents_mod]

/- The exponent field and the fraction of a number. -/
theorem fields_eq
    (x : Float) :
    ((x.toBits >>> 52) &&& 0x7FF).toNat =
        x.toBits.toNat % 2 ^ 63 / 2 ^ 52 ∧
      (x.toBits &&& 0xFFFFFFFFFFFFF).toNat =
        x.toBits.toNat % 2 ^ 63 % 2 ^ 52 := by
  constructor
  · rw [UInt64.toNat_and, UInt64.toNat_shiftRight]
    change
      (x.toBits.toNat >>> 52) &&& (2 ^ 11 - 1) = _
    rw [Nat.and_two_pow_sub_one_eq_mod,
      Nat.shiftRight_eq_div_pow]
    omega
  · rw [UInt64.toNat_and]
    change x.toBits.toNat &&& (2 ^ 52 - 1) = _
    rw [Nat.and_two_pow_sub_one_eq_mod]
    omega

/- A whole number is whole with either sign. -/
theorem isIntegral_neg
    (x : Float) :
    isIntegral (-x) = isIntegral x := by
  have hSign :
      ∀ (negative other : Bool) (significand : Nat)
        (exponent : Int),
        (Finite.integer?
            ⟨negative, significand, exponent⟩).isSome =
          (Finite.integer?
            ⟨other, significand, exponent⟩).isSome := by
    intro negative other significand exponent
    unfold Finite.integer?
    dsimp only
    split
    · rfl
    · split <;> rfl
  rcases fields_eq x with ⟨hField, hFraction⟩
  rcases fields_eq (-x) with ⟨hNegField, hNegFraction⟩
  rw [toNat_toBits_neg, ← hField] at hNegField
  rw [toNat_toBits_neg, ← hFraction] at hNegFraction
  unfold isIntegral integer? Finite.ofFloat?
  dsimp only
  rw [hNegField, hNegFraction]
  split
  · rfl
  · split
    · exact hSign _ _ _ _
    · exact hSign _ _ _ _

end Number

/- Its kind is called the same. -/
theorem Value.typeName_neg
    (x : Float) :
    (Value.number (-x)).typeName =
      (Value.number x).typeName := by
  rw [typeName, typeName, Number.isIntegral_neg]

end Gantry

------------------------------------------------------------
-- The Sign In Front Of Digits
------------------------------------------------------------

namespace Gantry

theorem Number.read?_minus
    {c : Char}
    {run : List Char}
    (hDigit : isDigit c = true) :
    read? ('-' :: c :: run) =
      (read? (c :: run)).map (-·) := by
  have hPlain : takeSign (c :: run) = (false, c :: run) := by
    unfold takeSign
    split
    · rename_i hStart
      cases hStart
      contradiction
    · rename_i hStart
      cases hStart
      contradiction
    · rfl
  unfold read?
  rw [hPlain, takeSign]
  simp only [if_true, Bool.false_eq_true, if_false,
    Option.map_map]
  rfl

/-
  A minus glued to digits negates the number that they write
  by themselves.
-/
theorem Lexer.number_of_minus
    {c : Char}
    {run : List Char}
    {signed : Numeral}
    (hDigit : Number.isDigit c = true)
    (hSigned :
      numberLexeme ('-' :: c :: run) =
        .token (.number signed)) :
    ∃ digits : Numeral,
      numberLexeme (c :: run) = .token (.number digits) ∧
        signed.value = -digits.value := by
  unfold numberLexeme at *
  rw [Number.read?_minus hDigit] at hSigned
  cases hRead : Number.read? (c :: run) with
  | none =>
      rw [hRead] at hSigned
      contradiction
  | some x =>
      rw [hRead] at hSigned
      cases hSigned
      refine ⟨Numeral.ofFloat x, rfl, ?_⟩
      rw [Numeral.value_ofFloat, Numeral.value_ofFloat]

end Gantry
