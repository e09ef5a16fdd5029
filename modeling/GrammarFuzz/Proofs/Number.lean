import GrammarFuzz.Number
import Mathlib

/-!
# Numbers that infinity absorbs

Estimates of depths are computed with integers and doubles.  Nothing that is rounded on the way is
of interest here, only the signs and the infinity: numbers that are not negative add up to such
numbers, divide by counts into such numbers, and infinity absorbs them all.  In particular none of
these operations gives what is no number.

A double is taken apart into its sign, its exponent and its fraction and put together again.  What
survives this is that it is finite and not negative (`IsMagnitude`), unless it is rounded to
infinity.  The converse of a count has to be above zero as well (`IsPositive`), so there the bits of
the double that is nearest to the count are bounded from both sides (`nearestBits_bounds`).
-/

namespace GrammarFuzz

namespace Double

open Float.Model Float.Model.UnpackedFloat

/-! ## Doubles in parts -/

/-- A double that is finite and not negative, in parts. -/
inductive IsMagnitude : UnpackedFloat → Prop where
  | zero : IsMagnitude (.zero .positive)
  | finite (mantissa : Nat) (exponent : Int) (hpositive : 0 < mantissa) :
      IsMagnitude (.finite .positive mantissa exponent hpositive)

/-- A double that is finite and above zero, in parts. -/
inductive IsPositive : UnpackedFloat → Prop where
  | finite (mantissa : Nat) (exponent : Int) (hpositive : 0 < mantissa) :
      IsPositive (.finite .positive mantissa exponent hpositive)

section Components

variable (sign : Sign) (exponent : BitVec Format.binary64.exponentBits)
  (mantissa : BitVec Format.binary64.mantissaBitsWithoutImplicit)

theorem unpackSign_packComponents :
    unpackSign (packComponents .binary64 sign exponent mantissa) = sign.toBitVec := by
  simp only [packComponents, unpackSign, BitVec.extractLsb]
  ext i hi
  grind

theorem unpackExponent_packComponents :
    unpackExponent (packComponents .binary64 sign exponent mantissa) = exponent := by
  simp only [packComponents, unpackExponent, BitVec.extractLsb]
  ext i hi
  grind

theorem unpackMantissa_packComponents :
    unpackMantissa (packComponents .binary64 sign exponent mantissa) = mantissa := by
  simp only [packComponents, unpackMantissa, BitVec.extractLsb]
  ext i hi
  grind

end Components

theorem isMagnitude_unpack {exponent : BitVec Format.binary64.exponentBits}
    (hexponent : exponent ≠ -BitVec.ofNat Format.binary64.exponentBits 1)
    (mantissa : BitVec Format.binary64.mantissaBitsWithoutImplicit) :
    IsMagnitude
      (UnpackedFloat.unpack .binary64 (packComponents .binary64 .positive exponent mantissa)) := by
  unfold UnpackedFloat.unpack
  simp only [unpackSign_packComponents, unpackExponent_packComponents,
    unpackMantissa_packComponents]
  rw [if_neg hexponent]
  split
  · split
    · exact .zero
    · exact .finite _ _ _
  · exact .finite _ _ _

theorem IsMagnitude.pack {value : UnpackedFloat} (hvalue : IsMagnitude value) :
    UnpackedFloat.pack .binary64 value = packedInfinity .binary64 .positive ∨
      ∃ exponent mantissa, exponent ≠ -BitVec.ofNat Format.binary64.exponentBits 1 ∧
        UnpackedFloat.pack .binary64 value =
          packComponents .binary64 .positive exponent mantissa := by
  cases hvalue with
  | zero => exact Or.inr ⟨0, 0, by decide, rfl⟩
  | finite mantissa exponent hpositive =>
      unfold UnpackedFloat.pack
      dsimp only
      split
      · exact Or.inl rfl
      · rename_i hbound
        split
        · refine Or.inr ⟨_, _, fun heq => ?_, rfl⟩
          -- the exponent that is all ones is that of no finite double
          have hfield := congrArg BitVec.toNat heq
          rw [BitVec.toNat_ofNat, Nat.mod_eq_of_lt (by omega)] at hfield
          exact hbound (by rw [hfield]; decide)
        · exact Or.inr ⟨0, _, by decide, rfl⟩

/-- Packing and unpacking does not round a normal double to zero. -/
theorem isPositive_pack {mantissa : Nat} {exponent : Int} (hpositive : 0 < mantissa)
    (hmantissa : mantissa.log2 = 52) (hleast : 0 < exponent + 1075)
    (hgreatest : exponent + 1075 < 2047) :
    IsPositive (UnpackedFloat.unpack .binary64
      (UnpackedFloat.pack .binary64 (.finite .positive mantissa exponent hpositive))) := by
  have hbias : (Format.binary64.exponentBias : Int) = 1023 := rfl
  have hwidth : (Format.binary64.mantissaBitsWithoutImplicit : Int) = 52 := rfl
  have hbits : 2 ^ Format.binary64.exponentBits = 2048 := rfl
  have hlog : mantissa.log2 + 1 = Format.binary64.mantissaBits := by
    rw [hmantissa]
    rfl
  have hbiased : (exponent + Format.binary64.exponentBias +
      Format.binary64.mantissaBitsWithoutImplicit).toNat = (exponent + 1075).toNat := by
    rw [hbias, hwidth]
    omega
  have hfield : (BitVec.ofNat Format.binary64.exponentBits (exponent + 1075).toNat).toNat =
      (exponent + 1075).toNat := by
    rw [BitVec.toNat_ofNat, Nat.mod_eq_of_lt (by omega)]
  have hones : BitVec.ofNat Format.binary64.exponentBits (exponent + 1075).toNat ≠
      -BitVec.ofNat Format.binary64.exponentBits 1 := by
    intro heq
    have hall : (-BitVec.ofNat Format.binary64.exponentBits 1).toNat = 2047 := rfl
    rw [heq] at hfield
    omega
  have hzero : BitVec.ofNat Format.binary64.exponentBits (exponent + 1075).toNat ≠
      BitVec.ofNat Format.binary64.exponentBits 0 := by
    intro heq
    have hnone : (BitVec.ofNat Format.binary64.exponentBits 0).toNat = 0 := rfl
    rw [heq] at hfield
    omega
  unfold UnpackedFloat.pack
  simp only [hbiased]
  rw [if_neg (by omega), if_pos hlog]
  unfold UnpackedFloat.unpack
  simp only [unpackSign_packComponents, unpackExponent_packComponents,
    unpackMantissa_packComponents]
  rw [if_neg hones, if_neg hzero]
  exact .finite _ _ _

/-! ### Arithmetic of parts -/

section Parts

variable {first second value : UnpackedFloat}

theorem isMagnitude_roundWithAccuracy (mantissa : Nat) (exponent : Int) (accuracy : Accuracy) :
    IsMagnitude (roundWithAccuracy .binary64 .positive mantissa exponent accuracy) := by
  unfold roundWithAccuracy
  dsimp only
  split
  · exact .zero
  · exact .finite _ _ _

theorem isMagnitude_normalize (mantissa : Nat) (exponent : Int) :
    IsMagnitude (UnpackedFloat.normalize .binary64 mantissa exponent .positive) := by
  unfold UnpackedFloat.normalize
  split
  · rename_i hcompare
    rw [Int.compare_eq_lt] at hcompare
    omega
  · exact .zero
  · exact isMagnitude_roundWithAccuracy _ _ _

theorem IsMagnitude.add (hfirst : IsMagnitude first) (hsecond : IsMagnitude second) :
    IsMagnitude (UnpackedFloat.add .binary64 first second) := by
  cases hfirst with
  | zero =>
      cases hsecond with
      | zero => exact .zero
      | finite mantissa exponent hpositive => exact .finite mantissa exponent hpositive
  | finite mantissa exponent hpositive =>
      cases hsecond with
      | zero => exact .finite mantissa exponent hpositive
      | finite other exponent' hpositive' => exact isMagnitude_normalize _ _

theorem IsMagnitude.div (hfirst : IsMagnitude first) (hsecond : IsPositive second) :
    IsMagnitude (UnpackedFloat.div .binary64 first second) := by
  obtain ⟨mantissa, exponent, hpositive⟩ := hsecond
  cases hfirst with
  | zero => exact .zero
  | finite other exponent' hpositive' => exact isMagnitude_roundWithAccuracy _ _ _

theorem infinity_add_parts (hvalue : value = .infinity .positive ∨ IsMagnitude value) :
    UnpackedFloat.add .binary64 (.infinity .positive) value = .infinity .positive := by
  rcases hvalue with rfl | hvalue
  · rfl
  · cases hvalue <;> rfl

theorem add_infinity_parts (hvalue : IsMagnitude value) :
    UnpackedFloat.add .binary64 value (.infinity .positive) = .infinity .positive := by
  cases hvalue <;> rfl

theorem infinity_div_parts (hvalue : IsPositive value) :
    UnpackedFloat.div .binary64 (.infinity .positive) value = .infinity .positive := by
  cases hvalue
  rfl

theorem not_infinity_lt_parts (hvalue : value = .infinity .positive ∨ IsMagnitude value) :
    UnpackedFloat.lt (.infinity .positive) value = false := by
  rcases hvalue with rfl | hvalue
  · rfl
  · cases hvalue <;> rfl

theorem lt_infinity_parts (hvalue : IsMagnitude value) :
    UnpackedFloat.lt value (.infinity .positive) = true := by
  cases hvalue <;> rfl

end Parts

/-! ### Parts of words -/

section Words

variable {word : BitVec Format.binary64.numBits}

theorem toNat_unpackExponent (word : BitVec Format.binary64.numBits) :
    (unpackExponent word).toNat = word.toNat / 2 ^ 52 % 2 ^ 11 := by
  change (word.toNat >>> 52) % 2 ^ 11 = _
  rw [Nat.shiftRight_eq_div_pow]

theorem toNat_unpackMantissa (word : BitVec Format.binary64.numBits) :
    (unpackMantissa word).toNat = word.toNat % 2 ^ 52 := by
  change (word.toNat >>> 0) % 2 ^ 52 = _
  rfl

theorem ofBitVec_unpackSign (hword : word.toNat < 2 ^ 63) :
    Sign.ofBitVec (unpackSign word) = .positive := by
  have hbit : (unpackSign word).toNat = 0 := by
    change (word.toNat >>> 63) % 2 ^ 1 = 0
    rw [Nat.shiftRight_eq_div_pow, Nat.div_eq_of_lt hword]
  have hsign : unpackSign word = 0#1 := BitVec.eq_of_toNat_eq hbit
  rw [hsign]
  rfl

theorem unpack_word (hword : word.toNat ≤ 2047 * 2 ^ 52) :
    UnpackedFloat.unpack .binary64 word = .infinity .positive ∨
      IsMagnitude (UnpackedFloat.unpack .binary64 word) := by
  have hexponent := toNat_unpackExponent word
  unfold UnpackedFloat.unpack
  simp only [ofBitVec_unpackSign (show word.toNat < 2 ^ 63 by omega)]
  split
  · rename_i hones
    -- the fraction is zero: the greatest word that is allowed is that of infinity
    have hall : (-BitVec.ofNat Format.binary64.exponentBits 1).toNat = 2047 := rfl
    rw [hones, hall] at hexponent
    have hfraction : unpackMantissa word =
        BitVec.ofNat Format.binary64.mantissaBitsWithoutImplicit 0 := by
      refine BitVec.eq_of_toNat_eq ?_
      rw [toNat_unpackMantissa]
      show word.toNat % 2 ^ 52 = 0
      omega
    rw [if_pos hfraction]
    exact Or.inl rfl
  · right
    split
    · split
      · exact .zero
      · exact .finite _ _ _
    · exact .finite _ _ _

/-- A word between the least normal double and infinity stays above zero. -/
theorem isPositive_word (hleast : 2 ^ 52 ≤ word.toNat) (hgreatest : word.toNat < 2047 * 2 ^ 52) :
    IsPositive (UnpackedFloat.unpack .binary64
      (UnpackedFloat.pack .binary64 (UnpackedFloat.unpack .binary64 word))) := by
  have hexponent := toNat_unpackExponent word
  have hones : unpackExponent word ≠ -BitVec.ofNat Format.binary64.exponentBits 1 := by
    intro heq
    have hall : (-BitVec.ofNat Format.binary64.exponentBits 1).toNat = 2047 := rfl
    rw [heq, hall] at hexponent
    omega
  have hzero : unpackExponent word ≠ BitVec.ofNat Format.binary64.exponentBits 0 := by
    intro heq
    have hnone : (BitVec.ofNat Format.binary64.exponentBits 0).toNat = 0 := rfl
    rw [heq, hnone] at hexponent
    omega
  have hmantissa : (1#1 ++ unpackMantissa word).toNat = 2 ^ 52 + word.toNat % 2 ^ 52 := by
    have hfraction : word.toNat % 2 ^ 52 < 2 ^ 52 := Nat.mod_lt _ (Nat.two_pow_pos 52)
    rw [BitVec.toNat_append, toNat_unpackMantissa, Nat.shiftLeft_eq, Nat.mul_comm]
    exact (Nat.two_pow_add_eq_or_of_lt hfraction 1).symm
  obtain ⟨hpositive, hunpack⟩ : ∃ hpositive, UnpackedFloat.unpack .binary64 word =
      .finite .positive (1#1 ++ unpackMantissa word).toNat
        ((unpackExponent word).toNat - 1075) hpositive := by
    unfold UnpackedFloat.unpack
    simp only [ofBitVec_unpackSign (show word.toNat < 2 ^ 63 by omega)]
    rw [if_neg hones, if_neg hzero]
    exact ⟨by omega, rfl⟩
  rw [hunpack]
  refine isPositive_pack hpositive ?_ (by omega) (by omega)
  rw [hmantissa, Nat.log2_eq_iff (by omega)]
  omega

end Words

/-! ## Doubles -/

/-- The double above all finite ones. -/
def infinity : Float := Float.ofBits 0x7ff0000000000000

/-- The double is a number and not negative. -/
def IsNonneg (value : Float) : Prop :=
  value = infinity ∨ IsMagnitude value.toModel.unpack

theorem isNonneg_pack {value : UnpackedFloat}
    (hvalue : value = .infinity .positive ∨ IsMagnitude value) :
    IsNonneg (.ofModel (Float.Model.pack value)) := by
  rcases hvalue with rfl | hvalue
  · exact Or.inl rfl
  · rcases hvalue.pack with hpack | ⟨exponent, mantissa, hexponent, hpack⟩
    · left
      unfold Float.Model.pack
      simp only [hpack]
      rfl
    · right
      show IsMagnitude (UnpackedFloat.unpack .binary64 (UnpackedFloat.pack .binary64 value))
      rw [hpack]
      exact isMagnitude_unpack hexponent mantissa

theorem isNonneg_ofBits {word : UInt64} (hword : word.toNat ≤ 2047 * 2 ^ 52) :
    IsNonneg (Float.ofBits word) :=
  isNonneg_pack (unpack_word hword)

/-- Doubles whose parts are computed alike are equal. -/
theorem ofModel_pack_congr {first second : UnpackedFloat} (heq : first = second) :
    Float.ofModel (Float.Model.pack first) = Float.ofModel (Float.Model.pack second) := by
  rw [heq]

section Arithmetic

variable {first second : Float}

theorem IsNonneg.unpack (hfirst : IsNonneg first) :
    first.toModel.unpack = .infinity .positive ∨ IsMagnitude first.toModel.unpack := by
  rcases hfirst with rfl | hfirst
  · exact Or.inl rfl
  · exact Or.inr hfirst

theorem IsNonneg.infinity_add (hsecond : IsNonneg second) : infinity + second = infinity :=
  ofModel_pack_congr (infinity_add_parts hsecond.unpack)

theorem IsNonneg.add_infinity (hfirst : IsNonneg first) : first + infinity = infinity := by
  rcases hfirst with rfl | hfirst
  · exact IsNonneg.infinity_add (Or.inl rfl)
  · exact ofModel_pack_congr (add_infinity_parts hfirst)

theorem IsNonneg.add (hfirst : IsNonneg first) (hsecond : IsNonneg second) :
    IsNonneg (first + second) := by
  rcases hfirst with rfl | hmagnitude
  · rw [hsecond.infinity_add]
    exact Or.inl rfl
  · rcases hsecond with rfl | hsecond
    · rw [IsNonneg.add_infinity (Or.inr hmagnitude)]
      exact Or.inl rfl
    · exact isNonneg_pack (Or.inr (hmagnitude.add hsecond))

theorem infinity_div (hsecond : IsPositive second.toModel.unpack) : infinity / second = infinity :=
  ofModel_pack_congr (infinity_div_parts hsecond)

theorem IsNonneg.div (hfirst : IsNonneg first) (hsecond : IsPositive second.toModel.unpack) :
    IsNonneg (first / second) := by
  rcases hfirst with rfl | hfirst
  · rw [infinity_div hsecond]
    exact Or.inl rfl
  · exact isNonneg_pack (Or.inr (hfirst.div hsecond))

theorem IsNonneg.not_infinity_lt (hsecond : IsNonneg second) : ¬ infinity < second := by
  intro hlt
  have hparts : UnpackedFloat.lt (.infinity .positive) second.toModel.unpack = true :=
    of_decide_eq_true hlt
  rw [not_infinity_lt_parts hsecond.unpack] at hparts
  cases hparts

theorem IsNonneg.lt_infinity (hfirst : IsNonneg first) : first = infinity ∨ first < infinity :=
  hfirst.imp_right fun hfirst => decide_eq_true (lt_infinity_parts hfirst)

end Arithmetic

end Double

/-! ## Doubles of integers -/

namespace Decimal

open Double

theorem assemble_le (significand : Nat) (exponent : Int) :
    assemble significand exponent ≤ 2047 * 2 ^ 52 := by
  have hpow : Nat.pow 2 52 = 2 ^ 52 := rfl
  unfold assemble
  rw [hpow]
  split
  · omega
  · exact Nat.min_le_right _ _

theorem nearestBits_le (numerator denominator : Nat) :
    nearestBits numerator denominator ≤ 2047 * 2 ^ 52 := by
  unfold nearestBits
  split
  · exact Nat.zero_le _
  · simp only []
    generalize max _ (-1074 : Int) = exponent
    split
    · exact Nat.le_refl _
    · exact assemble_le _ _

theorem roundQuotient_le (numerator denominator : Nat) :
    roundQuotient numerator denominator ≤ numerator / denominator + 1 := by
  unfold roundQuotient
  dsimp only
  split
  · omega
  · split <;> omega

/-- In units that leave a number at most 54 bits its quotient is below `2 ^ 54`. -/
theorem scaled_quotient_lt {count : Nat} {exponent : Int}
    (hexponent : (count.log2 : Int) - 53 ≤ exponent) :
    (scaled count 1 exponent).1 / (scaled count 1 exponent).2 < 2 ^ 54 := by
  have hlt : count < 2 ^ (count.log2 + 1) := Nat.lt_log2_self
  unfold scaled
  split
  · show count / (1 * 2 ^ exponent.toNat) < 2 ^ 54
    rw [Nat.one_mul, Nat.div_lt_iff_lt_mul (Nat.two_pow_pos _), ← Nat.pow_add]
    exact hlt.trans_le (Nat.pow_le_pow_right Nat.two_pos (by omega))
  · show count * 2 ^ (-exponent).toNat / 1 < 2 ^ 54
    calc count * 2 ^ (-exponent).toNat / 1
        = count * 2 ^ (-exponent).toNat := Nat.div_one _
      _ < 2 ^ (count.log2 + 1) * 2 ^ (-exponent).toNat :=
          Nat.mul_lt_mul_of_pos_right hlt (Nat.two_pow_pos _)
      _ = 2 ^ (count.log2 + 1 + (-exponent).toNat) := (Nat.pow_add ..).symm
      _ ≤ 2 ^ 54 := Nat.pow_le_pow_right Nat.two_pos (by omega)

/-- A count is rounded to a normal double. -/
theorem nearestBits_bounds {count : Nat} (hpositive : 0 < count) (hcount : count < 2 ^ 63) :
    2 ^ 52 ≤ nearestBits count 1 ∧ nearestBits count 1 < 2047 * 2 ^ 52 := by
  have hlog : count.log2 < 63 := (Nat.log2_lt hpositive.ne').mpr hcount
  have hone : Nat.log2 1 = 0 := rfl
  have hpow : Nat.pow 2 52 = 2 ^ 52 := rfl
  unfold nearestBits
  rw [if_neg hpositive.ne', hone]
  dsimp only
  generalize hchosen : max _ (-1074 : Int) = exponent
  -- whichever of the two exponents is chosen, it is far from both ends of the range
  have hexponent : (count.log2 : Int) - 53 ≤ exponent ∧ exponent ≤ (count.log2 : Int) - 52 := by
    rw [← hchosen]
    split <;> omega
  have hquotient := scaled_quotient_lt hexponent.1
  have hround := roundQuotient_le (scaled count 1 exponent).1 (scaled count 1 exponent).2
  rw [if_neg (by omega)]
  generalize roundQuotient _ _ = significand at hround ⊢
  unfold assemble
  rw [if_neg (by omega), hpow]
  dsimp only
  omega

theorem isNonneg_nearestInt {value : Int} (hvalue : 0 ≤ value) : IsNonneg (nearestInt value) := by
  have hle := nearestBits_le value.natAbs 1
  unfold nearestInt nearest
  rw [decide_eq_false (by omega : ¬ value < 0)]
  refine isNonneg_ofBits ?_
  rw [if_neg Bool.false_ne_true, UInt64.toNat_ofNat_of_lt' (by show _ < 2 ^ 64; omega)]
  exact hle

theorem isPositive_nearestInt {count : Nat} (hpositive : 0 < count) (hcount : count < 2 ^ 63) :
    IsPositive (nearestInt count).toModel.unpack := by
  obtain ⟨hleast, hgreatest⟩ := nearestBits_bounds hpositive hcount
  have hword : (UInt64.ofNat (nearestBits count 1)).toNat = nearestBits count 1 :=
    UInt64.toNat_ofNat_of_lt' (by show _ < 2 ^ 64; omega)
  unfold nearestInt nearest
  rw [decide_eq_false (by omega : ¬ (count : Int) < 0), Int.natAbs_natCast]
  dsimp only
  rw [if_neg Bool.false_ne_true]
  refine isPositive_word ?_ ?_
  · show 2 ^ 52 ≤ (UInt64.ofNat (nearestBits count 1)).toNat
    rwa [hword]
  · show (UInt64.ofNat (nearestBits count 1)).toNat < 2047 * 2 ^ 52
    rwa [hword]

end Decimal

/-! ## Numbers as depths -/

namespace Number

/-- The number is not negative, as depths are. -/
def IsDepth : Number → Prop
  | int value => 0 ≤ value
  | float value => Double.IsNonneg value

variable {first second : Number}

theorem IsDepth.toFloat (hfirst : first.IsDepth) : Double.IsNonneg first.toFloat := by
  cases first with
  | int value => exact Decimal.isNonneg_nearestInt hfirst
  | float value => exact hfirst

theorem IsDepth.add (hfirst : first.IsDepth) (hsecond : second.IsDepth) :
    (Scalar.add first second).IsDepth := by
  cases first with
  | int a =>
      cases second with
      | int b => exact Int.add_nonneg hfirst hsecond
      | float b => exact Double.IsNonneg.add hfirst.toFloat hsecond
  | float a => exact Double.IsNonneg.add hfirst hsecond.toFloat

theorem IsDepth.div (hfirst : first.IsDepth) {count : Nat} (hpositive : 0 < count)
    (hcount : count < 2 ^ 63) : (Scalar.div first (Scalar.ofNat count)).IsDepth :=
  hfirst.toFloat.div (Decimal.isPositive_nearestInt hpositive hcount)

theorem IsDepth.infinity_add (hsecond : second.IsDepth) :
    Scalar.add Scalar.infinity second = Scalar.infinity :=
  congrArg float hsecond.toFloat.infinity_add

theorem IsDepth.add_infinity (hfirst : first.IsDepth) :
    Scalar.add first Scalar.infinity = Scalar.infinity := by
  cases first with
  | int a => exact congrArg float hfirst.toFloat.add_infinity
  | float a => exact congrArg float hfirst.toFloat.add_infinity

theorem IsDepth.infinity_max (hsecond : second.IsDepth) :
    Scalar.max Scalar.infinity second = Scalar.infinity := by
  refine if_neg ?_
  cases second with
  | int b => exact Bool.false_ne_true
  | float b =>
      show ¬ decide (Double.infinity < b) = true
      rw [decide_eq_true_iff]
      exact hsecond.not_infinity_lt

theorem IsDepth.max_infinity (hfirst : first.IsDepth) :
    Scalar.max first Scalar.infinity = Scalar.infinity := by
  cases first with
  | int a => exact if_pos rfl
  | float a =>
      rcases hfirst.lt_infinity with rfl | hlt
      · exact @IsDepth.infinity_max (float Double.infinity) hfirst
      · exact if_pos (decide_eq_true hlt)

theorem infinity_div {count : Nat} (hpositive : 0 < count) (hcount : count < 2 ^ 63) :
    (Scalar.div Scalar.infinity (Scalar.ofNat count) : Number) = Scalar.infinity :=
  congrArg float (Double.infinity_div (Decimal.isPositive_nearestInt hpositive hcount))

end Number

end GrammarFuzz
