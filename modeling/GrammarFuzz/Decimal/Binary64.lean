/-!
# Double precision numbers as exact fractions

A finite double is `± significand · 2 ^ exponent`.  `Binary64.decode` reads that form off the
bits, and `nearest` goes the other way: it rounds a quotient of natural numbers
to the nearest double, a tie to the even one.
-/

namespace GrammarFuzz.Decimal

/-- A finite double as `(-1) ^ negative · significand · 2 ^ exponent`. -/
structure Binary64 where
  negative : Bool
  significand : Nat
  exponent : Int
  deriving DecidableEq, Repr

/-- The sign, the biased exponent and the fraction bits of a double. -/
def fields (value : Float) : Bool × Nat × Nat :=
  let bits := value.toBits.toNat
  (decide (Nat.pow 2 63 ≤ bits), bits / Nat.pow 2 52 % Nat.pow 2 11, bits % Nat.pow 2 52)

/-- The exact form of a finite double; `none` for an infinity or no number. -/
def Binary64.decode? (value : Float) : Option Binary64 :=
  let (negative, exponent, fraction) := fields value
  if exponent = 2047 then none
  else if exponent = 0 then some ⟨negative, fraction, -1074⟩
  else some ⟨negative, fraction + Nat.pow 2 52, (exponent : Int) - 1075⟩

/-- Whether a double is an infinity or no number. -/
def isFinite (value : Float) : Bool :=
  (Binary64.decode? value).isSome

/-- The bits of `significand · 2 ^ exponent`, for a significand of at most 53 bits that has 53
bits unless the exponent is the least one. -/
def assemble (significand : Nat) (exponent : Int) : Nat :=
  if exponent = -1074 ∧ significand < Nat.pow 2 52 then significand
  else
    let biased := (exponent + 1075).toNat * Nat.pow 2 52 + (significand - Nat.pow 2 52)
    min biased (2047 * Nat.pow 2 52)

/-- The quotient `numerator / denominator`, rounded to an integer, a tie to the even one. -/
def roundQuotient (numerator denominator : Nat) : Nat :=
  let quotient := numerator / denominator
  let remainder := numerator % denominator
  if 2 * remainder < denominator then quotient
  else if denominator < 2 * remainder then quotient + 1
  else quotient + quotient % 2

/-- `numerator / denominator` in units of `2 ^ exponent`, as a quotient of naturals. -/
def scaled (numerator denominator : Nat) (exponent : Int) : Nat × Nat :=
  if 0 ≤ exponent then (numerator, denominator * Nat.pow 2 exponent.toNat)
  else (numerator * Nat.pow 2 (-exponent).toNat, denominator)

/-- The bits of the double nearest to `numerator / denominator`. -/
def nearestBits (numerator denominator : Nat) : Nat :=
  if numerator = 0 then 0
  else
    let estimate : Int := (numerator.log2 : Int) - denominator.log2 - 52
    let whole (exponent : Int) : Nat :=
      let (top, bottom) := scaled numerator denominator exponent
      top / bottom
    let exponent :=
      if whole estimate < Nat.pow 2 52 then estimate - 1 else estimate
    let exponent := max exponent (-1074)
    if 1000 < exponent then 2047 * Nat.pow 2 52
    else
      let (top, bottom) := scaled numerator denominator exponent
      assemble (roundQuotient top bottom) exponent

/-- The double nearest to `± numerator / denominator`, a tie to the even one. -/
def nearest (negative : Bool) (numerator denominator : Nat) : Float :=
  let magnitude := nearestBits numerator denominator
  Float.ofBits (UInt64.ofNat (if negative then magnitude + Nat.pow 2 63 else magnitude))

/-- The double nearest to an integer. -/
def nearestInt (value : Int) : Float :=
  nearest (value < 0) value.natAbs 1

/-- The double nearest to `± digits · 10 ^ exponent`.  An exponent far outside the range of
doubles is settled without computing the power. -/
def nearestDecimal (negative : Bool) (digits : Nat) (exponent : Int) : Float :=
  let magnitude : Int := exponent + (digits.log2 * 30103 / 100000 : Nat)
  if digits = 0 ∨ magnitude < -400 then nearest negative 0 1
  else if 400 < magnitude then nearest negative (Nat.pow 2 1024) 1
  else if 0 ≤ exponent then nearest negative (digits * Nat.pow 10 exponent.toNat) 1
  else nearest negative digits (Nat.pow 10 (-exponent).toNat)

/-- The order of an integer and a finite double, exactly. -/
def compareInt (value : Int) (other : Binary64) : Ordering :=
  let signed : Int := if other.negative then -other.significand else other.significand
  if 0 ≤ other.exponent then compare value (signed * Nat.pow 2 other.exponent.toNat)
  else compare (value * Nat.pow 2 (-other.exponent).toNat) signed

end GrammarFuzz.Decimal
