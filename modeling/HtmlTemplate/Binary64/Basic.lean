/-
This file holds the finite binary64 numbers, their bit patterns, and the rounding of fractions to them.
-/

namespace HtmlTemplate

/-- A finite binary64 number: its size is `mantissa * 2 ^ exponent`. -/
structure Binary64 where
  negative : Bool
  mantissa : Nat
  exponent : Int
  deriving DecidableEq, Repr

namespace Binary64

/-- The least exponent, which the subnormal numbers and zero have. -/
def leastExponent : Int := -1074

def greatestExponent : Int := 971

/-- The mantissas of normal numbers start here and end before twice this. -/
def normalMantissa : Nat := 0x10000000000000

def isZero (number : Binary64) : Bool := number.mantissa == 0

/-- Reads a bit pattern. Infinities and patterns that are no number give nothing. -/
def ofBits? (bits : UInt64) : Option Binary64 :=
  let fraction := bits.toNat % normalMantissa
  let biased := bits.toNat / normalMantissa % 2048
  let negative := 0x8000000000000000 ≤ bits.toNat
  if biased = 2047 then none
  else if biased = 0 then some ⟨negative, fraction, leastExponent⟩
  else some ⟨negative, normalMantissa + fraction, (biased : Int) - 1075⟩

/-- The quotient rounded to the nearest integer, a half to the even one. -/
def roundedQuotient (numerator denominator : Nat) : Nat :=
  let quotient := numerator / denominator
  let twice := 2 * (numerator % denominator)
  if denominator < twice ∨ (denominator = twice ∧ quotient % 2 = 1) then quotient + 1 else quotient

/-- A fraction divided by a power of two. -/
def scaled (numerator denominator : Nat) (exponent : Int) : Nat × Nat :=
  (numerator <<< (-exponent).toNat, denominator <<< exponent.toNat)

/-- The exponent at which a quotient has the size of a normal mantissa. -/
def exponentOf (numerator denominator : Nat) : Int :=
  let guess := (numerator.log2 : Int) - denominator.log2 - 52
  let parts := scaled numerator denominator guess
  max (if parts.1 / parts.2 < normalMantissa then guess - 1 else guess) leastExponent

/-- The binary64 number nearest to a fraction, or nothing when it is too large. -/
def nearest? (negative : Bool) (numerator denominator : Nat) : Option Binary64 :=
  if numerator = 0 then some ⟨negative, 0, leastExponent⟩
  else
    let exponent := exponentOf numerator denominator
    let parts := scaled numerator denominator exponent
    let mantissa := roundedQuotient parts.1 parts.2
    let number : Binary64 :=
      if mantissa = 2 * normalMantissa then ⟨negative, normalMantissa, exponent + 1⟩
      else ⟨negative, mantissa, exponent⟩
    if number.exponent ≤ greatestExponent then some number else none

/-- Decimals from ten to this power on are too large, whatever their digits. -/
def greatestMagnitude : Int := 310

/-- Decimals below ten to this power count as zero. -/
def leastMagnitude : Int := -330

/-- The number nearest to `digits * 10 ^ exponent`, unless it is too large. -/
def ofDecimal? (negative : Bool) (digits : Nat) (exponent : Int) : Option Binary64 :=
  let magnitude := exponent + (toString digits).length
  if digits = 0 ∨ magnitude < leastMagnitude then some ⟨negative, 0, leastExponent⟩
  else if greatestMagnitude < magnitude then none
  else nearest? negative (digits * Nat.pow 10 exponent.toNat) (Nat.pow 10 (-exponent).toNat)

/-- The number nearest to an integer. -/
def ofInt? (value : Int) : Option Binary64 :=
  nearest? (value < 0) value.natAbs 1

end Binary64

end HtmlTemplate
