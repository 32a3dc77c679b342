/-! Binary floating-point numbers of 64 bits, as exact values: a sign, a mantissa below 2^53 and a
power of two that is at least -1074. Zero keeps its sign. A value has one representation, so
equality is equality of numbers, with the one not-a-number equal to itself. -/

namespace Credential

inductive Binary64 where
  | nan
  | infinity (negative : Bool)
  | finite (negative : Bool) (mantissa : Nat) (exponent : Int)
deriving DecidableEq

namespace Binary64

def isFinite : Binary64 → Bool
  | .finite .. => true
  | _ => false

/-- Whether the number is zero or below; not-a-number is not. -/
def isNonPositive : Binary64 → Bool
  | .nan => false
  | .infinity negative => negative
  | .finite negative mantissa _ => negative || mantissa == 0

/-- The quotient of two naturals, a half going to the even neighbour. -/
def divideHalfEven (numerator denominator : Nat) : Nat :=
  let quotient := numerator / denominator
  let twice := 2 * (numerator % denominator)
  if denominator < twice ∨ (twice = denominator ∧ quotient % 2 = 1) then quotient + 1 else quotient

/-- `numerator / denominator / 2 ^ exponent` as a quotient. -/
def scaled (numerator denominator : Nat) (exponent : Int) : Nat × Nat :=
  (numerator * Nat.pow 2 (-exponent).toNat, denominator * Nat.pow 2 exponent.toNat)

/-- The exponent that gives the quotient a mantissa of 53 bits, or the least one there is. -/
def exponentFor (numerator denominator : Nat) : Int :=
  let upper : Int := (numerator.log2 : Int) - denominator.log2 - 52
  let (above, below) := scaled numerator denominator upper
  max (-1074) (if Nat.pow 2 52 * below ≤ above then upper else upper - 1)

/-- The nearest number to a quotient, a half going to the even mantissa. -/
def ofRatio (negative : Bool) (numerator denominator : Nat) : Binary64 :=
  if numerator = 0 then .finite negative 0 (-1074)
  else
    let exponent := exponentFor numerator denominator
    let (above, below) := scaled numerator denominator exponent
    let mantissa := divideHalfEven above below
    let (mantissa, exponent) :=
      if mantissa = Nat.pow 2 53 then (Nat.pow 2 52, exponent + 1) else (mantissa, exponent)
    if 971 < exponent then .infinity negative else .finite negative mantissa exponent

/-- The nearest number to `digits * 10 ^ exponent`. Exponents so large or small that the answer
is plain are not raised to a power. -/
def ofDecimal (negative : Bool) (digits : Nat) (exponent : Int) : Binary64 :=
  if digits = 0 then .finite negative 0 (-1074)
  else if 400 < exponent then .infinity negative
  else if exponent < -(digits.log2 + 401 : Int) then .finite negative 0 (-1074)
  else ofRatio negative (digits * Nat.pow 10 exponent.toNat) (Nat.pow 10 (-exponent).toNat)

end Binary64

end Credential
