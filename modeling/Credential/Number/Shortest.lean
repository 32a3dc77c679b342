import Credential.Number.Binary64

/-! The text of a floating-point number: the fewest decimal digits that read back, the nearest
such digits, and of two equally near ones the even. For each count of digits only the two
neighbours on that decimal grid are tried: if any point of the grid reads back, one of them does. -/

namespace Credential.Binary64

/-- `digits * 10 ^ exponent`. -/
structure Decimal where
  digits : Nat
  exponent : Int

/-- How many zeros follow the point of a quotient below one. -/
def leadingZeros : Nat → Nat → Nat → Nat
  | 0, _, _ => 0
  | fuel + 1, numerator, denominator =>
    if denominator ≤ numerator * 10 then 0 else leadingZeros fuel (numerator * 10) denominator + 1

/-- Where the point stands: the quotient is below this power of ten, and not below the one before. -/
def pointOf (numerator denominator : Nat) : Int :=
  if denominator ≤ numerator then ((Nat.toDigits 10 (numerator / denominator)).length : Int)
  else -(leadingZeros 400 numerator denominator : Int)

/-- The neighbour with `count` digits that reads back, if one does. -/
def neighbour? (mantissa : Nat) (binary : Int) (count : Nat) : Option Decimal :=
  let numerator := mantissa * Nat.pow 2 binary.toNat
  let denominator := Nat.pow 2 (-binary).toNat
  let exponent := pointOf numerator denominator - count
  let above := numerator * Nat.pow 10 (-exponent).toNat
  let below := denominator * Nat.pow 10 exponent.toNat
  let floor := above / below
  let rest := 2 * (above % below)
  let reads (digits : Nat) : Bool := ofDecimal false digits exponent = .finite false mantissa binary
  let floorFirst : Bool := rest < below || (rest == below && floor % 2 == 0)
  let candidates := if floorFirst then [floor, floor + 1] else [floor + 1, floor]
  (candidates.find? reads).map (⟨·, exponent⟩)

/-- Seventeen digits always read back. -/
def shortest (mantissa : Nat) (binary : Int) : Decimal :=
  ((List.range 17).findSome? fun count => neighbour? mantissa binary (count + 1)).getD ⟨0, 0⟩

def dropZeros (digits : List Char) : List Char := (digits.reverse.dropWhile (· = '0')).reverse

def exponentText (exponent : Int) : List Char :=
  let digits := Nat.toDigits 10 exponent.natAbs
  'e' :: (if exponent < 0 then '-' else '+') ::
    (if digits.length < 2 then '0' :: digits else digits)

/-- Positional from 10^-4 up to below 10^16, else one digit before the point and an exponent of
at least two digits. -/
def layout (decimal : Decimal) : List Char :=
  let written := Nat.toDigits 10 decimal.digits
  let point : Int := decimal.exponent + written.length
  let digits := dropZeros written
  if point ≤ -4 ∨ 16 < point then
    match digits with
    | [] => ['0', '.', '0']
    | [digit] => digit :: exponentText (point - 1)
    | digit :: rest => digit :: '.' :: rest ++ exponentText (point - 1)
  else if point ≤ 0 then '0' :: '.' :: List.replicate (-point).toNat '0' ++ digits
  else if digits.length ≤ point.toNat then
    digits ++ List.replicate (point.toNat - digits.length) '0' ++ ['.', '0']
  else digits.take point.toNat ++ '.' :: digits.drop point.toNat

def text : Binary64 → List Char
  | .nan => "nan".toList
  | .infinity false => "inf".toList
  | .infinity true => "-inf".toList
  | .finite negative mantissa exponent =>
    (if negative then ['-'] else []) ++
      if mantissa = 0 then "0.0".toList else layout (shortest mantissa exponent)

end Credential.Binary64
