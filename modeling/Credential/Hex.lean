/-! Hexadecimal digits. Either case is read, lower case is written. -/

namespace Credential.Hex

def value? (c : Char) : Option Nat :=
  if '0' ≤ c ∧ c ≤ '9' then some (c.toNat - '0'.toNat)
  else if 'a' ≤ c ∧ c ≤ 'f' then some (c.toNat - 'a'.toNat + 10)
  else if 'A' ≤ c ∧ c ≤ 'F' then some (c.toNat - 'A'.toNat + 10)
  else none

def digit (value : Nat) : Char :=
  if value < 10 then Char.ofNat ('0'.toNat + value) else Char.ofNat ('a'.toNat + (value - 10))

/-- The last `width` digits of a number. -/
def digits : Nat → Nat → List Char
  | 0, _ => []
  | width + 1, number => digits width (number / 16) ++ [digit (number % 16)]

def isDigit (c : Char) : Bool := (value? c).isSome

theorem value?_digit {value : Nat} (small : value < 16) : value? (digit value) = some value := by
  have every : ∀ value : Fin 16, value? (digit value) = some value.val := by decide
  exact every ⟨value, small⟩

end Credential.Hex
