import Credential.Bytes

/-! Base58: an octet string as one number in 58 digits, with a leading digit one for each leading
zero octet. -/

namespace Credential.Base58

def alphabet : List Char := "123456789ABCDEFGHJKLMNPQRSTUVWXYZabcdefghijkmnopqrstuvwxyz".toList

def value? (c : Char) : Option Nat := alphabet.idxOf? c

def symbol (value : Nat) : Char := alphabet.getD value '1'

/-- Digits of a number in a base, most significant first, none for zero. -/
def digits (base : Nat) (number : Nat) : List Nat :=
  if 1 < base ∧ number ≠ 0 then digits base (number / base) ++ [number % base] else []
termination_by number
decreasing_by exact Nat.div_lt_self (by omega) (by omega)

def ofDigits (base : Nat) (values : List Nat) : Nat :=
  values.foldl (fun total value => total * base + value) 0

/-- As many leading zeros as the list has, and the digits of its number in another base. -/
def rebase (source target : Nat) (values : List Nat) : List Nat :=
  values.takeWhile (· = 0) ++ digits target (ofDigits source values)

def encode (bytes : Bytes) : List Char := (rebase 256 58 (bytes.map UInt8.toNat)).map symbol

def decode? (text : List Char) : Option Bytes :=
  (text.mapM value?).map fun values => (rebase 58 256 values).map UInt8.ofNat

end Credential.Base58
