/-! Arithmetic modulo a number. -/

namespace Credential.Signature

def powerWithin (modulus : Nat) : Nat → Nat → Nat → Nat
  | 0, _, _ => 1 % modulus
  | fuel + 1, base, exponent =>
    if exponent = 0 then 1 % modulus
    else
      let half := powerWithin modulus fuel (base * base % modulus) (exponent / 2)
      if exponent % 2 = 1 then half * base % modulus else half

/-- Each step halves the exponent, so its bits bound them. -/
def power (modulus base exponent : Nat) : Nat :=
  powerWithin modulus (exponent.log2 + 1) (base % modulus) exponent

/-- For a prime modulus. -/
def inverse (modulus value : Nat) : Nat := power modulus value (modulus - 2)

def add (modulus first second : Nat) : Nat := (first + second) % modulus

/-- For a subtrahend below the modulus. -/
def sub (modulus first second : Nat) : Nat := (first + modulus - second) % modulus

def mul (modulus first second : Nat) : Nat := first * second % modulus

def neg (modulus value : Nat) : Nat := (modulus - value % modulus) % modulus

/-- The bits of two numbers side by side, the most significant first. -/
def bitPairsWithin : Nat → Nat → Nat → List (Bool × Bool)
  | 0, _, _ => []
  | fuel + 1, first, second => (first.testBit fuel, second.testBit fuel) :: bitPairsWithin fuel first second

def bitPairs (first second : Nat) : List (Bool × Bool) :=
  bitPairsWithin (max first.log2 second.log2 + 1) first second

/-- A multiple of the base point plus a multiple of another point, in a group written additively:
the sum doubles from bit to bit and takes in what both bits ask for. -/
def sumOfMultiples {point : Type} (double : point → point) (sum : point → point → point)
    (neutral base other : point) (first second : Nat) : point :=
  let both := sum base other
  (bitPairs first second).foldl
    (fun total pair =>
      let total := double total
      match pair with
      | (false, false) => total
      | (true, false) => sum total base
      | (false, true) => sum total other
      | (true, true) => sum total both)
    neutral

end Credential.Signature
