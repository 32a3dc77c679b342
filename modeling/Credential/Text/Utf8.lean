import Credential.Hex
import Credential.Text

/-! UTF-8, with surrogates passing as code points of their own. What is ill-formed is refused by
one reader and written octet by octet as an escape by the other. -/

namespace Credential.Text.Utf8

def tail? (byte : UInt8) : Option Nat :=
  if 0x80 ≤ byte ∧ byte < 0xC0 then some (byte.toNat - 0x80) else none

def atLeast? (least value : Nat) : Option CodePoint :=
  if least ≤ value then CodePoint.ofNat? value else none

/-- The code point at the start and the octets after it. No overlong forms. -/
def first? : Bytes → Option (CodePoint × Bytes)
  | [] => none
  | a :: rest =>
    if a < 0x80 then (CodePoint.ofNat? a.toNat).map (·, rest)
    else if a < 0xC2 then none
    else if a < 0xE0 then match rest with
      | b :: rest => do
        let point ← atLeast? 0x80 ((a.toNat - 0xC0) * 64 + (← tail? b))
        some (point, rest)
      | _ => none
    else if a < 0xF0 then match rest with
      | b :: c :: rest => do
        let point ← atLeast? 0x800 (((a.toNat - 0xE0) * 64 + (← tail? b)) * 64 + (← tail? c))
        some (point, rest)
      | _ => none
    else if a < 0xF5 then match rest with
      | b :: c :: d :: rest => do
        let point ← atLeast? 0x10000
          ((((a.toNat - 0xF0) * 64 + (← tail? b)) * 64 + (← tail? c)) * 64 + (← tail? d))
        some (point, rest)
      | _ => none
    else none

def decodeWithin? : Nat → Bytes → Option Text
  | _, [] => some []
  | 0, _ :: _ => none
  | fuel + 1, bytes => do
    let (point, rest) ← first? bytes
    let text ← decodeWithin? fuel rest
    some (point :: text)

/-- Every code point takes at least one octet, so the number of octets bounds the steps. -/
def decode? (bytes : Bytes) : Option Text := decodeWithin? bytes.length bytes

def escapedByte (byte : UInt8) : List Char := '\\' :: 'x' :: Hex.digits 2 byte.toNat

def displayWithin : Nat → Bytes → List Char
  | _, [] => []
  | 0, _ :: _ => []
  | fuel + 1, byte :: bytes =>
    match first? (byte :: bytes) with
    | some (.char c, rest) => c :: displayWithin fuel rest
    | _ => escapedByte byte ++ displayWithin fuel bytes

/-- Characters where the octets encode them, and an escape for every other octet. -/
def display (bytes : Bytes) : List Char := displayWithin bytes.length bytes

end Credential.Text.Utf8
