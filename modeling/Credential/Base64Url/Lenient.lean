import Credential.Base64Url

/-! The forgiving reading of base64 that key members get. Both alphabets count, octets outside
them are passed over, and reading ends where a padding is complete. -/

namespace Credential.Base64Url.Lenient

def value? (byte : UInt8) : Option Nat :=
  let c := Char.ofNat byte.toNat
  if c = '+' then some 62 else if c = '/' then some 63 else Base64Url.value? c

/-- The symbols read so far in this group of four, the bits they left over, and the padding seen
since the last of them. A group that stays open at the end is missing its padding. -/
def scan (position left pads : Nat) : Bytes → Option Bytes
  | [] => if position = 0 then some [] else none
  | byte :: rest =>
    if byte = 0x3D then
      if 2 ≤ position then
        if 4 ≤ position + pads + 1 then some [] else scan position left (pads + 1) rest
      else scan position left pads rest
    else match value? byte with
      | none => scan position left pads rest
      | some value =>
        match position with
        | 0 => scan 1 value 0 rest
        | 1 => (scan 2 (value % 16) 0 rest).map (UInt8.ofNat (left * 4 + value / 16) :: ·)
        | 2 => (scan 3 (value % 4) 0 rest).map (UInt8.ofNat (left * 16 + value / 4) :: ·)
        | _ => (scan 0 0 0 rest).map (UInt8.ofNat (left * 64 + value) :: ·)

/-- Padding is first added up to a multiple of four octets, strays included. -/
def decode? (member : Bytes) : Option Bytes :=
  scan 0 0 0 (member ++ List.replicate ((4 - member.length % 4) % 4) 0x3D)

end Credential.Base64Url.Lenient
