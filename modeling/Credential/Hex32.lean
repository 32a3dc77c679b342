import Credential.Bytes
import Credential.Hex

/-! Thirty-two octets as text: `0x` and 64 hexadecimal digits. -/

namespace Credential.Hex32

/-- Two digits for each octet. -/
def digits (bytes : Bytes) : List Char :=
  bytes.flatMap fun byte => [Hex.digit (byte.toNat / 16), Hex.digit (byte.toNat % 16)]

def ofDigits? : List Char → Option Bytes
  | [] => some []
  | [_] => none
  | high :: low :: rest => do
    let bytes ← ofDigits? rest
    some (UInt8.ofNat ((← Hex.value? high) * 16 + (← Hex.value? low)) :: bytes)

def parse? : List Char → Option Bytes
  | '0' :: 'x' :: rest => if rest.length = 64 then ofDigits? rest else none
  | _ => none

def render (bytes : Bytes) : List Char := '0' :: 'x' :: digits bytes

end Credential.Hex32
