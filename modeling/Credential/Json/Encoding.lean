import Credential.Text.Utf8

/-! A JSON text as octets. A byte order mark or the pattern of zero octets at the start tells the
encoding: UTF-8, or UTF-16 or UTF-32 of either byte order. Encoded surrogates pass as they are;
anything else that is ill-formed is refused. -/

namespace Credential.Json.Encoding

inductive ByteOrder where
  | big
  | little

def units16? (order : ByteOrder) : Bytes → Option (List Nat)
  | [] => some []
  | [_] => none
  | a :: b :: rest => do
    let units ← units16? order rest
    some ((match order with | .big => Bytes.toNat [a, b] | .little => Bytes.toNat [b, a]) :: units)

def pairUnits : List Nat → Text
  | high :: low :: rest =>
    match CodePoint.ofPair? high low with
    | some point => point :: pairUnits rest
    | none => (CodePoint.ofNat? high).toList ++ pairUnits (low :: rest)
  | [unit] => (CodePoint.ofNat? unit).toList
  | [] => []

def utf16? (order : ByteOrder) (bytes : Bytes) : Option Text := (units16? order bytes).map pairUnits

def utf32? (order : ByteOrder) : Bytes → Option Text
  | [] => some []
  | a :: b :: c :: d :: rest => do
    let point ← CodePoint.ofNat?
      (match order with | .big => Bytes.toNat [a, b, c, d] | .little => Bytes.toNat [d, c, b, a])
    let text ← utf32? order rest
    some (point :: text)
  | _ => none

/-- Without a mark: zero octets among the first four, or in a text of two octets. -/
def unmarked? (bytes : Bytes) : Option Text :=
  match bytes with
  | 0 :: 0 :: _ :: _ :: _ => utf32? .big bytes
  | 0 :: _ :: _ :: _ :: _ => utf16? .big bytes
  | _ :: 0 :: 0 :: 0 :: _ => utf32? .little bytes
  | _ :: 0 :: _ :: _ :: _ => utf16? .little bytes
  | [0, _] => utf16? .big bytes
  | [_, 0] => utf16? .little bytes
  | _ => Text.Utf8.decode? bytes

def decode? (bytes : Bytes) : Option Text :=
  match bytes with
  | 0x00 :: 0x00 :: 0xFE :: 0xFF :: rest => utf32? .big rest
  | 0xFF :: 0xFE :: 0x00 :: 0x00 :: rest => utf32? .little rest
  | 0xFE :: 0xFF :: rest => utf16? .big rest
  | 0xFF :: 0xFE :: rest => utf16? .little rest
  | 0xEF :: 0xBB :: 0xBF :: rest => Text.Utf8.decode? rest
  | _ => unmarked? bytes

end Credential.Json.Encoding
