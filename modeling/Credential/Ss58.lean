import Credential.Base58
import Credential.Hash.Blake2b
import Credential.Text.Quoted

/-! SS58 account addresses: a network prefix of one or two octets, an account of 32, and the first
two octets of a digest of both, in base58. An address is a text of characters; one with an unpaired
surrogate is outside of this. -/

namespace Credential

structure SessionKey where
  address : String
  publicKey : Bytes
  network : Nat
deriving DecidableEq

namespace Ss58

inductive Fault where
  | notBase58
  | tooShort
  | reservedPrefix (first : Nat)
  | unexpectedLength (length : Nat)
  | checksumMismatch
deriving DecidableEq

def Fault.message : Fault → Text
  | .notBase58 => "not base58"
  | .tooShort => "too short for an SS58 account address"
  | .reservedPrefix first => ("reserved SS58 prefix byte " ++ toString first : String)
  | .unexpectedLength length => ("unexpected SS58 payload length " ++ toString length : String)
  | .checksumMismatch => "SS58 checksum mismatch"

def accountLength : Nat := 32

def checksum (body : Bytes) : Bytes :=
  (Hash.Blake2b.digest 64 (Bytes.ofString "SS58PRE" ++ body)).take 2

/-- Networks below 64 take one octet. The others, up to 16383, take two: the first keeps bits 2
to 7 under a marking bit, the second keeps bits 0 and 1 above bits 8 to 13. -/
def networkBytes (network : Nat) : Bytes :=
  if network < 64 then [UInt8.ofNat network]
  else [UInt8.ofNat (64 + network / 4 % 64), UInt8.ofNat (network % 4 * 64 + network / 256)]

/-- The network and the number of octets that name it. -/
def network : Bytes → Except Fault (Nat × Nat)
  | first :: second :: _ =>
    if first < 64 then .ok (first.toNat, 1)
    else if first < 128 then
      .ok (first.toNat % 64 * 4 + second.toNat / 64 + second.toNat % 64 * 256, 2)
    else .error (.reservedPrefix first.toNat)
  | _ => .error .tooShort

def encode (number : Nat) (account : Bytes) : String :=
  let body := networkBytes number ++ account
  String.ofList (Base58.encode (body ++ checksum body))

def decode (address : String) : Except Fault SessionKey :=
  match Base58.decode? address.toList with
  | none => .error .notBase58
  | some [] => .error .notBase58
  | some bytes =>
    if bytes.length < 1 + accountLength + 2 then .error .tooShort
    else do
      let (number, width) ← network bytes
      if bytes.length ≠ width + accountLength + 2 then .error (.unexpectedLength bytes.length)
      else
        let body := bytes.take (bytes.length - 2)
        if bytes.drop (bytes.length - 2) ≠ checksum body then .error .checksumMismatch
        else .ok ⟨address, body.drop width, number⟩

end Ss58

end Credential
