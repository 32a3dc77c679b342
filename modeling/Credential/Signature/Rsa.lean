import Credential.Hash
import Credential.Signature.Modular

/-! RSA signatures: PKCS #1 version 1.5, and PSS with MGF1 over the same digest and a salt as long as
the digest. -/

namespace Credential.Signature

structure RsaKey where
  modulus : Nat
  exponent : Nat

namespace RsaKey

def make? (modulus exponent : Nat) : Option RsaKey :=
  if 3 ≤ modulus ∧ 3 ≤ exponent ∧ exponent < modulus ∧ exponent % 2 = 1 then some ⟨modulus, exponent⟩
  else none

def bits (key : RsaKey) : Nat := key.modulus.log2 + 1

/-- The number of octets of the modulus. -/
def size (key : RsaKey) : Nat := (key.bits + 7) / 8

/-- A key that would take too long opens no signature: a modulus has at most 16384 bits, and beside
one of more than 3072 bits an exponent has at most 64. -/
def isWithinReach (key : RsaKey) : Bool :=
  key.bits ≤ 16384 && (key.bits ≤ 3072 || key.exponent < Nat.pow 2 64)

/-- The encoded message under a signature of the right length and range. An even modulus opens none. -/
def recover? (key : RsaKey) (signature : Bytes) : Option Bytes :=
  let number := Bytes.toNat signature
  if key.isWithinReach ∧ signature.length = key.size ∧ number < key.modulus ∧ key.modulus % 2 = 1 then
    some (Bytes.ofNat key.size (power key.modulus number key.exponent))
  else none

/-- The DER header that names the digest. -/
def digestHeader : Hash → Bytes
  | .sha256 => [0x30, 0x31, 0x30, 0x0D, 0x06, 0x09, 0x60, 0x86, 0x48, 0x01, 0x65, 0x03, 0x04, 0x02,
    0x01, 0x05, 0x00, 0x04, 0x20]
  | .sha384 => [0x30, 0x41, 0x30, 0x0D, 0x06, 0x09, 0x60, 0x86, 0x48, 0x01, 0x65, 0x03, 0x04, 0x02,
    0x02, 0x05, 0x00, 0x04, 0x30]
  | .sha512 => [0x30, 0x51, 0x30, 0x0D, 0x06, 0x09, 0x60, 0x86, 0x48, 0x01, 0x65, 0x03, 0x04, 0x02,
    0x03, 0x05, 0x00, 0x04, 0x40]

/-- The one encoded message a digest has, if at least eight filling octets fit. -/
def pkcs1Encoding? (key : RsaKey) (hash : Hash) (message : Bytes) : Option Bytes :=
  let named := digestHeader hash ++ hash.digest message
  if named.length + 11 ≤ key.size then
    some (0x00 :: 0x01 :: List.replicate (key.size - named.length - 3) 0xFF ++ 0x00 :: named)
  else none

def verifyPkcs1 (key : RsaKey) (hash : Hash) (message signature : Bytes) : Bool :=
  match key.recover? signature, key.pkcs1Encoding? hash message with
  | some recovered, some expected => recovered = expected
  | _, _ => false

/-- The mask: digests of the seed with a counter, as many octets as asked for. -/
def mask (hash : Hash) (seed : Bytes) (length : Nat) : Bytes :=
  ((List.range (length / hash.size + 1)).flatMap fun counter =>
    hash.digest (seed ++ Bytes.ofNat 4 counter)).take length

/-- A modulus that leaves no room for a digest and two octets cannot be asked at all. -/
def holdsPss (key : RsaKey) (hash : Hash) : Bool := hash.size + 2 ≤ key.size

/-- The encoded message has one bit less than the modulus: the spare bits on top must be zero, in
it and in its unmasked part. -/
def verifyPss (key : RsaKey) (hash : Hash) (message signature : Bytes) : Bool :=
  match key.recover? signature with
  | none => false
  | some recovered =>
    let bits := key.bits - 1
    let length := (bits + 7) / 8
    let encoded := recovered.drop (key.size - length)
    let spare := 8 * length - bits
    let dataLength := length - hash.size - 1
    let masked := encoded.take dataLength
    let tag := (encoded.drop dataLength).take hash.size
    let top := (recovered.take (key.size - length)).all (· = 0) &&
      (masked.headD 0).toNat < Nat.pow 2 (8 - spare)
    let data := match Bytes.xor masked (mask hash tag dataLength) with
      | [] => []
      | first :: rest => UInt8.ofNat (first.toNat % Nat.pow 2 (8 - spare)) :: rest
    let salt := data.drop (dataLength - hash.size)
    let padding : Bytes := List.replicate (dataLength - hash.size - 1) 0 ++ [0x01]
    2 * hash.size + 2 ≤ length && top && encoded.getLast? = some 0xBC &&
      data.take (dataLength - hash.size) = padding &&
      tag = hash.digest (List.replicate 8 0 ++ hash.digest message ++ salt)

end RsaKey

end Credential.Signature
