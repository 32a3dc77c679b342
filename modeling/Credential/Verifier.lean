import Credential.Base64Url.Lenient
import Credential.Event
import Credential.Fault
import Credential.Signature.Ecdsa
import Credential.Signature.Eddsa
import Credential.Signature.Rsa

/-! Deciding whether a signature holds under a published key: first whether the key may be used
with the algorithm at all, then what key its members spell, then the check itself. -/

namespace Credential

/-- Any way to decide about a signature: algorithm, key, signed octets, signature. -/
abbrev Verifier := Algorithm → Key → Bytes → Bytes → Run Event Fault Bool

namespace Key

open Rejection

/-- Family first, then curve, then pin. -/
def admission (key : Key) (algorithm : Algorithm) : Except KeyMismatch Unit :=
  if key.family ≠ algorithm.family then .error (.family algorithm key.kid key.family)
  else
    match key.material.curve?.filter fun crv => crv ∉ algorithm.curves.map Text.ofString with
    | some crv => .error (.curve algorithm key.kid crv)
    | none =>
      match key.pin.filter (· ≠ Text.ofString algorithm.name) with
      | some pin => .error (.pin algorithm key.kid pin)
      | none => .ok ()

/-- A key ready for use. -/
inductive Loaded where
  | rsa (key : Signature.RsaKey)
  | ecdsa (key : Signature.EcdsaKey)
  | ed25519 (point : Bytes)
  | ed448 (point : Bytes)
  | secret (secret : Bytes)

def octets? (member : Text) : Option Bytes :=
  member.toString?.bind fun text => Base64Url.Lenient.decode? (Bytes.ofString text)

def load? : Material → Option Loaded
  | .rsa n e => do
    let n ← octets? n
    let e ← octets? e
    (Signature.RsaKey.make? (Bytes.toNat n) (Bytes.toNat e)).map .rsa
  | .ec crv x y => do
    let curve ← crv.toString?.bind Signature.Curve.ofName?
    let x ← octets? x
    let y ← octets? y
    (Signature.EcdsaKey.make? curve x y).map .ecdsa
  | .okp crv x => do
    let point ← octets? x
    if crv = Text.ofString "Ed25519" ∧ point.length = 32 then some (.ed25519 point)
    else if crv = Text.ofString "Ed448" ∧ point.length = 57 then some (.ed448 point)
    else none
  | .oct k => do
    let secret ← octets? k
    if secret = [] then none else some (.secret secret)

end Key

namespace Algorithm

def hash : Algorithm → Hash
  | .es256 | .hs256 | .ps256 | .rs256 => .sha256
  | .es384 | .hs384 | .ps384 | .rs384 => .sha384
  | .es512 | .hs512 | .ps512 | .rs512 | .eddsa => .sha512

def isPss : Algorithm → Bool
  | .ps256 | .ps384 | .ps512 => true
  | _ => false

/-- The verdict of a loaded key of the algorithm's family. -/
def check (algorithm : Algorithm) (signed signature : Bytes) : Key.Loaded → Except Fault Bool
  | .rsa key =>
    if algorithm.isPss then
      if key.holdsPss algorithm.hash then .ok (key.verifyPss algorithm.hash signed signature)
      else .error .modulusTooSmall
    else .ok (key.verifyPkcs1 algorithm.hash signed signature)
  | .ecdsa key => .ok (key.verify algorithm.hash signed signature)
  | .ed25519 point => .ok (Signature.verifyEd25519 point signed signature)
  | .ed448 point => .ok (Signature.verifyEd448 point signed signature)
  | .secret secret => .ok (signature = algorithm.hash.hmac secret signed)

end Algorithm

namespace Verifier

/-- A signature that does not hold is noted. -/
def standard : Verifier := fun algorithm key signed signature =>
  match key.admission algorithm with
  | .error cause => Run.fail (.rejected (.keyMismatch cause))
  | .ok () =>
    match Key.load? key.material with
    | none => Run.fail (.rejected (.unusableKey key.kid))
    | some loaded => do
      let verdict ← Run.ofExcept (algorithm.check signed signature loaded)
      if verdict then pure true
      else do
        Run.note (.signatureRefused algorithm key.kid)
        pure false

/-- Always gives the same answer. -/
def constant (answer : Except Fault Bool) : Verifier := fun _ _ _ _ => Run.ofExcept answer

end Verifier

end Credential
