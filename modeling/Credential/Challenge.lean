import Credential.Hash.Blake2b
import Credential.Hex32
import Credential.Issuer

/-! The tie between a token and one attempt. The verifying side supplies an intrinsic value and a
purpose; the token claims a pair of digests derived from them:

    context   = digest(context tag ‖ purpose)
    challenge = digest(challenge tag ‖ context ‖ intrinsic value)

A pair is claimed in texts of characters, as all that a token says; a text with an unpaired surrogate
is outside of this. -/

namespace Credential

inductive Purpose where
  | enrollDevice
  | authenticateSession
deriving DecidableEq

namespace Purpose

def name : Purpose → String
  | .enrollDevice => "enroll-device"
  | .authenticateSession => "authenticate-session"

def ofName? (name : String) : Option Purpose :=
  [enrollDevice, authenticateSession].find? (·.name = name)

end Purpose

/-- The purpose a caller gives: one of the two, or anything else. -/
inductive PurposeArgument where
  | purpose (value : Purpose)
  | json (value : Json Text)

structure Intrinsic where
  value : Bytes
  purpose : Purpose
  nonempty : 0 < value.length
  short : value.length ≤ 1024
deriving DecidableEq

namespace Intrinsic

inductive Fault where
  | notBytes
  | badLength
  | unknownPurpose (given : Json Text)

def Fault.message : Fault → Text
  | .notBytes => "Intrinsic challenge must be bytes"
  | .badLength => "Intrinsic challenge must be 1..1024 bytes"
  | .unknownPurpose given => "Unknown challenge purpose: " ++ given.describe

def make (value : Argument) (purpose : PurposeArgument) : Except Fault Intrinsic :=
  match value with
  | .bytes bytes =>
    if inRange : 0 < bytes.length ∧ bytes.length ≤ 1024 then
      match purpose with
      | .purpose purpose => .ok ⟨bytes, purpose, inRange.1, inRange.2⟩
      | .json given => .error (.unknownPurpose given)
    else .error .badLength
  | _ => .error .notBytes

end Intrinsic

structure ChallengePair where
  challenge : Bytes
  context : Bytes
deriving DecidableEq

namespace ChallengePair

inductive Fault where
  | notObject
  | notHex32 (given : Json String)

def Fault.message : Fault → Text
  | .notObject => "Challenge claim must be an object"
  | .notHex32 given => "Expected 0x-prefixed 32-byte hex string, got " ++ given.toText.describe

def hex32 (given : Json String) : Except Fault Bytes :=
  match given with
  | .string text =>
    match Hex32.parse? text.toList with
    | some bytes => .ok bytes
    | none => .error (.notHex32 given)
  | _ => .error (.notHex32 given)

/-- An absent member counts as null. -/
def ofClaim : Json String → Except Fault ChallengePair
  | .object members => do
    let challenge ← hex32 ((Assoc.get? "challenge" members).getD .null)
    let context ← hex32 ((Assoc.get? "context" members).getD .null)
    .ok ⟨challenge, context⟩
  | _ => .error .notObject

def toClaim (pair : ChallengePair) : Json String :=
  .object [("challenge", .string (String.ofList (Hex32.render pair.challenge))),
    ("context", .string (String.ofList (Hex32.render pair.context)))]

end ChallengePair

namespace Intrinsic

def digest : Bytes → Bytes := Hash.Blake2b.digest 32

/-- What the context is the digest of. -/
def contextInput (purpose : Purpose) : Bytes :=
  Bytes.ofString "pass-jwt/v1/context/" ++ Bytes.ofString purpose.name

/-- What the challenge is the digest of. -/
def challengeInput (intrinsic : Intrinsic) : Bytes :=
  Bytes.ofString "pass-jwt/v1/challenge/" ++ digest (contextInput intrinsic.purpose) ++ intrinsic.value

def derive (intrinsic : Intrinsic) : ChallengePair :=
  ⟨digest intrinsic.challengeInput, digest (contextInput intrinsic.purpose)⟩

/-- Both digests must be the derived ones. -/
def binds (intrinsic : Intrinsic) (claimed : ChallengePair) : Bool := claimed = intrinsic.derive

end Intrinsic

/-- A device is known by the digest of the subject it signs in as. -/
structure DeviceId where
  bytes : Bytes
deriving DecidableEq

namespace DeviceId

def ofSubject (subject : String) : DeviceId := ⟨Hash.Blake2b.digest 32 (Bytes.ofString subject)⟩

def text (device : DeviceId) : String := String.ofList (Hex32.render device.bytes)

end DeviceId

end Credential
