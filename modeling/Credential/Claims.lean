import Credential.Rejection

/-! What the payload of a token claims. Seven members must be there, two may be; the first fault in
the order of the members decides. Only the form is checked here. A payload is of characters throughout:
a token that has an unpaired surrogate in it is not read as one. -/

namespace Credential

open Rejection

structure Claims where
  iss : String
  sub : String
  aud : String
  iat : Nat
  exp : Nat
  jti : String
  challenge : ChallengePair
  alg : Option String
  kid : Option String
deriving DecidableEq

namespace Claims

abbrev Payload := List (String × Json String)

def required : List String := ["iss", "sub", "aud", "iat", "exp", "jti", "challenge"]

/-- The first required claim that is absent. -/
def missing? (payload : Payload) : Option String :=
  required.find? fun name => (Assoc.get? name payload).isNone

def text (claim : String) : Json String → Except Rejection String
  | .string value =>
    if value = "" then .error (.invalidClaim (.notString claim)) else .ok value
  | _ => .error (.invalidClaim (.notString claim))

def time (claim : String) : Json String → Except Rejection Nat
  | .int (.ofNat value) => .ok value
  | _ => .error (.invalidClaim (.notTimestamp claim))

def audience (given : Json String) : Except Rejection String :=
  match given with
  | .string value =>
    if Audience.hasScheme value.toList then .ok value else .error (.audienceClaim given)
  | _ => .error (.audienceClaim given)

def pair (given : Json String) : Except Rejection ChallengePair :=
  match ChallengePair.ofClaim given with
  | .ok pair => .ok pair
  | .error cause => .error (.invalidClaim (.badChallenge cause))

def optional (claim : String) (payload : Payload) : Except Rejection (Option String) :=
  match Assoc.get? claim payload with
  | none => .ok none
  | some given => do .ok (some (← text claim given))

def value (claim : String) (payload : Payload) : Json String := (Assoc.get? claim payload).getD .null

def ofPayload (payload : Payload) : Except Rejection Claims :=
  match missing? payload with
  | some claim => .error (.missingClaim claim)
  | none => do
    let iss ← text "iss" (value "iss" payload)
    let sub ← text "sub" (value "sub" payload)
    let aud ← audience (value "aud" payload)
    let iat ← time "iat" (value "iat" payload)
    let exp ← time "exp" (value "exp" payload)
    if exp ≤ iat then .error (.invalidClaim .expiresTooEarly)
    else
      let jti ← text "jti" (value "jti" payload)
      let challenge ← pair (value "challenge" payload)
      let alg ← optional "alg" payload
      let kid ← optional "kid" payload
      .ok ⟨iss, sub, aud, iat, exp, jti, challenge, alg, kid⟩

end Claims

end Credential
