import Credential.Binding
import Credential.Claims
import Credential.Registry
import Credential.Settings
import Credential.Token
import Credential.Verifier

/-! Verification of a token, in stages, the first failure ending the call: the token and its claims,
agreement of header, claims and issuer, the time, the key, the signature, the challenge, and the
facts derived. What is cheap comes before what is secret: no key is looked up for a token that is
ill-formed or out of time, and no challenge is compared for a token that is not authentic. -/

namespace Credential

open Rejection

/-- Any way to find a key by the octets of its issuer and its kid. It may fail, as a rejection or otherwise. -/
abbrev Resolver := Bytes → Text → Except Fault (Option Key)

/-- A registry never fails. -/
def Registry.resolver (registry : Registry) : Resolver := fun issuer kid => .ok (registry.resolve issuer kid)

/-- What a caller hands over. A part that is not of its kind is absent. -/
structure Request where
  token : Argument
  issuer : Argument
  intrinsic : Option Intrinsic
  time : Option Int
  resolver : Option Resolver

/-- The facts of a token that passed every stage. -/
structure Verified where
  issuer : Issuer
  kid : String
  algorithm : Algorithm
  device : DeviceId
  authority : String
  binding : Binding
  issuedAt : Nat
  expiresAt : Nat
  purpose : Purpose
deriving DecidableEq

structure Failure where
  code : String
  message : Text
  claim : Option String
deriving DecidableEq

def Failure.ofRejection (rejection : Rejection) : Failure :=
  ⟨rejection.code, rejection.message, rejection.claim?⟩

/-- Verified or failed, never both. -/
inductive Outcome where
  | verified (facts : Verified)
  | failed (failure : Failure)
deriving DecidableEq

namespace Outcome

/-- Not exactly one of the two sides is given. -/
structure SidesFault where
deriving DecidableEq

def SidesFault.message (_ : SidesFault) : Text := "Outcome must hold exactly one of verified/failure"

def ofSides : Option Verified → Option Failure → Except SidesFault Outcome
  | some facts, none => .ok (.verified facts)
  | none, some failure => .ok (.failed failure)
  | _, _ => .error {}

def isOk : Outcome → Bool
  | .verified _ => true
  | .failed _ => false

end Outcome

/-- A token whose parts agree with each other and with the issuer asked for. -/
structure Vetted where
  token : Token
  claims : Claims
  algorithm : Algorithm
  issuer : Issuer

structure Authenticator where
  verifier : Verifier
  resolver : Option Resolver
  settings : Settings

namespace Authenticator

def algorithmOf (settings : Settings) (name : String) : Except Rejection Algorithm :=
  match Algorithm.ofName? name with
  | none => .error (.unknownAlgorithm name)
  | some algorithm =>
    if algorithm ∈ settings.allowed then .ok algorithm else .error (.disallowedAlgorithm name)

def issuerOf (settings : Settings) (given : Argument) (claims : Claims) : Except Rejection Issuer :=
  match Issuer.parse settings.maxIssuerLength given with
  | .error cause => .error (.issuerUnusable cause)
  | .ok issuer =>
    if Bytes.ofString claims.iss = issuer.bytes then .ok issuer
    else .error (.issuerDiffers claims.iss issuer)

/-- The optional claims must repeat the header. -/
def agreement (header : Header) (claims : Claims) : Except Rejection Unit :=
  match claims.alg.filter (· ≠ header.alg) with
  | some claimed => .error (.algorithmDiffers claimed header.alg)
  | none =>
    match claims.kid.filter (· ≠ header.kid) with
    | some _ => .error (.invalidClaim .kidDiffers)
    | none => .ok ()

/-- What a token says of itself, against the settings and the issuer asked for. -/
def examine (settings : Settings) (issuer : Argument) (token : Token) : Except Rejection Vetted := do
  let claims ← Claims.ofPayload token.payload
  let algorithm ← algorithmOf settings token.header.alg
  let issuer ← issuerOf settings issuer claims
  agreement token.header claims
  .ok ⟨token, claims, algorithm, issuer⟩

def vet (settings : Settings) (request : Request) : Except Fault Vetted := do
  let token ← (Token.decode settings.maxTokenLength request.token).mapError Fault.ofUnread
  (examine settings request.issuer token).mapError .rejected

/-- Expiry is told before a start in the future. -/
def checkTime (claims : Claims) (time : Int) : Except Rejection Unit :=
  if (claims.exp : Int) ≤ time then .error .expired
  else if time < claims.iat then .error .notYetValid
  else .ok ()

def keyOf (resolver : Resolver) (vetted : Vetted) : Except Fault Key := do
  match ← resolver vetted.issuer.bytes (Text.ofString vetted.token.header.kid) with
  | some key => .ok key
  | none => .error (.rejected (.unknownKey vetted.token.header.kid vetted.issuer))

def checkSignature (verifier : Verifier) (vetted : Vetted) (key : Key) : Run Event Fault Unit := do
  let signed := Bytes.ofString vetted.token.signingInput
  Run.note (.consulted vetted.algorithm key signed vetted.token.signature)
  let verdict ← verifier vetted.algorithm key signed vetted.token.signature
  if verdict then pure () else Run.fail (.rejected .badSignature)

/-- Both fields of the claimed pair count. -/
def bind (claimed : ChallengePair) (intrinsic : Intrinsic) : Except Rejection ChallengePair :=
  if intrinsic.binds claimed then .ok intrinsic.derive else .error .challengeDiffers

def facts (settings : Settings) (vetted : Vetted) (intrinsic : Intrinsic) : Except Rejection Verified := do
  let authority ← (Audience.authority vetted.claims.aud).mapError .audience
  let binding ← (Binding.ofJti (settings.network.map Int.ofNat) vetted.claims.jti).mapError .invalidClaim
  .ok {
    issuer := vetted.issuer
    kid := vetted.token.header.kid
    algorithm := vetted.algorithm
    device := DeviceId.ofSubject vetted.claims.sub
    authority := authority
    binding := binding
    issuedAt := vetted.claims.iat
    expiresAt := vetted.claims.exp
    purpose := intrinsic.purpose }

def step {value : Type} (result : Except Rejection value) : Run Event Fault value :=
  Run.ofExcept (result.mapError .rejected)

/-- All stages, for a call whose parts are of their kinds. -/
def stages (verifier : Verifier) (settings : Settings) (request : Request) (resolver : Resolver)
    (time : Int) (intrinsic : Intrinsic) : Run Event Fault Verified := do
  let vetted ← Run.ofExcept (vet settings request)
  step (checkTime vetted.claims time)
  let key ← Run.ofExcept (keyOf resolver vetted)
  checkSignature verifier vetted key
  let _ ← step (bind vetted.claims.challenge intrinsic)
  let verified ← step (facts settings vetted intrinsic)
  Run.note (.accepted verified.issuer verified.kid)
  pure verified

/-- A resolver given with the request is used before the authenticator's own. -/
def execute (authenticator : Authenticator) (request : Request) : Run Event Fault Verified :=
  match request.resolver <|> authenticator.resolver, request.time, request.intrinsic with
  | none, _, _ => Run.fail .noRegistry
  | some _, none, _ => Run.fail .timeNotInteger
  | some _, some _, none => Run.fail .intrinsicNotChallenge
  | some resolver, some time, some intrinsic =>
    stages authenticator.verifier authenticator.settings request resolver time intrinsic

/-- Rejections become outcomes; every other fault stays one. -/
def settle (run : Run Event Fault Verified) : Run Event Fault Outcome :=
  match run.result with
  | .ok verified => ⟨run.journal, .ok (.verified verified)⟩
  | .error (.rejected cause) =>
    ⟨run.journal ++ [.rejected cause.code], .ok (.failed (Failure.ofRejection cause))⟩
  | .error fault => ⟨run.journal, .error fault⟩

def verify (authenticator : Authenticator) (request : Request) : Run Event Fault Outcome :=
  settle (execute authenticator request)

end Authenticator

end Credential
