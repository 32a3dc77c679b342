import Credential.Audience
import Credential.Challenge
import Credential.Key
import Credential.Json.Reading
import Credential.Ss58

/-! Why a token is not accepted. Each cause belongs to a kind; kinds form a tree, and the kind gives
the code, unless a collaborator brings one. The wording of every cause is `Rejection.message`. -/

namespace Credential

namespace Rejection

inductive Kind where
  | authentication
  | expiredToken
  | notYetValid
  | invalidToken
  | malformedToken
  | claim
  | missingClaim
  | invalidClaim
  | unsupportedAlgorithm
  | invalidIssuer
  | algorithmMismatch
  | unknownKey
  | invalidSignature
  | algorithmKeyMismatch
  | invalidChallenge
  | invalidAudience
deriving DecidableEq

namespace Kind

/-- A kind without a code of its own has that of the kind above it. -/
def code : Kind → String
  | .authentication => "authentication_failed"
  | .expiredToken => "expired_token"
  | .notYetValid => "not_yet_valid"
  | .invalidToken => "invalid_token"
  | .malformedToken => "malformed_token"
  | .claim => "invalid_token"
  | .missingClaim => "missing_claim"
  | .invalidClaim => "invalid_claim"
  | .unsupportedAlgorithm => "unsupported_algorithm"
  | .invalidIssuer => "invalid_issuer"
  | .algorithmMismatch => "algorithm_mismatch"
  | .unknownKey => "unknown_key"
  | .invalidSignature => "invalid_signature"
  | .algorithmKeyMismatch => "algorithm_key_mismatch"
  | .invalidChallenge => "invalid_challenge"
  | .invalidAudience => "invalid_audience"

/-- The kinds above, nearest first. -/
def ancestors : Kind → List Kind
  | .authentication => []
  | .expiredToken | .notYetValid | .invalidToken => [.authentication]
  | .missingClaim | .invalidClaim => [.claim, .invalidToken, .authentication]
  | .algorithmKeyMismatch => [.invalidSignature, .invalidToken, .authentication]
  | _ => [.invalidToken, .authentication]

/-- Whether a failure of this kind names a claim. -/
def namesClaim (kind : Kind) : Bool :=
  kind = .claim || kind = .missingClaim || kind = .invalidClaim

/-- The wording of a claim failure that brings none of its own. -/
def claimWording : Kind → String
  | .missingClaim => "Missing required claim"
  | _ => "Invalid claim"

end Kind

/-- The first two parts of a token are JSON objects, the third is the signature. -/
inductive Part where
  | header
  | payload
  | signature
deriving DecidableEq

def Part.name : Part → String
  | .header => "header"
  | .payload => "payload"
  | .signature => "signature"

inductive Malformation where
  | unsupported (kind : String)
  | tooLong (length : Nat) (limit : Int)
  | notAscii
  | segmentCount (count : Nat)
  | notBase64 (part : Part)
  | notCanonical (part : Part)
  | notJson (part : Part) (cause : Json.Fault)
  | unpairedSurrogate (part : Part)
  | notObject (part : Part)
  | noAlgorithm
  | noKid
  | typeNotString
deriving DecidableEq

/-- Where a text breaks the rules of JSON is not said: a star stands for it. -/
def jsonDetail : Json.Fault → Text
  | .repeatedMember name => "duplicate member " ++ name.quoted
  | .nonFinite name => "non-finite number " ++ name.name
  | .broken => "*"

def Malformation.message : Malformation → Text
  | .unsupported kind => "Token must be str or bytes, got " ++ kind
  | .tooLong length limit =>
    ("Token is " ++ toString length ++ " bytes, maximum is " ++ toString limit : String)
  | .notAscii => "Token must be ASCII"
  | .segmentCount count => ("Token must have 3 segments, got " ++ toString count : String)
  | .notBase64 part => "Token " ++ part.name ++ " is not valid base64url"
  | .notCanonical part => "Token " ++ part.name ++ " is not canonical base64url"
  | .notJson part cause => ("Token " ++ part.name ++ " is not valid JSON: " : String) ++ jsonDetail cause
  | .unpairedSurrogate part => "Token " ++ part.name ++ " contains an unpaired surrogate escape"
  | .notObject part => "Token " ++ part.name ++ " must be a JSON object"
  | .noAlgorithm => "Token header has no 'alg'"
  | .noKid => "Token header has no 'kid'"
  | .typeNotString => "Token header 'typ' must be a string"

inductive ClaimFault where
  | notString (claim : String)
  | notTimestamp (claim : String)
  | expiresTooEarly
  | badChallenge (cause : ChallengePair.Fault)
  | kidDiffers
  | unknownBinding (cause : Ss58.Fault)
  | otherNetwork (found : Nat) (expected : Int)

def ClaimFault.claim : ClaimFault → String
  | .notString claim => claim
  | .notTimestamp claim => claim
  | .expiresTooEarly => "exp"
  | .badChallenge _ => "challenge"
  | .kidDiffers => "kid"
  | .unknownBinding _ => "jti"
  | .otherNetwork .. => "jti"

def ClaimFault.message : ClaimFault → Text
  | .notString claim => "Claim " ++ quoted claim ++ " must be a non-empty string"
  | .notTimestamp claim => "Claim " ++ quoted claim ++ " must be a non-negative integer"
  | .expiresTooEarly => "Claim 'exp' must be later than 'iat'"
  | .badChallenge cause => "Invalid claim 'challenge': " ++ cause.message
  | .kidDiffers => "Claim 'kid' does not match header 'kid'"
  | .unknownBinding cause => "Claim 'jti' is neither a method hash nor an SS58 address: " ++ cause.message
  | .otherNetwork found expected =>
    ("Claim 'jti' is an address for network " ++ toString found ++ ", expected " ++ toString expected : String)

/-- Why a key may not be used with an algorithm. -/
inductive KeyMismatch where
  | family (algorithm : Algorithm) (kid : Text) (found : Family)
  | curve (algorithm : Algorithm) (kid crv : Text)
  | pin (algorithm : Algorithm) (kid pinned : Text)
deriving DecidableEq

def KeyMismatch.message : KeyMismatch → Text
  | .family algorithm kid found =>
    (algorithm.name ++ " requires a " ++ algorithm.family.name ++ " key, key ") ++ kid.quoted ++
      " is " ++ found.name
  | .curve algorithm kid crv =>
    (algorithm.name ++ " cannot be used with curve ") ++ crv.quoted ++ " (key " ++ kid.quoted ++ ")"
  | .pin algorithm kid pinned =>
    "Key " ++ kid.quoted ++ " is pinned to " ++ pinned ++ ", token uses " ++ algorithm.name

end Rejection

open Rejection

inductive Rejection where
  | malformed (cause : Malformation)
  | missingClaim (claim : String)
  | invalidClaim (cause : ClaimFault)
  | audienceClaim (given : Json String)
  | audience (cause : Audience.Fault)
  | unknownAlgorithm (name : String)
  | disallowedAlgorithm (name : String)
  | issuerUnusable (cause : Issuer.Fault)
  | issuerDiffers (claimed : String) (issuer : Issuer)
  | algorithmDiffers (claimed header : String)
  | expired
  | notYetValid
  | unknownKey (kid : String) (issuer : Issuer)
  | keyMismatch (cause : KeyMismatch)
  | unusableKey (kid : Text)
  | badSignature
  | challengeDiffers
  /-- Brought by a verifier or a resolver, in its own words. It may be of a kind of its own, with a code of its own, and
  then the kind is the nearest one above. -/
  | reported (kind : Kind) (code : String) (claim : Option String) (message : Text)

namespace Rejection

def kind : Rejection → Kind
  | .malformed _ => .malformedToken
  | .missingClaim _ => .missingClaim
  | .invalidClaim _ => .invalidClaim
  | .audienceClaim _ => .invalidAudience
  | .audience _ => .invalidAudience
  | .unknownAlgorithm _ => .unsupportedAlgorithm
  | .disallowedAlgorithm _ => .unsupportedAlgorithm
  | .issuerUnusable _ => .invalidIssuer
  | .issuerDiffers .. => .invalidIssuer
  | .algorithmDiffers .. => .algorithmMismatch
  | .expired => .expiredToken
  | .notYetValid => .notYetValid
  | .unknownKey .. => .unknownKey
  | .keyMismatch _ => .algorithmKeyMismatch
  | .unusableKey _ => .invalidSignature
  | .badSignature => .invalidSignature
  | .challengeDiffers => .invalidChallenge
  | .reported kind _ _ _ => kind

def code : Rejection → String
  | .reported _ code _ _ => code
  | rejection => rejection.kind.code

def claim? : Rejection → Option String
  | .missingClaim claim => some claim
  | .invalidClaim cause => some cause.claim
  | .reported kind _ claim _ => if kind.namesClaim then claim else none
  | _ => none

def message : Rejection → Text
  | .malformed cause => cause.message
  | .missingClaim claim => (Kind.missingClaim.claimWording ++ ": " ++ claim : String)
  | .invalidClaim cause => cause.message
  | .audienceClaim given => "Claim 'aud' must be a URI, got " ++ given.toText.describe
  | .audience cause => cause.message
  | .unknownAlgorithm name => "Unsupported algorithm " ++ quoted name
  | .disallowedAlgorithm name => "Algorithm " ++ quoted name ++ " is not allowed"
  | .issuerUnusable cause => "Invalid issuer id: " ++ cause.message
  | .issuerDiffers claimed issuer =>
    "Token issuer " ++ quoted claimed ++ " does not match " ++ issuer.text
  | .algorithmDiffers claimed header =>
    "Claim 'alg' " ++ quoted claimed ++ " does not match header 'alg' " ++ quoted header
  | .expired => "Token has expired"
  | .notYetValid => "Token is not valid yet"
  | .unknownKey kid issuer => "No key " ++ quoted kid ++ " registered for issuer " ++ issuer.text
  | .keyMismatch cause => cause.message
  | .unusableKey kid => "Key " ++ kid.quoted ++ " cannot be loaded: *"
  | .badSignature => "Signature verification failed"
  | .challengeDiffers => "Challenge claim does not match the intrinsic challenge"
  | .reported _ _ _ message => message

/-- A failure of some kind in a caller's words. A kind that names a claim takes the claim first and
has a wording of its own if none or an empty one follows. -/
def ofWords (kind : Kind) (subject : String) (wording : Option String) : Rejection :=
  if kind.namesClaim then
    match wording with
    | none | some "" => .reported kind kind.code (some subject) (kind.claimWording ++ ": " ++ subject : String)
    | some wording => .reported kind kind.code (some subject) wording
  else .reported kind kind.code none subject

end Rejection

end Credential
