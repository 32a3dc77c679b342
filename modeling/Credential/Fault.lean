import Credential.Token

/-! Everything that can end a verification without a verified token: a rejection, which becomes an
outcome, and faults of the call, of its text or of a collaborator, which do not. -/

namespace Credential

/-- What is at fault: a value, a type, the running program, or a set of keys. -/
inductive Fault.Kind where
  | value
  | type
  | runtime
  | keySet
deriving DecidableEq

inductive Fault where
  | rejected (cause : Rejection)
  | noRegistry
  | timeNotInteger
  | intrinsicNotChallenge
  /-- The token is given as a text that has no octets. -/
  | unencodable (cause : Text.Unencodable)
  /-- The modulus of an RSA key leaves no room for the digest of a PSS signature. -/
  | modulusTooSmall
  /-- Brought by a verifier or a resolver, in its own words. -/
  | other (kind : Fault.Kind) (message : Text)
  /-- Brought by one of them too, no rejection, and of none of these kinds: known by its name alone. -/
  | foreign (name message : Text)

namespace Fault

/-- Rejections have kinds of their own, and what is foreign has none that is known. -/
def kind? : Fault → Option Kind
  | .rejected _ => none
  | .noRegistry => some .value
  | .timeNotInteger => some .type
  | .intrinsicNotChallenge => some .type
  | .unencodable _ => some .value
  | .modulusTooSmall => some .value
  | .other kind _ => some kind
  | .foreign .. => none

def message : Fault → Text
  | .rejected cause => cause.message
  | .noRegistry => "No key registry given"
  | .timeNotInteger => "current_time must be an integer timestamp"
  | .intrinsicNotChallenge => "intrinsic_challenge must be an IntrinsicChallenge"
  | .unencodable cause => cause.message
  | .modulusTooSmall => "Digest too large for key size. Use a larger key or different digest."
  | .other _ message => message
  | .foreign _ message => message

def ofUnread : Token.Fault → Fault
  | .malformed cause => .rejected (.malformed cause)
  | .unencodable cause => .unencodable cause

end Fault

end Credential
