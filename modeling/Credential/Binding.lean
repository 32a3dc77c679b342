import Credential.Rejection

/-! What the `jti` claim ties a token to: a method, by a hash of 32 octets, or a session key, by its
SS58 address. The claim is a text of characters, as all that a token says: one with an unpaired
surrogate is outside of this. -/

namespace Credential

open Rejection

inductive Binding where
  | methodHash (bytes : Bytes)
  | sessionKey (key : SessionKey)
deriving DecidableEq

namespace Binding

/-- A method hash is tried first. Only a session key can be on another network than expected. -/
def ofJti (network : Option Int) (jti : String) : Except ClaimFault Binding :=
  match Hex32.parse? jti.toList with
  | some bytes => .ok (.methodHash bytes)
  | none =>
    match Ss58.decode jti with
    | .error cause => .error (.unknownBinding cause)
    | .ok key =>
      match network.filter (· ≠ (key.network : Int)) with
      | some expected => .error (.otherNetwork key.network expected)
      | none => .ok (.sessionKey key)

def sessionKey? : Binding → Option SessionKey
  | .sessionKey key => some key
  | .methodHash _ => none

def methodHash? : Binding → Option Bytes
  | .methodHash bytes => some bytes
  | .sessionKey _ => none

def text : Binding → String
  | .methodHash bytes => String.ofList (Hex32.render bytes)
  | .sessionKey key => key.address

end Binding

end Credential
