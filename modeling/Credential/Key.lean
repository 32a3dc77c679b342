import Credential.Algorithm
import Credential.Json.Described

/-! Public keys as issuers publish them. Only the members that a signature check needs are kept;
whatever else a record holds is dropped. -/

namespace Credential

inductive Key.Material where
  | rsa (n e : Text)
  | ec (crv x y : Text)
  | okp (crv x : Text)
  | oct (k : Text)
deriving DecidableEq

structure Key where
  kid : Text
  /-- The one algorithm the key is for, if its issuer says so. -/
  pin : Option Text
  material : Key.Material
deriving DecidableEq

namespace Key

def Material.family : Material → Family
  | .rsa .. => .rsa
  | .ec .. => .ec
  | .okp .. => .okp
  | .oct .. => .oct

def Material.curve? : Material → Option Text
  | .ec crv _ _ => some crv
  | .okp crv _ => some crv
  | _ => none

def family (key : Key) : Family := key.material.family

/-- The members of the published record, without the pin. -/
def members (key : Key) : List (String × Text) :=
  ("kty", Text.ofString key.family.name) :: ("kid", key.kid) ::
    match key.material with
    | .rsa n e => [("n", n), ("e", e)]
    | .ec crv x y => [("crv", crv), ("x", x), ("y", y)]
    | .okp crv x => [("crv", crv), ("x", x)]
    | .oct k => [("k", k)]

inductive Fault where
  | notObject
  | noKid
  | unsupportedFamily (kid : Text) (given : Json Text)
  | pinNotString (kid : Text)
  | missingMember (kid : Text) (name : String)

def Fault.message : Fault → Text
  | .notObject => "JWK record must be an object"
  | .noKid => "JWK record has no 'kid'"
  | .unsupportedFamily kid given => "Key " ++ kid.quoted ++ " has unsupported kty " ++ given.describe
  | .pinNotString kid => "Key " ++ kid.quoted ++ " has a non-string 'alg'"
  | .missingMember kid name => "Key " ++ kid.quoted ++ " is missing member " ++ quoted name

/-- An absent member counts as null. -/
def field (record : List (Text × Json Text)) (name : String) : Json Text :=
  (Assoc.get? (Text.ofString name) record).getD .null

def filled? : Json Text → Option Text
  | .string [] => none
  | .string value => some value
  | _ => none

def required (record : List (Text × Json Text)) (kid : Text) (name : String) : Except Fault Text :=
  match filled? (field record name) with
  | some value => .ok value
  | none => .error (.missingMember kid name)

def family? : Json Text → Option Family
  | .string name => name.toString?.bind Family.ofName?
  | _ => none

def pinOf (kid : Text) : Json Text → Except Fault (Option Text)
  | .null => .ok none
  | .string value => .ok (some value)
  | _ => .error (.pinNotString kid)

def materialOf (record : List (Text × Json Text)) (kid : Text) : Family → Except Fault Material
  | .rsa => do .ok (.rsa (← required record kid "n") (← required record kid "e"))
  | .ec => do
    .ok (.ec (← required record kid "crv") (← required record kid "x") (← required record kid "y"))
  | .okp => do .ok (.okp (← required record kid "crv") (← required record kid "x"))
  | .oct => do .ok (.oct (← required record kid "k"))

def ofMembers (record : List (Text × Json Text)) : Except Fault Key :=
  match filled? (field record "kid") with
  | none => .error .noKid
  | some kid =>
    match family? (field record "kty") with
    | none => .error (.unsupportedFamily kid (field record "kty"))
    | some family => do
      let pin ← pinOf kid (field record "alg")
      let material ← materialOf record kid family
      .ok ⟨kid, pin, material⟩

def ofRecord : Json Text → Except Fault Key
  | .object record => ofMembers record
  | _ => .error .notObject

end Key

end Credential
