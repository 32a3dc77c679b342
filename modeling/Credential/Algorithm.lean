import Credential.Hash
import Credential.Text.Quoted

/-! The signature algorithms, in the order of their names. Each belongs to one family of keys. -/

namespace Credential

inductive Family where
  | rsa
  | ec
  | okp
  | oct
deriving DecidableEq

namespace Family

def name : Family → String
  | .rsa => "RSA"
  | .ec => "EC"
  | .okp => "OKP"
  | .oct => "oct"

def all : List Family := [.rsa, .ec, .okp, .oct]

def ofName? (name : String) : Option Family := all.find? (·.name = name)

end Family

inductive Algorithm where
  | es256
  | es384
  | es512
  | eddsa
  | hs256
  | hs384
  | hs512
  | ps256
  | ps384
  | ps512
  | rs256
  | rs384
  | rs512
deriving DecidableEq

namespace Algorithm

def name : Algorithm → String
  | .es256 => "ES256"
  | .es384 => "ES384"
  | .es512 => "ES512"
  | .eddsa => "EdDSA"
  | .hs256 => "HS256"
  | .hs384 => "HS384"
  | .hs512 => "HS512"
  | .ps256 => "PS256"
  | .ps384 => "PS384"
  | .ps512 => "PS512"
  | .rs256 => "RS256"
  | .rs384 => "RS384"
  | .rs512 => "RS512"

def all : List Algorithm :=
  [.es256, .es384, .es512, .eddsa, .hs256, .hs384, .hs512, .ps256, .ps384, .ps512, .rs256, .rs384, .rs512]

theorem mem_all (algorithm : Algorithm) : algorithm ∈ all := by
  cases algorithm <;> decide

def ofName? (name : String) : Option Algorithm := all.find? (·.name = name)

/-- A name that no algorithm has. -/
structure UnknownName where
  name : String
deriving DecidableEq

def UnknownName.message (unknown : UnknownName) : Text := quoted unknown.name ++ " is not a valid Algorithm"

def ofName (name : String) : Except UnknownName Algorithm :=
  match ofName? name with
  | some algorithm => .ok algorithm
  | none => .error ⟨name⟩

def family : Algorithm → Family
  | .es256 | .es384 | .es512 => .ec
  | .eddsa => .okp
  | .hs256 | .hs384 | .hs512 => .oct
  | .ps256 | .ps384 | .ps512 | .rs256 | .rs384 | .rs512 => .rsa

/-- The curves its keys may be on; none for families without curves. -/
def curves : Algorithm → List String
  | .es256 => ["P-256"]
  | .es384 => ["P-384"]
  | .es512 => ["P-521"]
  | .eddsa => ["Ed25519", "Ed448"]
  | _ => []

end Algorithm

end Credential
