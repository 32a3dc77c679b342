import Credential.Hash.Sha2

/-! The digests that signatures are made over, and the keyed digest built from them. -/

namespace Credential

inductive Hash where
  | sha256
  | sha384
  | sha512
deriving DecidableEq

namespace Hash

def digest : Hash → Bytes → Bytes
  | .sha256 => Sha2.sha256
  | .sha384 => Sha2.sha384
  | .sha512 => Sha2.sha512

def size : Hash → Nat
  | .sha256 => 32
  | .sha384 => 48
  | .sha512 => 64

def blockSize : Hash → Nat
  | .sha256 => 64
  | .sha384 => 128
  | .sha512 => 128

@[simp] theorem length_digest (hash : Hash) (message : Bytes) :
    (hash.digest message).length = hash.size := by
  cases hash <;> simp [digest, size]

/-- A key longer than a block is replaced by its digest, and filled with zeros. -/
def blockKey (hash : Hash) (key : Bytes) : Bytes :=
  let short := if hash.blockSize < key.length then hash.digest key else key
  short ++ List.replicate (hash.blockSize - short.length) 0

def hmac (hash : Hash) (key message : Bytes) : Bytes :=
  let key := hash.blockKey key
  hash.digest (key.map (· ^^^ 0x5C) ++ hash.digest (key.map (· ^^^ 0x36) ++ message))

@[simp] theorem length_hmac (hash : Hash) (key message : Bytes) :
    (hash.hmac key message).length = hash.size := by
  simp [hmac]

end Hash

end Credential
