import Credential.Bytes

/-! SHAKE256: an output of any length from the Keccak permutation on 25 words of 64 bits. -/

namespace Credential.Hash.Shake256

abbrev Lanes := Vector UInt64 25

/-- Both coordinates are taken modulo five. -/
def lane (lanes : Lanes) (x y : Nat) : UInt64 := lanes.get ⟨x % 5 + 5 * (y % 5), by omega⟩

def rotateLeft (word amount : UInt64) : UInt64 :=
  if amount = 0 then word else (word <<< amount) ||| (word >>> (64 - amount))

def offsets : Lanes := #v[
  0, 1, 62, 28, 27, 36, 44, 6, 55, 20, 3, 10, 43, 25, 39, 41, 45, 15, 21, 8, 18, 2, 61, 56, 14]

def roundConstants : List UInt64 := [
  0x0000000000000001, 0x0000000000008082, 0x800000000000808A, 0x8000000080008000,
  0x000000000000808B, 0x0000000080000001, 0x8000000080008081, 0x8000000000008009,
  0x000000000000008A, 0x0000000000000088, 0x0000000080008009, 0x000000008000000A,
  0x000000008000808B, 0x800000000000008B, 0x8000000000008089, 0x8000000000008003,
  0x8000000000008002, 0x8000000000000080, 0x000000000000800A, 0x800000008000000A,
  0x8000000080008081, 0x8000000000008080, 0x0000000080000001, 0x8000000080008008]

def parity (lanes : Lanes) (x : Nat) : UInt64 :=
  lane lanes x 0 ^^^ lane lanes x 1 ^^^ lane lanes x 2 ^^^ lane lanes x 3 ^^^ lane lanes x 4

def diffuse (lanes : Lanes) : Lanes :=
  let parities : Vector UInt64 5 := Vector.ofFn fun x => parity lanes x
  Vector.ofFn fun index : Fin 25 =>
    lanes[index] ^^^ parities.get ⟨(index.val + 4) % 5, by omega⟩ ^^^
      rotateLeft (parities.get ⟨(index.val + 1) % 5, by omega⟩) 1

/-- The lane at `(x, y)` comes, rotated, from `(x + 3 y, x)`. -/
def scatter (lanes : Lanes) : Lanes :=
  Vector.ofFn fun index : Fin 25 =>
    let x := index.val % 5
    let y := index.val / 5
    rotateLeft (lane lanes (x + 3 * y) x) (lane offsets (x + 3 * y) x)

def combine (lanes : Lanes) : Lanes :=
  Vector.ofFn fun index : Fin 25 =>
    let x := index.val % 5
    let y := index.val / 5
    lane lanes x y ^^^ (~~~lane lanes (x + 1) y &&& lane lanes (x + 2) y)

def round (lanes : Lanes) (constant : UInt64) : Lanes :=
  let lanes := combine (scatter (diffuse lanes))
  lanes.set 0 (lanes[0] ^^^ constant)

def permute (lanes : Lanes) : Lanes := roundConstants.foldl round lanes

def rate : Nat := 136

def absorb (lanes : Lanes) (block : Bytes) : Lanes :=
  permute (Vector.ofFn fun index : Fin 25 =>
    if index.val < 17 then lanes[index] ^^^ Bytes.littleWord block index else lanes[index])

/-- The suffix of the function, zeros, and a final one bit. -/
def pad (message : Bytes) : Bytes :=
  let zeros := rate - 1 - message.length % rate
  if zeros = 0 then message ++ [0x9F] else message ++ 0x1F :: List.replicate (zeros - 1) 0 ++ [0x80]

def squeeze : Nat → Lanes → Bytes
  | 0, _ => []
  | count + 1, lanes =>
    ((lanes.toList.take 17).flatMap fun word => Bytes.ofNatLittle 8 word.toNat) ++
      squeeze count (permute lanes)

def digest (size : Nat) (message : Bytes) : Bytes :=
  let lanes := (Bytes.blocks rate (pad message)).foldl absorb (Vector.replicate 25 0)
  (squeeze (size / rate + 1) lanes).take size

end Credential.Hash.Shake256
