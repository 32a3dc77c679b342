import Credential.Bytes

/-! SHA-2 for words of any width. The 32-bit functions use the upper halves of the 64-bit
constants, so one table serves both. -/

namespace Credential.Hash.Sha2

/-- The first 64 bits of the fractional parts of the cube roots of the first 80 primes. -/
def cubeRoots : List Nat := [
  0x428A2F98D728AE22, 0x7137449123EF65CD, 0xB5C0FBCFEC4D3B2F, 0xE9B5DBA58189DBBC,
  0x3956C25BF348B538, 0x59F111F1B605D019, 0x923F82A4AF194F9B, 0xAB1C5ED5DA6D8118,
  0xD807AA98A3030242, 0x12835B0145706FBE, 0x243185BE4EE4B28C, 0x550C7DC3D5FFB4E2,
  0x72BE5D74F27B896F, 0x80DEB1FE3B1696B1, 0x9BDC06A725C71235, 0xC19BF174CF692694,
  0xE49B69C19EF14AD2, 0xEFBE4786384F25E3, 0x0FC19DC68B8CD5B5, 0x240CA1CC77AC9C65,
  0x2DE92C6F592B0275, 0x4A7484AA6EA6E483, 0x5CB0A9DCBD41FBD4, 0x76F988DA831153B5,
  0x983E5152EE66DFAB, 0xA831C66D2DB43210, 0xB00327C898FB213F, 0xBF597FC7BEEF0EE4,
  0xC6E00BF33DA88FC2, 0xD5A79147930AA725, 0x06CA6351E003826F, 0x142929670A0E6E70,
  0x27B70A8546D22FFC, 0x2E1B21385C26C926, 0x4D2C6DFC5AC42AED, 0x53380D139D95B3DF,
  0x650A73548BAF63DE, 0x766A0ABB3C77B2A8, 0x81C2C92E47EDAEE6, 0x92722C851482353B,
  0xA2BFE8A14CF10364, 0xA81A664BBC423001, 0xC24B8B70D0F89791, 0xC76C51A30654BE30,
  0xD192E819D6EF5218, 0xD69906245565A910, 0xF40E35855771202A, 0x106AA07032BBD1B8,
  0x19A4C116B8D2D0C8, 0x1E376C085141AB53, 0x2748774CDF8EEB99, 0x34B0BCB5E19B48A8,
  0x391C0CB3C5C95A63, 0x4ED8AA4AE3418ACB, 0x5B9CCA4F7763E373, 0x682E6FF3D6B2B8A3,
  0x748F82EE5DEFB2FC, 0x78A5636F43172F60, 0x84C87814A1F0AB72, 0x8CC702081A6439EC,
  0x90BEFFFA23631E28, 0xA4506CEBDE82BDE9, 0xBEF9A3F7B2C67915, 0xC67178F2E372532B,
  0xCA273ECEEA26619C, 0xD186B8C721C0C207, 0xEADA7DD6CDE0EB1E, 0xF57D4F7FEE6ED178,
  0x06F067AA72176FBA, 0x0A637DC5A2C898A6, 0x113F9804BEF90DAE, 0x1B710B35131C471B,
  0x28DB77F523047D84, 0x32CAAB7B40C72493, 0x3C9EBE0A15C9BEBC, 0x431D67C49C100D4C,
  0x4CC5D4BECB3E42B6, 0x597F299CFC657E2A, 0x5FCB6FAB3AD6FAEC, 0x6C44198C4A475817]

/-- The first 64 bits of the fractional parts of the square roots of the first 16 primes. -/
def squareRoots : List Nat := [
  0x6A09E667F3BCC908, 0xBB67AE8584CAA73B, 0x3C6EF372FE94F82B, 0xA54FF53A5F1D36F1,
  0x510E527FADE682D1, 0x9B05688C2B3E6C1F, 0x1F83D9ABFB41BD6B, 0x5BE0CD19137E2179,
  0xCBBB9D5DC1059ED8, 0x629A292A367CD507, 0x9159015A3070DD17, 0x152FECD8F70E5939,
  0x67332667FFC00B31, 0x8EB44A8768581511, 0xDB0C2E0D64F98FA7, 0x47B5481DBEFA4FA4]

/-- Rotations of the two round functions; rotations and, third, a shift of the two schedule ones. -/
structure Mixing where
  first : Nat × Nat × Nat
  fifth : Nat × Nat × Nat
  old : Nat × Nat × Nat
  new : Nat × Nat × Nat

structure Chain (width : Nat) where
  a : BitVec width
  b : BitVec width
  c : BitVec width
  d : BitVec width
  e : BitVec width
  f : BitVec width
  g : BitVec width
  h : BitVec width

variable {width : Nat}

def Chain.words (chain : Chain width) : List (BitVec width) :=
  [chain.a, chain.b, chain.c, chain.d, chain.e, chain.f, chain.g, chain.h]

def Chain.add (first second : Chain width) : Chain width :=
  ⟨first.a + second.a, first.b + second.b, first.c + second.c, first.d + second.d,
    first.e + second.e, first.f + second.f, first.g + second.g, first.h + second.h⟩

def rotations (amounts : Nat × Nat × Nat) (word : BitVec width) : BitVec width :=
  word.rotateRight amounts.1 ^^^ word.rotateRight amounts.2.1 ^^^ word.rotateRight amounts.2.2

def rotationsAndShift (amounts : Nat × Nat × Nat) (word : BitVec width) : BitVec width :=
  word.rotateRight amounts.1 ^^^ word.rotateRight amounts.2.1 ^^^ (word >>> amounts.2.2)

/-- Further words of the schedule, newest first. -/
def extend (mixing : Mixing) : Nat → List (BitVec width) → List (BitVec width)
  | 0, words => words
  | count + 1, words =>
    let word := rotationsAndShift mixing.new (words.getD 1 0) + words.getD 6 0 +
      rotationsAndShift mixing.old (words.getD 14 0) + words.getD 15 0
    extend mixing count (word :: words)

def round (mixing : Mixing) (chain : Chain width) (constant word : BitVec width) : Chain width :=
  let choice := (chain.e &&& chain.f) ^^^ (~~~chain.e &&& chain.g)
  let majority := (chain.a &&& chain.b) ^^^ (chain.a &&& chain.c) ^^^ (chain.b &&& chain.c)
  let one := chain.h + rotations mixing.fifth chain.e + choice + constant + word
  let two := rotations mixing.first chain.a + majority
  ⟨one + two, chain.a, chain.b, chain.c, chain.d + one, chain.e, chain.f, chain.g⟩

def compress (mixing : Mixing) (constants : List (BitVec width)) (chain : Chain width)
    (block : Bytes) : Chain width :=
  let words := (Bytes.blocks (width / 8) block).map fun piece => BitVec.ofNat width (Bytes.toNat piece)
  let schedule := (extend mixing (constants.length - 16) words.reverse).reverse
  let mixed := (constants.zip schedule).foldl (fun chain pair => round mixing chain pair.1 pair.2) chain
  chain.add mixed

/-- A one bit, zeros, and the length in bits as two words, up to a multiple of sixteen words. -/
def pad (width : Nat) (message : Bytes) : Bytes :=
  let block := 2 * width
  let lengthSize := width / 4
  let zeros := (2 * block - (message.length + 1 + lengthSize) % block) % block
  message ++ 0x80 :: List.replicate zeros 0 ++ Bytes.ofNat lengthSize (8 * message.length)

def digest (mixing : Mixing) (constants : List (BitVec width)) (initial : Chain width)
    (message : Bytes) : Bytes :=
  let final := (Bytes.blocks (2 * width) (pad width message)).foldl (compress mixing constants) initial
  final.words.flatMap fun word => Bytes.ofNat (width / 8) word.toNat

def small : Mixing := ⟨(2, 13, 22), (6, 11, 25), (7, 18, 3), (17, 19, 10)⟩

def large : Mixing := ⟨(28, 34, 39), (14, 18, 41), (1, 8, 7), (19, 61, 6)⟩

def initial (width skip : Nat) (shrink : Nat → Nat) : Chain width :=
  let root (index : Nat) := BitVec.ofNat width (shrink (squareRoots.getD (skip + index) 0))
  ⟨root 0, root 1, root 2, root 3, root 4, root 5, root 6, root 7⟩

def upperHalf (constant : Nat) : Nat := constant / Nat.pow 2 32

def sha256 (message : Bytes) : Bytes :=
  digest small ((cubeRoots.take 64).map fun root => BitVec.ofNat 32 (upperHalf root))
    (initial 32 0 upperHalf) message

def sha512From (skip : Nat) (message : Bytes) : Bytes :=
  digest large (cubeRoots.map (BitVec.ofNat 64)) (initial 64 skip id) message

def sha512 : Bytes → Bytes := sha512From 0

def sha384 (message : Bytes) : Bytes := (sha512From 8 message).take 48

theorem length_digest (mixing : Mixing) (constants : List (BitVec width)) (start : Chain width)
    (message : Bytes) : (digest mixing constants start message).length = 8 * (width / 8) := by
  simp [digest, Chain.words]
  omega

@[simp] theorem length_sha256 (message : Bytes) : (sha256 message).length = 32 := by
  simp [sha256, length_digest]

@[simp] theorem length_sha384 (message : Bytes) : (sha384 message).length = 48 := by
  simp [sha384, sha512From, length_digest]

@[simp] theorem length_sha512 (message : Bytes) : (sha512 message).length = 64 := by
  simp [sha512, sha512From, length_digest]

end Credential.Hash.Sha2
