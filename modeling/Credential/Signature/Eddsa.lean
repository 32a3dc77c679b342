import Credential.Hash.Sha2
import Credential.Hash.Shake256
import Credential.Signature.Modular

/-! EdDSA on the curves `a x² + y² = 1 + d x² y²` of Ed25519 and Ed448. Points are kept in projective
coordinates, for which one formula adds any two points. -/

namespace Credential.Signature

structure EdwardsCurve where
  prime : Nat
  a : Nat
  d : Nat
  order : Nat
  baseX : Nat
  baseY : Nat
  /-- Octets of an encoded point, and of the number in a signature. -/
  size : Nat

namespace EdwardsCurve

def ed25519 : EdwardsCurve where
  prime := 0x7FFFFFFFFFFFFFFFFFFFFFFFFFFFFFFFFFFFFFFFFFFFFFFFFFFFFFFFFFFFFFED
  a := 0x7FFFFFFFFFFFFFFFFFFFFFFFFFFFFFFFFFFFFFFFFFFFFFFFFFFFFFFFFFFFFFEC
  d := 0x52036CEE2B6FFE738CC740797779E89800700A4D4141D8AB75EB4DCA135978A3
  order := 0x1000000000000000000000000000000014DEF9DEA2F79CD65812631A5CF5D3ED
  baseX := 0x216936D3CD6E53FEC0A4E231FDD6DC5C692CC7609525A7B2C9562D608F25D51A
  baseY := 0x6666666666666666666666666666666666666666666666666666666666666658
  size := 32

def ed448 : EdwardsCurve where
  prime := 0xFFFFFFFFFFFFFFFFFFFFFFFFFFFFFFFFFFFFFFFFFFFFFFFFFFFFFFFEFFFFFFFFFFFFFFFFFFFFFFFFFFFFFFFFFFFFFFFFFFFFFFFFFFFFFFFF
  a := 0x1
  d := 0xFFFFFFFFFFFFFFFFFFFFFFFFFFFFFFFFFFFFFFFFFFFFFFFFFFFFFFFEFFFFFFFFFFFFFFFFFFFFFFFFFFFFFFFFFFFFFFFFFFFFFFFFFFFF6756
  order := 0x3FFFFFFFFFFFFFFFFFFFFFFFFFFFFFFFFFFFFFFFFFFFFFFFFFFFFFFF7CCA23E9C44EDB49AED63690216CC2728DC58F552378C292AB5844F3
  baseX := 0x4F1970C66BED0DED221D15A622BF36DA9E146570470F1767EA6DE324A3D3A46412AE1AF72AB66511433B80E18B00938E2626A82BC70CC05E
  baseY := 0x693F46716EB6BC248876203756C9C7624BEA73736CA3984087789C1E05A0C2D73AD3FF1CE67C39C4FDBD132C4ED7C8AD9808795BF230FA14
  size := 57

structure Point where
  x : Nat
  y : Nat
  z : Nat

def neutral : Point := ⟨0, 1, 1⟩

variable (curve : EdwardsCurve)

def base : Point := ⟨curve.baseX, curve.baseY, 1⟩

def negate (point : Point) : Point := ⟨neg curve.prime point.x, point.y, point.z⟩

def sum (first second : Point) : Point :=
  let p := curve.prime
  let z := mul p first.z second.z
  let square := mul p z z
  let x := mul p first.x second.x
  let y := mul p first.y second.y
  let e := mul p curve.d (mul p x y)
  let f := sub p square e
  let g := add p square e
  let cross := sub p (sub p (mul p (add p first.x first.y) (add p second.x second.y)) x) y
  ⟨mul p z (mul p f cross), mul p z (mul p g (sub p y (mul p curve.a x))), mul p f g⟩

/-- A multiple of the base point plus a multiple of another. -/
def combine (first second : Nat) (point : Point) : Point :=
  sumOfMultiples (fun total => sum curve total total) (sum curve) neutral (base curve) point first second

/-- A square root, if there is one. The prime is 3 modulo 4, or 5 modulo 8. -/
def root? (value : Nat) : Option Nat :=
  let p := curve.prime
  let candidate :=
    if p % 4 = 3 then power p value ((p + 1) / 4) else power p value ((p + 3) / 8)
  if mul p candidate candidate = value then some candidate
  else
    let turned := mul p candidate (power p 2 ((p - 1) / 4))
    if p % 8 = 5 ∧ mul p turned turned = value then some turned else none

/-- The point of a height and the parity of its other coordinate. -/
def lift? (y : Nat) (odd : Bool) : Option Point :=
  let p := curve.prime
  let square := mul p y y
  let top := sub p 1 square
  let bottom := sub p curve.a (mul p curve.d square)
  (root? curve (mul p top (inverse p bottom))).map fun x =>
    ⟨if (x % 2 == 1) == odd then x else neg p x, y % p, 1⟩

/-- An encoded point is its height, least significant octet first, with the parity in the top bit. -/
def heightAndParity (encoded : Bytes) : Nat × Bool :=
  let number := Bytes.toNatLittle encoded
  let top := Nat.pow 2 (8 * encoded.length - 1)
  (number % top, top ≤ number)

def encode (point : Point) : Bytes :=
  let p := curve.prime
  let shrink := inverse p point.z
  let x := mul p point.x shrink
  let y := mul p point.y shrink
  Bytes.ofNatLittle curve.size (y + x % 2 * Nat.pow 2 (8 * curve.size - 1))

end EdwardsCurve

open EdwardsCurve

/-- A height at or above the prime is taken modulo it. The signature's point is compared as it is
written, so it has one form only. -/
def verifyEd25519 (key message signature : Bytes) : Bool :=
  let curve := ed25519
  let written := signature.take 32
  let number := Bytes.toNatLittle (signature.drop 32)
  if signature.length = 64 ∧ number < curve.order then
    let (height, odd) := heightAndParity key
    match lift? curve (height % curve.prime) odd with
    | none => false
    | some point =>
      let challenge := Bytes.toNatLittle (Hash.Sha2.sha512 (written ++ key ++ message)) % curve.order
      encode curve (combine curve number challenge (negate curve point)) = written
  else false

/-- Height below the prime, and no point whose first coordinate is zero. -/
def decodeEd448? (encoded : Bytes) : Option Point :=
  let (height, odd) := heightAndParity encoded
  if height < ed448.prime then
    match lift? ed448 height odd with
    | some point => if point.x = 0 then none else some point
    | none => none
  else none

def ed448Tag : Bytes := Bytes.ofString "SigEd448" ++ [0, 0]

/-- Both sides of the equation are compared up to points of order four. -/
def verifyEd448 (key message signature : Bytes) : Bool :=
  let curve := ed448
  let written := signature.take 57
  let number := Bytes.toNatLittle (signature.drop 57)
  if signature.length = 114 ∧ number < curve.order then
    match decodeEd448? key, decodeEd448? written with
    | some point, some claimed =>
      let challenge :=
        Bytes.toNatLittle (Hash.Shake256.digest 114 (ed448Tag ++ written ++ key ++ message)) % curve.order
      let rest := sum curve (combine curve number challenge (negate curve point)) (negate curve claimed)
      let twice := sum curve rest rest
      let fourfold := sum curve twice twice
      fourfold.x = 0 && fourfold.y = fourfold.z
    | _, _ => false
  else false

end Credential.Signature
