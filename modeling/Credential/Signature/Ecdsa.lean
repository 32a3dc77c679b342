import Credential.Hash
import Credential.Signature.Modular

/-! ECDSA on the three prime curves `y² = x³ - 3x + b`. Points are kept in Jacobian coordinates: `(x, y, z)`
stands for `(x / z², y / z³)`, and for the point at infinity if `z` is zero. -/

namespace Credential.Signature

structure Curve where
  prime : Nat
  constant : Nat
  order : Nat
  baseX : Nat
  baseY : Nat
  /-- Octets of a coordinate, and of each half of a signature. -/
  size : Nat

namespace Curve

def p256 : Curve where
  prime := 0xFFFFFFFF00000001000000000000000000000000FFFFFFFFFFFFFFFFFFFFFFFF
  constant := 0x5AC635D8AA3A93E7B3EBBD55769886BC651D06B0CC53B0F63BCE3C3E27D2604B
  order := 0xFFFFFFFF00000000FFFFFFFFFFFFFFFFBCE6FAADA7179E84F3B9CAC2FC632551
  baseX := 0x6B17D1F2E12C4247F8BCE6E563A440F277037D812DEB33A0F4A13945D898C296
  baseY := 0x4FE342E2FE1A7F9B8EE7EB4A7C0F9E162BCE33576B315ECECBB6406837BF51F5
  size := 32

def p384 : Curve where
  prime := 0xFFFFFFFFFFFFFFFFFFFFFFFFFFFFFFFFFFFFFFFFFFFFFFFFFFFFFFFFFFFFFFFEFFFFFFFF0000000000000000FFFFFFFF
  constant := 0xB3312FA7E23EE7E4988E056BE3F82D19181D9C6EFE8141120314088F5013875AC656398D8A2ED19D2A85C8EDD3EC2AEF
  order := 0xFFFFFFFFFFFFFFFFFFFFFFFFFFFFFFFFFFFFFFFFFFFFFFFFC7634D81F4372DDF581A0DB248B0A77AECEC196ACCC52973
  baseX := 0xAA87CA22BE8B05378EB1C71EF320AD746E1D3B628BA79B9859F741E082542A385502F25DBF55296C3A545E3872760AB7
  baseY := 0x3617DE4A96262C6F5D9E98BF9292DC29F8F41DBD289A147CE9DA3113B5F0B8C00A60B1CE1D7E819D7A431D7C90EA0E5F
  size := 48

def p521 : Curve where
  prime := 0x1FFFFFFFFFFFFFFFFFFFFFFFFFFFFFFFFFFFFFFFFFFFFFFFFFFFFFFFFFFFFFFFFFFFFFFFFFFFFFFFFFFFFFFFFFFFFFFFFFFFFFFFFFFFFFFFFFFFFFFFFFFFFFFFFFF
  constant := 0x51953EB9618E1C9A1F929A21A0B68540EEA2DA725B99B315F3B8B489918EF109E156193951EC7E937B1652C0BD3BB1BF073573DF883D2C34F1EF451FD46B503F00
  order := 0x1FFFFFFFFFFFFFFFFFFFFFFFFFFFFFFFFFFFFFFFFFFFFFFFFFFFFFFFFFFFFFFFFFA51868783BF2F966B7FCC0148F709A5D03BB5C9B8899C47AEBB6FB71E91386409
  baseX := 0xC6858E06B70404E9CD9E3ECB662395B4429C648139053FB521F828AF606B4D3DBAA14B5E77EFE75928FE1DC127A2FFA8DE3348B3C1856A429BF97E7E31C2E5BD66
  baseY := 0x11839296A789A3BC0045C8A5FB42C7D1BD998F54449579B446817AFBD17273E662C97EE72995EF42640C550B9013FAD0761353C7086A272C24088BE94769FD16650
  size := 66

def ofName? (name : String) : Option Curve :=
  if name = "P-256" then some p256
  else if name = "P-384" then some p384
  else if name = "P-521" then some p521
  else none

structure Point where
  x : Nat
  y : Nat
  z : Nat

def infinity : Point := ⟨1, 1, 0⟩

variable (curve : Curve)

def base : Point := ⟨curve.baseX, curve.baseY, 1⟩

def holds (x y : Nat) : Bool :=
  let p := curve.prime
  mul p y y == add p (sub p (mul p (mul p x x) x) (mul p 3 x)) curve.constant

def double (point : Point) : Point :=
  if point.z = 0 ∨ point.y = 0 then infinity
  else
    let p := curve.prime
    let delta := mul p point.z point.z
    let gamma := mul p point.y point.y
    let beta := mul p point.x gamma
    let alpha := mul p 3 (mul p (sub p point.x delta) (add p point.x delta))
    let x := sub p (mul p alpha alpha) (mul p 8 beta)
    let sum := add p point.y point.z
    let z := sub p (sub p (mul p sum sum) gamma) delta
    let y := sub p (mul p alpha (sub p (mul p 4 beta) x)) (mul p 8 (mul p gamma gamma))
    ⟨x, y, z⟩

def sum (first second : Point) : Point :=
  if first.z = 0 then second
  else if second.z = 0 then first
  else
    let p := curve.prime
    let firstZ := mul p first.z first.z
    let secondZ := mul p second.z second.z
    let u := mul p first.x secondZ
    let v := mul p second.x firstZ
    let s := mul p first.y (mul p second.z secondZ)
    let t := mul p second.y (mul p first.z firstZ)
    if u = v then if s = t then double curve first else infinity
    else
      let h := sub p v u
      let r := sub p t s
      let square := mul p h h
      let cube := mul p h square
      let scaled := mul p u square
      let x := sub p (sub p (mul p r r) cube) (mul p 2 scaled)
      let y := sub p (mul p r (sub p scaled x)) (mul p s cube)
      ⟨x, y, mul p h (mul p first.z second.z)⟩

/-- A multiple of the base point plus a multiple of another. -/
def combine (first second : Nat) (point : Point) : Point :=
  sumOfMultiples (double curve) (sum curve) infinity (base curve) point first second

end Curve

structure EcdsaKey where
  curve : Curve
  x : Nat
  y : Nat

namespace EcdsaKey

/-- Coordinates have their full width, and count modulo the prime. -/
def make? (curve : Curve) (x y : Bytes) : Option EcdsaKey :=
  let column := Bytes.toNat x % curve.prime
  let row := Bytes.toNat y % curve.prime
  if x.length = curve.size ∧ y.length = curve.size ∧ curve.holds column row then
    some ⟨curve, column, row⟩
  else none

/-- As many leading bits of the digest as the order has. -/
def digestNumber (curve : Curve) (digest : Bytes) : Nat :=
  Bytes.toNat digest / Nat.pow 2 (8 * digest.length - (curve.order.log2 + 1))

/-- The two halves of a signature are numbers from 1 to below the order. -/
def verify (key : EcdsaKey) (hash : Hash) (message signature : Bytes) : Bool :=
  let curve := key.curve
  let n := curve.order
  let r := Bytes.toNat (signature.take curve.size)
  let s := Bytes.toNat (signature.drop curve.size)
  if signature.length = 2 * curve.size ∧ 0 < r ∧ r < n ∧ 0 < s ∧ s < n then
    let weight := inverse n s
    let point := curve.combine (mul n (digestNumber curve (hash.digest message)) weight)
      (mul n r weight) ⟨key.x, key.y, 1⟩
    let shrink := inverse curve.prime (mul curve.prime point.z point.z)
    point.z ≠ 0 && mul curve.prime point.x shrink % n = r
  else false

end EcdsaKey

end Credential.Signature
