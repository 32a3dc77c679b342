/-! Octet strings as lists, so that every codec is a recursion a proof can follow. A number
is written in a fixed count of octets, most significant first or least significant first. -/

namespace Credential

abbrev Bytes := List UInt8

namespace Bytes

def ofString (text : String) : Bytes := text.toUTF8.data.toList

/-- Succeeds exactly on well-formed UTF-8: no surrogates, no overlong forms. -/
def toString? (bytes : Bytes) : Option String := String.fromUTF8? ⟨bytes.toArray⟩

def toNat (bytes : Bytes) : Nat := bytes.foldl (fun total byte => total * 256 + byte.toNat) 0

def toNatLittle : Bytes → Nat
  | [] => 0
  | byte :: rest => byte.toNat + 256 * toNatLittle rest

def ofNatLittle : Nat → Nat → Bytes
  | 0, _ => []
  | width + 1, number => UInt8.ofNat (number % 256) :: ofNatLittle width (number / 256)

def ofNat (width number : Nat) : Bytes := (ofNatLittle width number).reverse

/-- Exclusive or, as long as the shorter operand. -/
def xor (first second : Bytes) : Bytes := List.zipWith (· ^^^ ·) first second

def blocksWithin (size : Nat) : Nat → Bytes → List Bytes
  | _, [] => []
  | 0, _ => []
  | fuel + 1, bytes => bytes.take size :: blocksWithin size fuel (bytes.drop size)

/-- Pieces of the given size; the last may be shorter. -/
def blocks (size : Nat) (bytes : Bytes) : List Bytes := blocksWithin size bytes.length bytes

/-- The eight octets at the given word, least significant first. -/
def littleWord (bytes : Bytes) (index : Nat) : UInt64 :=
  UInt64.ofNat (toNatLittle ((bytes.drop (8 * index)).take 8))

private theorem ofString_inj_aux {first second : String} (same : ofString first = ofString second) :
    first = second := by
  apply String.toByteArray_inj.1
  have arrays : first.toByteArray.data.toList = second.toByteArray.data.toList := same
  cases one : first.toByteArray
  cases two : second.toByteArray
  simp_all [Array.toList_inj]

theorem ofString_inj {first second : String} : ofString first = ofString second ↔ first = second :=
  ⟨ofString_inj_aux, fun same => same ▸ rfl⟩

theorem toString?_ofString (text : String) : toString? (ofString text) = some text := by
  have valid : text.toByteArray.IsValidUTF8 := text.isValidUTF8
  simp [toString?, ofString, String.fromUTF8?, valid]
  rfl

@[simp] theorem length_ofNatLittle (width number : Nat) : (ofNatLittle width number).length = width := by
  induction width generalizing number with
  | zero => rfl
  | succ width ih => simp [ofNatLittle, ih]

@[simp] theorem length_ofNat (width number : Nat) : (ofNat width number).length = width := by
  simp [ofNat]

end Bytes

end Credential
