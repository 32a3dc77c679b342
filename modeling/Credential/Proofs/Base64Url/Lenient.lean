import Credential.Base64Url.Lenient
import Credential.Proofs.Base64Url
import Credential.Proofs.Text.Ascii

/-! The forgiving reading of a key member gives what was written: the padding added for a written form
completes its last group, and nothing in it is passed over. -/

namespace Credential.Base64Url.Lenient

private def octet (c : Char) : UInt8 := UInt8.ofNat c.toNat

private theorem octet_symbol {value : Nat} (small : value < 64) :
    octet (symbol value) ≠ 0x3D ∧ value? (octet (symbol value)) = some value := by
  have every : ∀ value : Fin 64, octet (symbol value) ≠ 0x3D ∧ value? (octet (symbol value)) = some value.val := by
    decide
  exact every ⟨value, small⟩

private theorem octet_eq {number : Nat} {byte : UInt8} (same : number = byte.toNat) : UInt8.ofNat number = byte := by
  rw [same, UInt8.ofNat_toNat]

section Groups

variable {value left pads : Nat} {rest : Bytes}

private theorem scan_first (small : value < 64) :
    scan 0 left pads (octet (symbol value) :: rest) = scan 1 value 0 rest := by
  obtain ⟨unpadded, read⟩ := octet_symbol small
  rw [scan, if_neg unpadded]
  simp only [read]

private theorem scan_second (small : value < 64) : scan 1 left pads (octet (symbol value) :: rest) =
    (scan 2 (value % 16) 0 rest).map (UInt8.ofNat (left * 4 + value / 16) :: ·) := by
  obtain ⟨unpadded, read⟩ := octet_symbol small
  rw [scan, if_neg unpadded]
  simp only [read]

private theorem scan_third (small : value < 64) : scan 2 left pads (octet (symbol value) :: rest) =
    (scan 3 (value % 4) 0 rest).map (UInt8.ofNat (left * 16 + value / 4) :: ·) := by
  obtain ⟨unpadded, read⟩ := octet_symbol small
  rw [scan, if_neg unpadded]
  simp only [read]

private theorem scan_fourth (small : value < 64) : scan 3 left pads (octet (symbol value) :: rest) =
    (scan 0 0 0 rest).map (UInt8.ofNat (left * 64 + value) :: ·) := by
  obtain ⟨unpadded, read⟩ := octet_symbol small
  rw [scan, if_neg unpadded]
  simp only [read]

end Groups

/-- The padding that completes the last group of a text of this length. -/
private def padding (length : Nat) : Bytes := List.replicate ((4 - length % 4) % 4) 0x3D

private theorem scan_encode (bytes : Bytes) :
    scan 0 0 0 ((encode bytes).map octet ++ padding (encode bytes).length) = some bytes := by
  fun_induction encode bytes with
  | case1 a b c rest ih =>
    have first := a.toNat_lt
    have second := b.toNat_lt
    have third := c.toNat_lt
    have same : padding ((encode rest).length + 1 + 1 + 1 + 1) = padding (encode rest).length := by
      have cycle : ((encode rest).length + 1 + 1 + 1 + 1) % 4 = (encode rest).length % 4 := by omega
      rw [padding, padding, cycle]
    simp only [List.map_cons, List.cons_append, List.length_cons, same]
    rw [scan_first (by omega), scan_second (by omega), scan_third (by omega), scan_fourth (by omega), ih]
    simp only [Option.map_some, Option.some.injEq, List.cons.injEq, and_true]
    exact ⟨octet_eq (by omega), octet_eq (by omega), octet_eq (by omega)⟩
  | case2 a b =>
    have first := a.toNat_lt
    have second := b.toNat_lt
    have single : padding 3 = [0x3D] := rfl
    have closed : ∀ left, scan 3 left 0 [0x3D] = some [] := fun _ => rfl
    simp only [List.map_cons, List.map_nil, List.cons_append, List.nil_append, List.length_cons, List.length_nil]
    rw [scan_first (by omega), scan_second (by omega), scan_third (by omega), single, closed]
    simp only [Option.map_some, Option.some.injEq, List.cons.injEq, and_true]
    exact ⟨octet_eq (by omega), octet_eq (by omega)⟩
  | case3 a =>
    have first := a.toNat_lt
    have double : padding 2 = [0x3D, 0x3D] := rfl
    have closed : ∀ left, scan 2 left 0 [0x3D, 0x3D] = some [] := fun _ => rfl
    simp only [List.map_cons, List.map_nil, List.cons_append, List.nil_append, List.length_cons, List.length_nil]
    rw [scan_first (by omega), scan_second (by omega), double, closed]
    simp only [Option.map_some, Option.some.injEq, List.cons.injEq, and_true]
    exact octet_eq (by omega)
  | case4 => rfl

theorem decode?_encode (bytes : Bytes) : decode? (Bytes.ofString (String.ofList (encode bytes))) = some bytes := by
  have plain := fun c member => (encode_plain bytes c member).1
  have written : Bytes.ofString (String.ofList (encode bytes)) = (encode bytes).map octet := Bytes.ofString_ascii plain
  rw [decode?, written, List.length_map]
  exact scan_encode bytes

end Credential.Base64Url.Lenient
