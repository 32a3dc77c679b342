import Credential.Text
import Credential.Text.Split

/-! A text of ASCII characters and its octets are the same sequence of numbers, and cutting a text at
a separator undoes joining parts that hold none. -/

namespace Credential

namespace Bytes

theorem ofString_ofList (chars : List Char) :
    ofString (String.ofList chars) = chars.flatMap String.utf8EncodeChar := by
  simp [ofString, List.utf8Encode]

theorem ofString_append (first second : String) : ofString (first ++ second) = ofString first ++ ofString second := by
  simp [ofString, String.toByteArray_append]

private theorem utf8EncodeChar_ascii {c : Char} (plain : c.toNat < 0x80) :
    String.utf8EncodeChar c = [UInt8.ofNat c.toNat] := by
  have small : c.utf8Size = 1 := by
    apply Char.utf8Size_eq_one_iff.2
    apply UInt32.le_iff_toNat_le.2
    exact Nat.le_of_lt_succ plain
  rw [String.utf8EncodeChar_eq_singleton small]
  rfl

theorem ofString_ascii {chars : List Char} (plain : ∀ c ∈ chars, c.toNat < 0x80) :
    ofString (String.ofList chars) = chars.map fun c => UInt8.ofNat c.toNat := by
  rw [ofString_ofList]
  induction chars with
  | nil => rfl
  | cons c rest ih =>
    have first := utf8EncodeChar_ascii (plain c (by simp))
    have later := ih fun other member => plain other (List.mem_cons_of_mem c member)
    rw [List.flatMap_cons, first, later]
    rfl

private theorem toNat_ofNat_ascii {c : Char} (plain : c.toNat < 0x80) : (UInt8.ofNat c.toNat).toNat = c.toNat := by
  rw [UInt8.toNat_ofNat']
  omega

theorem ofString_lt {chars : List Char} (plain : ∀ c ∈ chars, c.toNat < 0x80) :
    ∀ byte ∈ ofString (String.ofList chars), byte < 0x80 := by
  rw [ofString_ascii plain]
  intro byte member
  obtain ⟨c, inside, rfl⟩ := List.mem_map.1 member
  apply UInt8.lt_iff_toNat_lt.2
  rw [toNat_ofNat_ascii (plain c inside)]
  exact plain c inside

theorem chars_ofString {chars : List Char} (plain : ∀ c ∈ chars, c.toNat < 0x80) :
    (ofString (String.ofList chars)).map (fun byte => Char.ofNat byte.toNat) = chars := by
  rw [ofString_ascii plain, List.map_map]
  apply (List.map_congr_left _).trans (List.map_id chars)
  intro c member
  simp only [Function.comp_apply, toNat_ofNat_ascii (plain c member), Char.ofNat_toNat]
  rfl

private theorem toNat_char {byte : UInt8} (plain : byte < 0x80) : (Char.ofNat byte.toNat).toNat = byte.toNat := by
  have small : byte.toNat < 0x80 := UInt8.lt_iff_toNat_lt.1 plain
  have valid : byte.toNat.isValidChar := .inl (by omega)
  rw [Char.ofNat, dif_pos valid]
  rfl

theorem chars_ascii {bytes : Bytes} (plain : ∀ byte ∈ bytes, byte < 0x80) :
    ∀ c ∈ bytes.map (fun byte => Char.ofNat byte.toNat), c.toNat < 0x80 := by
  intro c member
  obtain ⟨byte, inside, rfl⟩ := List.mem_map.1 member
  rw [toNat_char (plain byte inside)]
  exact UInt8.lt_iff_toNat_lt.1 (plain byte inside)

theorem ofString_chars {bytes : Bytes} (plain : ∀ byte ∈ bytes, byte < 0x80) :
    ofString (String.ofList (bytes.map fun byte => Char.ofNat byte.toNat)) = bytes := by
  rw [ofString_ascii (chars_ascii plain), List.map_map]
  apply (List.map_congr_left _).trans (List.map_id bytes)
  intro byte member
  simp only [Function.comp_apply, toNat_char (plain byte member), UInt8.ofNat_toNat]
  rfl

end Bytes

namespace Text

theorem split_clear {separator : Char} {part : List Char} (clear : separator ∉ part) :
    split separator part = [part] := by
  induction part with
  | nil => rfl
  | cons c rest ih =>
    have here := List.ne_of_not_mem_cons clear
    have later := List.not_mem_of_not_mem_cons clear
    rw [split, if_neg (Ne.symm here), ih later]

theorem split_append {separator : Char} {part : List Char} (clear : separator ∉ part) (rest : List Char) :
    split separator (part ++ separator :: rest) = part :: split separator rest := by
  induction part with
  | nil => simp [split]
  | cons c more ih =>
    have here := List.ne_of_not_mem_cons clear
    have later := List.not_mem_of_not_mem_cons clear
    rw [List.cons_append, split, if_neg (Ne.symm here), ih later]

end Text

end Credential
