import Credential.Challenge
import Credential.Proofs.Text.Letters

/-! Thirty-two octets written in hexadecimal are read back, and what is read is what was written up to letter case. The
digests of an attempt have that length, so the pair an issuer claims for one is the pair that was derived for it. -/

namespace Credential

namespace Hex

open Text

variable {c : Char} {value : Nat}

theorem value?_ascii (read : value? c = some value) : c.toNat < 0x80 := by
  unfold value? at read
  split at read
  next digit => exact Nat.lt_of_le_of_lt (UInt32.le_iff_toNat_le.1 digit.2) (by decide)
  · split at read
    next lower => exact Nat.lt_of_le_of_lt (UInt32.le_iff_toNat_le.1 lower.2) (by decide)
    · split at read
      next capital => exact Nat.lt_of_le_of_lt (UInt32.le_iff_toNat_le.1 capital.2) (by decide)
      · cases read

/-- A digit is written back in lower case. -/
theorem digit_value? (read : value? c = some value) : value < 16 ∧ digit value = c.toLower := by
  have every : (value? c).all (fun value => decide (value < 16 ∧ digit value = c.toLower)) = true := by
    apply forall_ascii (motive := fun c => (value? c).all (fun value => decide (value < 16 ∧ digit value = c.toLower)) = true)
    · decide
    · exact value?_ascii read
  rw [read] at every
  exact of_decide_eq_true every

theorem value?_toLower (c : Char) : value? c.toLower = value? c := toLower_congr (by decide) c

end Hex

namespace Hex32

theorem length_digits (bytes : Bytes) : (digits bytes).length = 2 * bytes.length := by
  induction bytes with
  | nil => rfl
  | cons byte rest ih =>
    have later : (List.flatMap (fun byte : UInt8 => [Hex.digit (byte.toNat / 16), Hex.digit (byte.toNat % 16)])
      rest).length = 2 * rest.length := ih
    rw [digits, List.flatMap_cons, List.length_append, later, List.length_cons, List.length_cons, List.length_cons,
      List.length_nil]
    omega

theorem ofDigits?_digits (bytes : Bytes) : ofDigits? (digits bytes) = some bytes := by
  induction bytes with
  | nil => rfl
  | cons byte rest ih =>
    have small := byte.toNat_lt
    have high := Hex.value?_digit (show byte.toNat / 16 < 16 by omega)
    have low := Hex.value?_digit (show byte.toNat % 16 < 16 by omega)
    have whole : byte.toNat / 16 * 16 + byte.toNat % 16 = byte.toNat := by omega
    have first : digits (byte :: rest) =
        Hex.digit (byte.toNat / 16) :: Hex.digit (byte.toNat % 16) :: digits rest := rfl
    rw [first, ofDigits?, ih, high, low]
    simp only [Option.bind_eq_bind, Option.bind_some, whole, UInt8.ofNat_toNat]

theorem parse?_render {bytes : Bytes} (size : bytes.length = 32) : parse? (render bytes) = some bytes := by
  have long : (digits bytes).length = 64 := by
    rw [length_digits, size]
  rw [render, parse?, if_pos long, ofDigits?_digits]

theorem ofDigits?_toLower (text : List Char) : ofDigits? (text.map Char.toLower) = ofDigits? text := by
  induction text using ofDigits?.induct with
  | case1 => rfl
  | case2 => rfl
  | case3 high low rest ih => simp only [List.map_cons, ofDigits?, ih, Hex.value?_toLower]

theorem ofDigits?_eq_some {text : List Char} {bytes : Bytes} (read : ofDigits? text = some bytes) :
    (∀ c ∈ text, Hex.isDigit c = true) ∧ digits bytes = text.map Char.toLower := by
  induction text using ofDigits?.induct generalizing bytes with
  | case1 =>
    cases read
    exact ⟨by simp, rfl⟩
  | case2 => cases read
  | case3 high low rest ih =>
    simp only [ofDigits?, Option.bind_eq_bind, Option.bind_eq_some_iff, Option.some.injEq] at read
    obtain ⟨later, read, upper, first, lower, second, rfl⟩ := read
    obtain ⟨valid, same⟩ := ih read
    obtain ⟨small, firstly⟩ := Hex.digit_value? first
    obtain ⟨smallToo, secondly⟩ := Hex.digit_value? second
    have octet : (UInt8.ofNat (upper * 16 + lower)).toNat = upper * 16 + lower := UInt8.toNat_ofNat_of_lt (by
      rw [UInt8.size]
      omega)
    refine ⟨?_, ?_⟩
    · rw [List.forall_mem_cons, List.forall_mem_cons]
      exact ⟨Option.isSome_iff_exists.2 ⟨_, first⟩, Option.isSome_iff_exists.2 ⟨_, second⟩, valid⟩
    · have front : (upper * 16 + lower) / 16 = upper := by omega
      have back : (upper * 16 + lower) % 16 = lower := by omega
      rw [List.map_cons, List.map_cons, ← firstly, ← secondly, ← same]
      simp only [digits, List.flatMap_cons, octet, front, back]
      rfl

theorem exists_ofDigits? {text : List Char} (even : 2 ∣ text.length) (valid : ∀ c ∈ text, Hex.isDigit c = true) :
    ∃ bytes, ofDigits? text = some bytes := by
  induction text using ofDigits?.induct with
  | case1 => exact ⟨[], rfl⟩
  | case2 =>
    rw [List.length_singleton] at even
    omega
  | case3 high low rest ih =>
    rw [List.forall_mem_cons, List.forall_mem_cons] at valid
    obtain ⟨first, second, valid⟩ := valid
    obtain ⟨upper, first⟩ := Option.isSome_iff_exists.1 first
    obtain ⟨lower, second⟩ := Option.isSome_iff_exists.1 second
    rw [List.length_cons, List.length_cons] at even
    obtain ⟨bytes, read⟩ := ih (by omega) valid
    refine ⟨UInt8.ofNat (upper * 16 + lower) :: bytes, ?_⟩
    rw [ofDigits?, read, first, second]
    rfl

/-- The form of thirty-two octets: `0x`, and 64 digits in any letter case. -/
def Spelled (text : List Char) : Prop :=
  ∃ symbols, text = '0' :: 'x' :: symbols ∧ symbols.length = 64 ∧ ∀ c ∈ symbols, Hex.isDigit c = true

section Spelled

variable {text : List Char} {bytes : Bytes}

theorem parse?_eq_some_iff : parse? text = some bytes ↔ Spelled text ∧ render bytes = text.map Char.toLower := by
  constructor
  · intro read
    unfold parse? at read
    split at read
    next symbols =>
      split at read
      next long =>
        obtain ⟨valid, same⟩ := ofDigits?_eq_some read
        exact ⟨⟨symbols, rfl, long, valid⟩, congrArg ('0' :: 'x' :: ·) same⟩
      · cases read
    · cases read
  · rintro ⟨⟨symbols, rfl, long, -⟩, same⟩
    have lowered : digits bytes = symbols.map Char.toLower := (List.cons.inj (List.cons.inj same).2).2
    rw [parse?, if_pos long, ← ofDigits?_toLower, ← lowered, ofDigits?_digits]

theorem spelled_iff : Spelled text ↔ ∃ bytes, parse? text = some bytes := by
  constructor
  · rintro ⟨symbols, rfl, long, valid⟩
    obtain ⟨bytes, read⟩ := exists_ofDigits? (by rw [long]; decide) valid
    exact ⟨bytes, (if_pos long).trans read⟩
  · rintro ⟨bytes, read⟩
    exact (parse?_eq_some_iff.1 read).1

theorem Spelled.length_eq (spelled : Spelled text) (same : render bytes = text.map Char.toLower) : bytes.length = 32 := by
  obtain ⟨symbols, rfl, long, -⟩ := spelled
  have sizes := congrArg List.length same
  rw [List.length_map, render, List.length_cons, List.length_cons, List.length_cons, List.length_cons, length_digits,
    long] at sizes
  omega

end Spelled

end Hex32

namespace ChallengePair

theorem hex32_eq_ok_iff {given : Json String} {bytes : Bytes} : hex32 given = .ok bytes ↔
    ∃ text, given = .string text ∧ Hex32.Spelled text.toList ∧ Hex32.render bytes = text.toList.map Char.toLower := by
  cases given with
  | string text =>
    simp only [hex32, Json.string.injEq, exists_eq_left', ← Hex32.parse?_eq_some_iff]
    cases Hex32.parse? text.toList <;> simp
  | _ => simp [hex32]

theorem hex32_render {bytes : Bytes} (size : bytes.length = 32) :
    hex32 (.string (String.ofList (Hex32.render bytes))) = .ok bytes := by
  simp only [hex32, String.toList_ofList, Hex32.parse?_render size]

theorem ofClaim_toClaim {pair : ChallengePair} (challenge : pair.challenge.length = 32)
    (context : pair.context.length = 32) : ofClaim pair.toClaim = .ok pair := by
  have first := hex32_render challenge
  have second := hex32_render context
  simp only [toClaim, ofClaim, Assoc.get?, if_true, Option.getD_some, first, String.reduceEq, if_false, second]
  rfl

end ChallengePair

namespace Intrinsic

theorem length_digest (message : Bytes) : (digest message).length = 32 := by
  rw [digest, Hash.Blake2b.length_digest]
  rfl

theorem length_challenge (intrinsic : Intrinsic) : intrinsic.derive.challenge.length = 32 := by
  rw [derive, length_digest]

theorem length_context (intrinsic : Intrinsic) : intrinsic.derive.context.length = 32 := by
  rw [derive, length_digest]

theorem ofClaim_derive (intrinsic : Intrinsic) :
    ChallengePair.ofClaim intrinsic.derive.toClaim = .ok intrinsic.derive := by
  apply ChallengePair.ofClaim_toClaim
  · exact length_challenge intrinsic
  · exact length_context intrinsic

end Intrinsic

end Credential
