import Mathlib.Data.List.Basic
import Mathlib.Data.Nat.Bitwise
import Credential.Proofs.Base58
import Credential.Ss58

/-! Which texts are addresses of accounts, and which account each is an address of. The octets of a network come first,
one or two as their first bits say, so where the account starts is known before anything else is; the checksum ties
the three together. Two octets can also write a network that one octet writes, and such an address is read too. -/

namespace Credential.Ss58

/-- Octets that name a network: one below 64; or two, where the first has bits 2 to 7 of the network under a marking
bit, and the second has bits 0 and 1 above bits 8 to 13. -/
inductive Names : Bytes → Nat → Prop
  | short {first : UInt8} (small : first < 64) : Names [first] first.toNat
  | long {first : UInt8} (marked : 64 ≤ first) (below : first < 128) (second : UInt8) :
      Names [first, second]
        ((first.toNat &&& 0x3F) <<< 2 ||| second.toNat >>> 6 ||| (second.toNat &&& 0x3F) <<< 8)

/-- The bits of a network in two octets lie apart, so that they add up. -/
private theorem bits_eq (first second : UInt8) :
    (first.toNat &&& 0x3F) <<< 2 ||| second.toNat >>> 6 ||| (second.toNat &&& 0x3F) <<< 8 =
      first.toNat % 64 * 4 + second.toNat / 64 + second.toNat % 64 * 256 := by
  have size := second.toNat_lt
  have high : first.toNat &&& 0x3F = first.toNat % 64 := Nat.and_two_pow_sub_one_eq_mod first.toNat 6
  have low : second.toNat &&& 0x3F = second.toNat % 64 := Nat.and_two_pow_sub_one_eq_mod second.toNat 6
  have top : second.toNat >>> 6 = second.toNat / 64 := Nat.shiftRight_eq_div_pow second.toNat 6
  have inner := Nat.two_pow_add_eq_or_of_lt (i := 2) (b := second.toNat / 64) (by omega) (first.toNat % 64)
  have outer := Nat.two_pow_add_eq_or_of_lt (i := 8) (b := first.toNat % 64 * 4 + second.toNat / 64) (by omega)
    (second.toNat % 64)
  rw [high, low, top, Nat.shiftLeft_eq, Nat.shiftLeft_eq, Nat.mul_comm _ (2 ^ 2), Nat.mul_comm _ (2 ^ 8), ← inner,
    Nat.or_comm, Nat.mul_comm (2 ^ 2), ← outer]
  omega

section Network

variable {front rest octets : Bytes} {number : Nat}

theorem Names.length_eq (names : Names front number) : front.length = 1 ∨ front.length = 2 := by
  cases names with
  | short => exact .inl rfl
  | long => exact .inr rfl

theorem network_of_names (names : Names front number) (long : 2 ≤ (front ++ rest).length) :
    network (front ++ rest) = .ok (number, front.length) := by
  cases names with
  | short small =>
    cases rest with
    | nil => simp at long
    | cons second more => exact if_pos small
  | long marked below second =>
    have large : ¬_ < (64 : UInt8) := UInt8.not_lt.2 marked
    rw [bits_eq]
    exact (if_neg large).trans (if_pos below)

theorem named_or_reserved (long : 2 ≤ octets.length) :
    (∃ front rest number, Names front number ∧ octets = front ++ rest) ∨
      ∃ first rest, 128 ≤ first ∧ octets = first :: rest := by
  match octets, long with
  | first :: second :: rest, _ =>
    by_cases small : first < 64
    · exact .inl ⟨[first], second :: rest, _, .short small, rfl⟩
    · by_cases below : first < 128
      · exact .inl ⟨[first, second], rest, _, .long (UInt8.not_lt.1 small) below second, rfl⟩
      · exact .inr ⟨first, second :: rest, UInt8.not_lt.1 below, rfl⟩

theorem network_of_reserved {first : UInt8} (reserved : 128 ≤ first) (long : 1 ≤ rest.length) :
    network (first :: rest) = .error (.reservedPrefix first.toNat) := by
  have large : ¬first < 128 := UInt8.not_lt.2 reserved
  have larger : ¬first < 64 := by
    intro small
    apply large
    exact UInt8.lt_trans small (by decide)
  cases rest with
  | nil => simp at long
  | cons second more => exact (if_neg larger).trans (if_neg large)

end Network

theorem length_checksum (body : Bytes) : (checksum body).length = 2 := by
  rw [checksum, List.length_take, Hash.Blake2b.length_digest]
  rfl

/-- Why octets are not those of an address, the first reason before the others. -/
inductive Refuses : Bytes → Fault → Prop
  | tooShort {octets : Bytes} (short : octets.length < 35) : Refuses octets .tooShort
  | reservedPrefix {first : UInt8} {rest : Bytes} (long : 34 ≤ rest.length) (reserved : 128 ≤ first) :
      Refuses (first :: rest) (.reservedPrefix first.toNat)
  | unexpectedLength {front rest : Bytes} {number : Nat} (names : Names front number)
      (long : 35 ≤ (front ++ rest).length) (other : rest.length ≠ 34) :
      Refuses (front ++ rest) (.unexpectedLength (front ++ rest).length)
  | checksumMismatch {front account tail : Bytes} {number : Nat} (names : Names front number)
      (sized : account.length = 32) (two : tail.length = 2) (differs : tail ≠ checksum (front ++ account)) :
      Refuses (front ++ account ++ tail) .checksumMismatch

inductive Refused (address : String) : Fault → Prop
  | notBase58 (foreign : address = "" ∨ ∃ c ∈ address.toList, c ∉ Base58.alphabet) : Refused address .notBase58
  | spelled {octets : Bytes} {fault : Fault} (given : octets ≠ []) (spells : Base58.Spells address.toList octets)
      (refuses : Refuses octets fault) : Refused address fault

section Decode

variable {address : String} {front account rest octets : Bytes} {number : Nat}

private theorem decode_of_short (spells : Base58.Spells address.toList octets) (given : octets ≠ [])
    (short : octets.length < 35) : decode address = .error .tooShort := by
  obtain ⟨first, rest, rfl⟩ := List.exists_cons_of_ne_nil given
  rw [decode, Base58.decode?_eq_some_iff.2 spells]
  exact if_pos short

private theorem decode_of_reserved {first : UInt8} (spells : Base58.Spells address.toList (first :: rest))
    (long : 34 ≤ rest.length) (reserved : 128 ≤ first) : decode address = .error (.reservedPrefix first.toNat) := by
  have enough : ¬(first :: rest).length < 1 + accountLength + 2 := by
    rw [List.length_cons, accountLength]
    omega
  rw [decode, Base58.decode?_eq_some_iff.2 spells]
  refine (if_neg enough).trans ?_
  rw [network_of_reserved reserved (by omega)]
  rfl

private theorem decode_of_names (spells : Base58.Spells address.toList (front ++ rest))
    (long : 35 ≤ (front ++ rest).length) (names : Names front number) :
    decode address =
      if rest.length ≠ 34 then .error (.unexpectedLength (front ++ rest).length)
      else if rest.drop 32 ≠ checksum (front ++ rest.take 32) then .error .checksumMismatch
      else .ok ⟨address, rest.take 32, number⟩ := by
  have enough : ¬(front ++ rest).length < 1 + accountLength + 2 := by
    rw [accountLength]
    omega
  have given : front ++ rest ≠ [] := List.ne_nil_of_length_pos (by omega)
  obtain ⟨first, more, same⟩ := List.exists_cons_of_ne_nil given
  rw [decode, Base58.decode?_eq_some_iff.2 spells, same]
  refine (if_neg (same ▸ enough)).trans ?_
  rw [← same, network_of_names names (by omega)]
  by_cases sized : rest.length = 34
  · have width : (front ++ rest).length = front.length + accountLength + 2 := by
      rw [List.length_append, sized, accountLength]
    have before : (front ++ rest).take ((front ++ rest).length - 2) = front ++ rest.take 32 := by
      rw [width, Nat.add_sub_cancel, List.take_length_add_append]
      rfl
    have after : (front ++ rest).drop ((front ++ rest).length - 2) = rest.drop 32 := by
      rw [width, Nat.add_sub_cancel, List.drop_length_add_append]
      rfl
    rw [if_neg (not_not_intro sized)]
    refine (if_neg (not_not_intro width)).trans ?_
    rw [before, after, List.drop_left]
  · have width : (front ++ rest).length ≠ front.length + accountLength + 2 := by
      rw [List.length_append, accountLength]
      omega
    rw [if_pos sized]
    exact if_pos width

private theorem decode_of_parts {tail : Bytes} (spells : Base58.Spells address.toList (front ++ account ++ tail))
    (names : Names front number) (sized : account.length = 32) (two : tail.length = 2) :
    decode address =
      if tail ≠ checksum (front ++ account) then .error .checksumMismatch else .ok ⟨address, account, number⟩ := by
  have size : (account ++ tail).length = 34 := by
    rw [List.length_append, sized, two]
  have long : 35 ≤ (front ++ (account ++ tail)).length := by
    have width := names.length_eq
    rw [List.length_append, size]
    omega
  rw [List.append_assoc] at spells
  rw [decode_of_names spells long names, if_neg (not_not_intro size), List.take_left' sized, List.drop_left' sized]

/-- A key under its address: octets that name its network, its account, and the checksum of both, in base58. -/
structure Addressed (key : SessionKey) : Prop where
  sized : key.publicKey.length = 32
  spelled : ∃ front, Names front key.network ∧
    Base58.Spells key.address.toList (front ++ key.publicKey ++ checksum (front ++ key.publicKey))

theorem Addressed.decode {key : SessionKey} (addressed : Addressed key) : decode key.address = .ok key := by
  obtain ⟨front, names, spells⟩ := addressed.spelled
  rw [decode_of_parts spells names addressed.sized (length_checksum _), if_neg (not_not_intro rfl)]

theorem Refuses.decode {fault : Fault} (refuses : Refuses octets fault) (spells : Base58.Spells address.toList octets)
    (given : octets ≠ []) : decode address = .error fault := by
  cases refuses with
  | tooShort short => exact decode_of_short spells given short
  | reservedPrefix long reserved => exact decode_of_reserved spells long reserved
  | unexpectedLength names long other =>
    rw [decode_of_names spells long names]
    exact if_pos other
  | checksumMismatch names sized two differs =>
    rw [decode_of_parts spells names sized two]
    exact if_pos differs

theorem Refused.decode {fault : Fault} (refused : Refused address fault) : decode address = .error fault := by
  cases refused with
  | notBase58 foreign =>
    rcases foreign with rfl | foreign
    · have unwritten : Base58.decode? "".toList = some [] := Base58.decode?_eq_some_iff.2 Base58.spells_nil
      rw [Ss58.decode, unwritten]
    · rw [Ss58.decode, Base58.decode?_eq_none_iff.2 foreign]
  | spelled given spells refuses => exact refuses.decode spells given

private theorem addressed_or_refuses (spells : Base58.Spells address.toList octets) (given : octets ≠ []) :
    (∃ key, key.address = address ∧ Addressed key) ∨ ∃ fault, Refuses octets fault := by
  by_cases short : octets.length < 35
  · exact .inr ⟨_, .tooShort short⟩
  have long : 2 ≤ octets.length := by omega
  rcases named_or_reserved long with ⟨front, rest, number, names, rfl⟩ | ⟨first, rest, reserved, rfl⟩
  · by_cases size : rest.length = 34
    · have sized : (rest.take 32).length = 32 := by
        rw [List.length_take, size]
        rfl
      have two : (rest.drop 32).length = 2 := by
        rw [List.length_drop, size]
      rw [← List.take_append_drop 32 rest, ← List.append_assoc] at spells ⊢
      by_cases same : rest.drop 32 = checksum (front ++ rest.take 32)
      · exact .inl ⟨⟨address, rest.take 32, number⟩, rfl, sized, front, names, same ▸ spells⟩
      · exact .inr ⟨_, .checksumMismatch names sized two same⟩
    · exact .inr ⟨_, .unexpectedLength names (by omega) size⟩
  · rw [List.length_cons] at short
    exact .inr ⟨_, .reservedPrefix (by omega) reserved⟩

theorem addressed_or_refused (address : String) :
    (∃ key, key.address = address ∧ Addressed key) ∨ ∃ fault, Refused address fault := by
  cases read : Base58.decode? address.toList with
  | none => exact .inr ⟨_, .notBase58 (.inr (Base58.decode?_eq_none_iff.1 read))⟩
  | some octets =>
    have spells := Base58.decode?_eq_some_iff.1 read
    by_cases empty : octets = []
    · exact .inr ⟨_, .notBase58 (.inl (String.toList_eq_nil_iff.1 (spells.nil_iff.1 empty)))⟩
    · rcases addressed_or_refuses spells empty with addressed | ⟨fault, refuses⟩
      · exact .inl addressed
      · exact .inr ⟨fault, .spelled empty spells refuses⟩

theorem decode_ok_iff {key : SessionKey} : decode address = .ok key ↔ key.address = address ∧ Addressed key := by
  constructor
  · intro decoded
    rcases addressed_or_refused address with ⟨other, rfl, addressed⟩ | ⟨fault, refused⟩
    · rw [addressed.decode] at decoded
      cases decoded
      exact ⟨rfl, addressed⟩
    · rw [refused.decode] at decoded
      cases decoded
  · rintro ⟨rfl, addressed⟩
    exact addressed.decode

theorem decode_error_iff {fault : Fault} : decode address = .error fault ↔ Refused address fault := by
  constructor
  · intro failed
    rcases addressed_or_refused address with ⟨key, rfl, addressed⟩ | ⟨other, refused⟩
    · rw [addressed.decode] at failed
      cases failed
    · rw [refused.decode] at failed
      cases failed
      exact refused
  · exact Refused.decode

end Decode

section Networks

variable {front : Bytes} {number : Nat}

def twoOctets (number : Nat) : Bytes :=
  [UInt8.ofNat (64 + number / 4 % 64), UInt8.ofNat (number % 4 * 64 + number / 256)]

theorem names_twoOctets (within : number < 16384) : Names (twoOctets number) number := by
  have first : (UInt8.ofNat (64 + number / 4 % 64)).toNat = 64 + number / 4 % 64 := by
    apply UInt8.toNat_ofNat_of_lt
    rw [UInt8.size]
    omega
  have second : (UInt8.ofNat (number % 4 * 64 + number / 256)).toNat = number % 4 * 64 + number / 256 := by
    apply UInt8.toNat_ofNat_of_lt
    rw [UInt8.size]
    omega
  have marked : 64 ≤ UInt8.ofNat (64 + number / 4 % 64) := by
    rw [UInt8.le_iff_toNat_le, first]
    exact Nat.le_add_right 64 _
  have below : UInt8.ofNat (64 + number / 4 % 64) < 128 := by
    rw [UInt8.lt_iff_toNat_lt, first]
    change _ < 128
    omega
  have names := Names.long marked below (UInt8.ofNat (number % 4 * 64 + number / 256))
  rw [bits_eq, first, second] at names
  have high : (64 + number / 4 % 64) % 64 = number / 4 % 64 := by omega
  have low : (number % 4 * 64 + number / 256) / 64 = number % 4 := by omega
  have top : (number % 4 * 64 + number / 256) % 64 = number / 256 := by omega
  have same : number / 4 % 64 * 4 + number % 4 + number / 256 * 256 = number := by omega
  rw [high, low, top, same] at names
  exact names

theorem names_networkBytes (within : number < 16384) : Names (networkBytes number) number := by
  by_cases small : number < 64
  · have octet : (UInt8.ofNat number).toNat = number := by
      apply UInt8.toNat_ofNat_of_lt
      rw [UInt8.size]
      omega
    have below : UInt8.ofNat number < 64 := UInt8.lt_iff_toNat_lt.2 (octet.symm ▸ small)
    have names := Names.short below
    rw [octet] at names
    rw [networkBytes, if_pos small]
    exact names
  · rw [networkBytes, if_neg small]
    exact names_twoOctets within

private theorem apart {a b c : Nat} (high : a < 64) (low : b < 4) (top : c < 64) :
    a * 4 + b + c * 256 < 16384 ∧ (a * 4 + b + c * 256) / 4 % 64 = a ∧ (a * 4 + b + c * 256) % 4 = b ∧
      (a * 4 + b + c * 256) / 256 = c := by
  omega

/-- Each network is named by the octets it is written in, and one below 64 by two octets more. -/
theorem names_iff : Names front number ↔
    number < 16384 ∧ (front = networkBytes number ∨ number < 64 ∧ front = twoOctets number) := by
  constructor
  · intro names
    cases names with
    | @short first small =>
      have bound : first.toNat < 64 := UInt8.lt_iff_toNat_lt.1 small
      refine ⟨by omega, .inl ?_⟩
      rw [networkBytes, if_pos bound, UInt8.ofNat_toNat]
    | @long first marked below second =>
      have least : 64 ≤ first.toNat := UInt8.le_iff_toNat_le.1 marked
      have most : first.toNat < 128 := UInt8.lt_iff_toNat_lt.1 below
      have size := second.toNat_lt
      have upper : 64 + first.toNat % 64 = first.toNat := by omega
      have lower : second.toNat / 64 * 64 + second.toNat % 64 = second.toNat := by omega
      obtain ⟨within, high, low, top⟩ := apart (a := first.toNat % 64) (b := second.toNat / 64) (c := second.toNat % 64)
        (by omega) (by omega) (by omega)
      rw [bits_eq]
      generalize first.toNat % 64 * 4 + second.toNat / 64 + second.toNat % 64 * 256 = number at within high low top
      have same : twoOctets number = [first, second] := by
        rw [twoOctets, high, low, top, upper, lower, UInt8.ofNat_toNat, UInt8.ofNat_toNat]
      refine ⟨within, ?_⟩
      by_cases small : number < 64
      · exact .inr ⟨small, same.symm⟩
      · left
        rw [networkBytes, if_neg small]
        exact same.symm
  · rintro ⟨within, rfl | ⟨-, rfl⟩⟩
    · exact names_networkBytes within
    · exact names_twoOctets within

end Networks

section Written

variable {address : String} {front account : Bytes} {number : Nat} {key : SessionKey}

def write (front account : Bytes) : String :=
  String.ofList (Base58.encode (front ++ account ++ checksum (front ++ account)))

theorem eq_write_iff :
    address = write front account ↔ Base58.Spells address.toList (front ++ account ++ checksum (front ++ account)) := by
  rw [← Base58.eq_encode_iff, write, ← String.toList_inj, String.toList_ofList]

theorem addressed_iff : Addressed key ↔ key.publicKey.length = 32 ∧ key.network < 16384 ∧
    (key.address = encode key.network key.publicKey ∨
      key.network < 64 ∧ key.address = write (twoOctets key.network) key.publicKey) := by
  constructor
  · rintro ⟨sized, front, names, spells⟩
    obtain ⟨within, rfl | ⟨small, rfl⟩⟩ := names_iff.1 names
    · exact ⟨sized, within, .inl (eq_write_iff.2 spells)⟩
    · exact ⟨sized, within, .inr ⟨small, eq_write_iff.2 spells⟩⟩
  · rintro ⟨sized, within, plain | ⟨-, doubled⟩⟩
    · exact ⟨sized, _, names_networkBytes within, eq_write_iff.1 plain⟩
    · exact ⟨sized, _, names_twoOctets within, eq_write_iff.1 doubled⟩

/-- Addresses are read exactly if they are written as addresses are, every other text is refused for the first reason
there is, and what is written for a network and an account is read as both. -/
theorem decode_exactly_addresses (address : String) :
    (∀ key, decode address = .ok key ↔ key.address = address ∧ Addressed key) ∧
    (∀ fault, decode address = .error fault ↔ Refused address fault) ∧
    (∀ number account, number < 16384 → account.length = 32 →
      decode (encode number account) = .ok ⟨encode number account, account, number⟩) := by
  refine ⟨fun _ => decode_ok_iff, fun _ => decode_error_iff, ?_⟩
  intro number account within sized
  have addressed : Addressed ⟨encode number account, account, number⟩ := addressed_iff.2 ⟨sized, within, .inl rfl⟩
  exact addressed.decode

end Written

/-- An account of network 42. -/
def specimen : Bytes := [
  212, 53, 147, 199, 21, 253, 211, 28, 97, 20, 26, 189, 4, 169, 159, 214, 130, 44, 133, 88, 133, 76, 205, 227, 154, 86,
  132, 231, 165, 109, 162, 125]

def plain : String := "5GrwvaEF5zXb26Fz9rcQpDWS57CtERHpNehXCPcNoHGKutQY"

/-- The same with two octets for the network. -/
def doubled : String := "Zp5wgt7iipcBBD8qrDbgQerUy6vWeg3np21675SE43SmZaPo9"

theorem encode_specimen : encode 42 specimen = plain := by decide +kernel

theorem decode_plain : decode plain = .ok ⟨plain, specimen, 42⟩ := by
  have addressed : Addressed ⟨plain, specimen, 42⟩ := addressed_iff.2 ⟨rfl, by decide, .inl encode_specimen.symm⟩
  exact addressed.decode

theorem decode_doubled : decode doubled = .ok ⟨doubled, specimen, 42⟩ := by
  have written : doubled = write (twoOctets 42) specimen := by decide +kernel
  have addressed : Addressed ⟨doubled, specimen, 42⟩ := addressed_iff.2 ⟨rfl, by decide, .inr ⟨by decide, written⟩⟩
  exact addressed.decode

theorem plain_ne_doubled : plain ≠ doubled := by simp [plain, doubled]

theorem decode_exactly_addresses_specimen : Addressed ⟨plain, specimen, 42⟩ ∧
    decode (plain ++ " ") = .error .notBase58 ∧
    decode (encode 16383 (List.replicate 32 0)) =
      .ok ⟨encode 16383 (List.replicate 32 0), List.replicate 32 0, 16383⟩ := by
  obtain ⟨accepted, -, written⟩ := decode_exactly_addresses plain
  obtain ⟨-, refused, -⟩ := decode_exactly_addresses (plain ++ " ")
  have foreign : ∃ c ∈ (plain ++ " ").toList, c ∉ Base58.alphabet := by
    refine ⟨' ', ?_, by decide⟩
    rw [String.toList_append]
    exact List.mem_append_right _ (List.mem_singleton_self ' ')
  exact ⟨((accepted _).1 decode_plain).2, (refused _).2 (.notBase58 (.inr foreign)), written 16383 _ (by omega) rfl⟩

section Unique

variable {key : SessionKey}

/-- An address with two octets for a network that one octet writes. -/
def Overlong (key : SessionKey) : Prop :=
  key.network < 64 ∧ ∃ octets, Base58.Spells key.address.toList octets ∧ octets.length = 36

private theorem length_of_written {front account : Bytes} (sized : account.length = 32) :
    (front ++ account ++ checksum (front ++ account)).length = front.length + 34 := by
  rw [List.length_append, List.length_append, length_checksum, sized]

theorem encode_not_overlong (number : Nat) {account : Bytes} (sized : account.length = 32) :
    ¬Overlong ⟨encode number account, account, number⟩ := by
  rintro ⟨small, octets, spells, size⟩
  rw [spells.unique (eq_write_iff.1 rfl), length_of_written sized, networkBytes, if_pos small] at size
  cases size

theorem Addressed.written (addressed : Addressed key) :
    ¬Overlong key ∧ key.address = encode key.network key.publicKey ∨
      Overlong key ∧ key.address = write (twoOctets key.network) key.publicKey := by
  obtain ⟨sized, within, plain | ⟨small, doubled⟩⟩ := addressed_iff.1 addressed
  · left
    refine ⟨?_, plain⟩
    intro overlong
    apply encode_not_overlong key.network sized
    exact plain ▸ overlong
  · right
    exact ⟨⟨small, _, eq_write_iff.1 doubled, length_of_written sized⟩, doubled⟩

theorem Addressed.encode_eq_iff (addressed : Addressed key) :
    encode key.network key.publicKey = key.address ↔ ¬Overlong key := by
  constructor
  · intro same overlong
    apply encode_not_overlong key.network addressed.sized
    rw [same]
    exact overlong
  · intro plain
    rcases addressed.written with ⟨-, written⟩ | ⟨overlong, -⟩
    · exact written.symm
    · exact absurd overlong plain

/-- Two addresses of one key on one network are the same if neither is overlong, and if both are. What is written for a
key is the one that is not. -/
theorem address_unique {one other : String} {first second : SessionKey} (accepted : decode one = .ok first)
    (acceptedToo : decode other = .ok second) (account : first.publicKey = second.publicKey)
    (network : first.network = second.network) :
    (one = other ↔ (Overlong first ↔ Overlong second)) ∧
      (encode first.network first.publicKey = one ↔ ¬Overlong first) := by
  obtain ⟨rfl, addressed⟩ := decode_ok_iff.1 accepted
  obtain ⟨rfl, addressedToo⟩ := decode_ok_iff.1 acceptedToo
  refine ⟨⟨?_, ?_⟩, addressed.encode_eq_iff⟩
  · intro same
    rw [Overlong, Overlong, same, network]
  · intro alike
    rcases addressed.written with ⟨plain, written⟩ | ⟨overlong, written⟩
    · rcases addressedToo.written with ⟨-, writtenToo⟩ | ⟨overlong, -⟩
      · rw [written, writtenToo, account, network]
      · exact absurd (alike.2 overlong) plain
    · rcases addressedToo.written with ⟨plain, -⟩ | ⟨-, writtenToo⟩
      · exact absurd (alike.1 overlong) plain
      · rw [written, writtenToo, account, network]

theorem address_unique_specimen : encode 42 specimen = plain ∧ ¬Overlong ⟨plain, specimen, 42⟩ ∧
    Overlong ⟨doubled, specimen, 42⟩ := by
  obtain ⟨apart, written⟩ := address_unique decode_plain decode_doubled rfl rfl
  have plainly := written.1 encode_specimen
  refine ⟨encode_specimen, plainly, ?_⟩
  apply Classical.byContradiction
  intro single
  exact plain_ne_doubled (apart.2 (iff_of_false plainly single))

/-- One key on one network has two addresses, and only one of them is what is written for it. -/
theorem decode_two_addresses : decode plain = .ok ⟨plain, specimen, 42⟩ ∧
    decode doubled = .ok ⟨doubled, specimen, 42⟩ ∧ plain ≠ doubled ∧ encode 42 specimen ≠ doubled := by
  refine ⟨decode_plain, decode_doubled, plain_ne_doubled, ?_⟩
  rw [encode_specimen]
  exact plain_ne_doubled

end Unique

end Credential.Ss58
