import Mathlib.Data.List.TakeWhile
import Mathlib.Data.Nat.Digits.Lemmas
import Credential.Base58

/-! Octets and base58 text are two writings of one thing: a number, and how many zeros stand before it. Zeros in front
do not count in a number, so a change of base alone would lose them; counted apart, each writing has one counterpart,
and what is read is exactly what is written. -/

namespace Credential.Base58

theorem digits_eq {base : Nat} (proper : 1 < base) (number : Nat) :
    digits base number = (Nat.digits base number).reverse := by
  induction number using Nat.strongRecOn with
  | ind number ih =>
    rw [digits]
    by_cases zero : number = 0
    · rw [if_neg fun both => both.2 zero, zero, Nat.digits_zero, List.reverse_nil]
    · have positive := Nat.pos_of_ne_zero zero
      rw [if_pos ⟨proper, zero⟩, Nat.digits_def' proper positive, List.reverse_cons,
        ih _ (Nat.div_lt_self positive proper)]

theorem ofDigits_eq (base : Nat) (values : List Nat) : ofDigits base values = Nat.ofDigits base values.reverse := by
  induction values using List.reverseRecOn with
  | nil => rfl
  | append_singleton values value ih =>
    rw [List.reverse_append, List.reverse_singleton, List.singleton_append, Nat.ofDigits_cons, ← ih, ofDigits,
      List.foldl_append, List.foldl_cons, List.foldl_nil, Nat.add_comm, Nat.mul_comm]
    rfl

section Digits

variable {base : Nat} {values : List Nat}

theorem digits_lt (proper : 1 < base) (number : Nat) : ∀ value ∈ digits base number, value < base := by
  rw [digits_eq proper]
  intro value member
  exact Nat.digits_lt_base proper (List.mem_reverse.1 member)

theorem ofDigits_digits (proper : 1 < base) (number : Nat) : ofDigits base (digits base number) = number := by
  rw [digits_eq proper, ofDigits_eq, List.reverse_reverse]
  exact Nat.ofDigits_digits base number

theorem zeros_digits (proper : 1 < base) (number : Nat) : (digits base number).takeWhile (· = 0) = [] := by
  by_cases zero : number = 0
  · rw [digits_eq proper, zero, Nat.digits_zero]
    rfl
  · have given : Nat.digits base number ≠ [] := Nat.digits_ne_nil_iff_ne_zero.2 zero
    have leading : (Nat.digits base number).getLast given ≠ 0 := Nat.getLast_digit_ne_zero base zero
    rw [digits_eq proper, ← List.dropLast_append_getLast given, List.reverse_append]
    exact List.takeWhile_cons_of_neg (by simpa using leading)

theorem digits_ofDigits (proper : 1 < base) (within : ∀ value ∈ values, value < base) :
    digits base (ofDigits base values) = values.dropWhile (· = 0) := by
  induction values with
  | nil =>
    rw [digits_eq proper]
    exact congrArg List.reverse (Nat.digits_zero base)
  | cons value rest ih =>
    by_cases zero : value = 0
    · subst zero
      have unchanged : ofDigits base (0 :: rest) = ofDigits base rest := by
        rw [ofDigits, List.foldl_cons, Nat.zero_mul]
        rfl
      rw [unchanged, ih fun value member => within value (List.mem_cons_of_mem _ member)]
      rfl
    · rw [List.dropWhile_cons_of_neg (by simpa using zero), digits_eq proper, ofDigits_eq,
        Nat.digits_ofDigits base proper _ (fun value member => within value (List.mem_reverse.1 member)),
        List.reverse_reverse]
      intro given
      rw [List.getLast_reverse]
      exact zero

end Digits

/-- Two lists of digits, each in its base, that write one number after as many zeros. -/
structure Regroup (source target : Nat) (values others : List Nat) : Prop where
  leading : (values.takeWhile (· = 0)).length = (others.takeWhile (· = 0)).length
  number : Nat.ofDigits source values.reverse = Nat.ofDigits target others.reverse

theorem Regroup.symm {source target : Nat} {values others : List Nat} (regroup : Regroup source target values others) :
    Regroup target source others values :=
  ⟨regroup.leading.symm, regroup.number.symm⟩

section Rebase

variable {source target : Nat} {values others : List Nat}

private theorem zeros_eq (values : List Nat) :
    values.takeWhile (· = 0) = List.replicate (values.takeWhile (· = 0)).length 0 := by
  apply List.eq_replicate_of_mem
  intro value member
  simpa using List.mem_takeWhile_imp member

private theorem ofDigits_zeros (base count : Nat) (rest : List Nat) :
    ofDigits base (List.replicate count 0 ++ rest) = ofDigits base rest := by
  induction count with
  | zero => rfl
  | succ count ih =>
    rw [← ih, List.replicate_succ, List.cons_append, ofDigits, List.foldl_cons, Nat.zero_mul]
    rfl

theorem regroup_rebase (proper : 1 < target) : Regroup source target values (rebase source target values) := by
  refine ⟨?_, ?_⟩
  · have zeros : ∀ value ∈ values.takeWhile (· = 0), decide (value = 0) = true := fun _ => List.mem_takeWhile_imp
    rw [rebase, List.takeWhile_append_of_pos zeros, zeros_digits proper, List.append_nil]
  · rw [← ofDigits_eq, ← ofDigits_eq, rebase, zeros_eq values, ofDigits_zeros, ofDigits_digits proper]

/-- The digits in another base are the only ones that regroup the given ones. -/
theorem rebase_eq_iff (proper : 1 < target) (within : ∀ value ∈ others, value < target) :
    rebase source target values = others ↔ Regroup source target values others := by
  constructor
  · rintro rfl
    exact regroup_rebase proper
  · intro regroup
    rw [rebase, zeros_eq values, regroup.leading, ← zeros_eq others, ofDigits_eq, regroup.number, ← ofDigits_eq,
      digits_ofDigits proper within]
    exact List.takeWhile_append_dropWhile

theorem rebase_lt (proper : 1 < target) : ∀ value ∈ rebase source target values, value < target := by
  intro value member
  rcases List.mem_append.1 member with zero | digit
  · have zero : value = 0 := by simpa using List.mem_takeWhile_imp zero
    omega
  · exact digits_lt proper _ value digit

end Rebase

section Symbols

variable {text : List Char} {values : List Nat}

theorem alphabet_nodup : alphabet.Nodup := by decide +kernel

theorem idxOf_lt {c : Char} (member : c ∈ alphabet) : alphabet.idxOf c < 58 := List.idxOf_lt_length_iff.2 member

private theorem idxOf_of_value? {c : Char} {value : Nat} (found : value? c = some value) :
    c ∈ alphabet ∧ alphabet.idxOf c = value := by
  obtain ⟨inside, rfl, -⟩ := List.idxOf?_eq_some_iff.1 found
  exact ⟨List.getElem_mem inside, alphabet_nodup.idxOf_getElem value inside⟩

theorem value?_eq_some_iff {c : Char} {value : Nat} :
    value? c = some value ↔ c ∈ alphabet ∧ value = alphabet.idxOf c := by
  constructor
  · intro found
    obtain ⟨member, same⟩ := idxOf_of_value? found
    exact ⟨member, same.symm⟩
  · rintro ⟨member, rfl⟩
    obtain ⟨value, found⟩ := Option.isSome_iff_exists.1 (List.isSome_idxOf?.2 member)
    rw [(idxOf_of_value? found).2]
    exact found

theorem symbol_eq_iff {c : Char} {value : Nat} (small : value < 58) :
    symbol value = c ↔ c ∈ alphabet ∧ value = alphabet.idxOf c := by
  have inside : value < alphabet.length := small
  have same : symbol value = alphabet[value] := by
    rw [symbol, List.getD_eq_getElem?_getD, List.getElem?_eq_getElem inside, Option.getD_some]
  rw [same]
  constructor
  · rintro rfl
    exact ⟨List.getElem_mem inside, (alphabet_nodup.idxOf_getElem value inside).symm⟩
  · rintro ⟨member, rfl⟩
    exact List.getElem_idxOf inside

theorem mapM_value?_iff :
    text.mapM value? = some values ↔ (∀ c ∈ text, c ∈ alphabet) ∧ values = text.map alphabet.idxOf := by
  induction text generalizing values with
  | nil => simp [eq_comm]
  | cons c rest ih =>
    simp only [List.mapM_cons, Option.bind_eq_bind, Option.bind_eq_some_iff, value?_eq_some_iff, ih,
      List.forall_mem_cons, List.map_cons, Option.pure_def, Option.some.injEq]
    constructor
    · rintro ⟨_, ⟨member, rfl⟩, _, ⟨members, rfl⟩, rfl⟩
      exact ⟨⟨member, members⟩, rfl⟩
    · rintro ⟨⟨member, members⟩, rfl⟩
      exact ⟨_, ⟨member, rfl⟩, _, ⟨members, rfl⟩, rfl⟩

theorem map_symbol_iff (small : ∀ value ∈ values, value < 58) :
    values.map symbol = text ↔ (∀ c ∈ text, c ∈ alphabet) ∧ values = text.map alphabet.idxOf := by
  induction values generalizing text with
  | nil => cases text <;> simp
  | cons value rest ih =>
    obtain ⟨first, later⟩ := List.forall_mem_cons.1 small
    cases text with
    | nil => simp
    | cons c more =>
      rw [List.map_cons, List.cons.injEq, symbol_eq_iff first, ih later, List.forall_mem_cons, List.map_cons,
        List.cons.injEq, and_and_and_comm]

end Symbols

/-- A text for octets: its symbols are the digits of base 58, and they regroup the octets. -/
structure Spells (text : List Char) (bytes : Bytes) : Prop where
  symbols : ∀ c ∈ text, c ∈ alphabet
  regroup : Regroup 58 256 (text.map alphabet.idxOf) (bytes.map UInt8.toNat)

section Spells

variable {text : List Char} {bytes : Bytes}

theorem spells_iff : Spells text bytes ↔
    (∀ c ∈ text, c ∈ alphabet) ∧ Regroup 58 256 (text.map alphabet.idxOf) (bytes.map UInt8.toNat) :=
  ⟨fun spells => ⟨spells.symbols, spells.regroup⟩, fun parts => ⟨parts.1, parts.2⟩⟩

private theorem toNat_lt_of_mem : ∀ value ∈ bytes.map UInt8.toNat, value < 256 := by
  intro value member
  obtain ⟨byte, -, rfl⟩ := List.mem_map.1 member
  exact byte.toNat_lt

private theorem map_ofNat_iff {values : List Nat} (small : ∀ value ∈ values, value < 256) :
    values.map UInt8.ofNat = bytes ↔ values = bytes.map UInt8.toNat := by
  constructor
  · rintro rfl
    rw [List.map_map]
    apply (List.map_id values).symm.trans (List.map_congr_left _)
    intro value member
    exact (UInt8.toNat_ofNat_of_lt (small value member)).symm
  · rintro rfl
    rw [List.map_map]
    apply (List.map_congr_left _).trans (List.map_id bytes)
    intro byte _
    exact UInt8.ofNat_toNat

theorem eq_encode_iff : text = encode bytes ↔ Spells text bytes := by
  have small : ∀ value ∈ rebase 256 58 (bytes.map UInt8.toNat), value < 58 := rebase_lt (by omega)
  rw [eq_comm, encode, map_symbol_iff small, spells_iff]
  apply and_congr_right
  intro symbols
  have within : ∀ value ∈ text.map alphabet.idxOf, value < 58 := by
    intro value member
    obtain ⟨c, inside, rfl⟩ := List.mem_map.1 member
    exact idxOf_lt (symbols c inside)
  rw [rebase_eq_iff (by omega) within]
  exact ⟨Regroup.symm, Regroup.symm⟩

theorem decode?_eq_some_iff : decode? text = some bytes ↔ Spells text bytes := by
  have small : ∀ value ∈ rebase 58 256 (text.map alphabet.idxOf), value < 256 := rebase_lt (by omega)
  rw [decode?, Option.map_eq_some_iff, spells_iff, ← rebase_eq_iff (by omega) toNat_lt_of_mem, ← map_ofNat_iff small]
  constructor
  · rintro ⟨values, read, rfl⟩
    obtain ⟨symbols, rfl⟩ := mapM_value?_iff.1 read
    exact ⟨symbols, rfl⟩
  · rintro ⟨symbols, same⟩
    exact ⟨_, mapM_value?_iff.2 ⟨symbols, rfl⟩, same⟩

theorem decode?_eq_none_iff : decode? text = none ↔ ∃ c ∈ text, c ∉ alphabet := by
  constructor
  · intro unread
    apply Classical.byContradiction
    intro none
    have symbols : ∀ c ∈ text, c ∈ alphabet := fun c member => Classical.not_not.1 fun foreign => none ⟨c, member, foreign⟩
    rw [decode?, mapM_value?_iff.2 ⟨symbols, rfl⟩] at unread
    cases unread
  · rintro ⟨c, member, foreign⟩
    apply Option.eq_none_iff_forall_ne_some.2
    intro bytes read
    exact foreign ((decode?_eq_some_iff.1 read).symbols c member)

theorem Spells.unique {other : Bytes} (spells : Spells text bytes) (spellsToo : Spells text other) : bytes = other := by
  have read := decode?_eq_some_iff.2 spells
  rw [decode?_eq_some_iff.2 spellsToo] at read
  exact (Option.some.inj read).symm

theorem spells_nil : Spells [] [] where
  symbols := fun _ impossible => nomatch impossible
  regroup := ⟨rfl, rfl⟩

theorem Spells.nil_iff (spells : Spells text bytes) : bytes = [] ↔ text = [] := by
  constructor
  · rintro rfl
    rw [eq_encode_iff.2 spells, ← eq_encode_iff.2 spells_nil]
  · rintro rfl
    exact spells.unique spells_nil

end Spells

end Credential.Base58
