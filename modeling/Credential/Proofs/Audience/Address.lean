import Credential.Audience.Host
import Credential.Proofs.Hex32
import Credential.Proofs.Text.Alike

/-! Addresses in brackets and letter case. An address of version 6 is one in either letter case, since its digits are;
one of a future version is told by a small `v`, and with a capital it is no address. -/

namespace Credential.Audience

open Text

section Digits

variable {c : Char} {part : List Char}

theorem isDigit_toLower (c : Char) : c.toLower.isDigit = c.isDigit := toLower_congr (by decide) c

theorem all_isDigit_map (part : List Char) : (part.map Char.toLower).all Char.isDigit = part.all Char.isDigit := by
  rw [List.all_map]
  exact congrArg part.all (funext isDigit_toLower)

theorem map_toLower_of_digits (digits : part.all Char.isDigit = true) : part.map Char.toLower = part := by
  apply (List.map_congr_left _).trans (List.map_id part)
  intro c member
  have digit := List.all_eq_true.1 digits c member
  simp only [Char.isDigit, Bool.and_eq_true, decide_eq_true_eq, ge_iff_le, UInt32.le_iff_toNat_le] at digit
  apply toLower_eq_self
  intro capital
  exact absurd (Nat.le_trans capital.1 digit.2) (by decide)

theorem isOctet_map (part : List Char) : isOctet (part.map Char.toLower) = isOctet part := by
  cases digits : part.all Char.isDigit with
  | true => rw [map_toLower_of_digits digits]
  | false =>
    have digitsToo := all_isDigit_map part
    rw [digits] at digitsToo
    simp only [isOctet, digits, digitsToo, Bool.and_false, Bool.false_and]

theorem isIpv4_map (text : List Char) : isIpv4 (text.map Char.toLower) = isIpv4 text := by
  have octets : isOctet ∘ List.map Char.toLower = isOctet := funext isOctet_map
  have dot : Uncased '.' := ⟨rfl, rfl⟩
  simp only [isIpv4, dot.split_map, List.length_map, List.all_map, octets]

theorem isGroup_map (part : List Char) : isGroup (part.map Char.toLower) = isGroup part := by
  have digits : Hex.isDigit ∘ Char.toLower = Hex.isDigit := by
    funext c
    rw [Function.comp_apply, Hex.isDigit, Hex.value?_toLower, Hex.isDigit]
  simp only [isGroup, List.isEmpty_map, List.length_map, List.all_map, digits]

end Digits

section Groups

variable (groups : List (List Char))

theorem side_map : side (groups.map (List.map Char.toLower)) = (side groups).map (List.map Char.toLower) := by
  have empty : groups.map (List.map Char.toLower) = [[]] ↔ groups = [[]] := by
    rw [List.map_eq_singleton_iff]
    simp only [List.map_eq_nil_iff, exists_eq_right]
  unfold side
  by_cases single : groups = [[]]
  · rw [if_pos single, if_pos (empty.2 single), List.map_nil]
  · rw [if_neg single, if_neg (mt empty.1 single)]

theorem contains_nil_map : (groups.map (List.map Char.toLower)).contains [] = groups.contains [] := by
  induction groups with
  | nil => rfl
  | cons group rest ih =>
    rw [List.map_cons, List.contains_cons, List.contains_cons, ih]
    cases group <;> rfl

theorem idxOf_nil_map : (groups.map (List.map Char.toLower)).idxOf [] = groups.idxOf [] := by
  induction groups with
  | nil => rfl
  | cons group rest ih =>
    rw [List.map_cons, List.idxOf_cons, List.idxOf_cons, ih]
    cases group <;> rfl

theorem all_isGroup_map : (groups.map (List.map Char.toLower)).all isGroup = groups.all isGroup := by
  have same : isGroup ∘ List.map Char.toLower = isGroup := funext isGroup_map
  rw [List.all_map, same]

end Groups

theorem ipv6Groups?_map (text : List Char) :
    ipv6Groups? (text.map Char.toLower) = (ipv6Groups? text).map (List.map (List.map Char.toLower)) := by
  have colon : Uncased ':' := ⟨rfl, rfl⟩
  have dot : Uncased '.' := ⟨rfl, rfl⟩
  simp only [ipv6Groups?, colon.split_map, List.length_map, List.getLast?_map]
  split
  · rfl
  · cases (split ':' text).getLast? with
    | none => rfl
    | some last =>
      have pointed : (last.map Char.toLower).contains '.' = last.contains '.' := by
        rw [List.contains_eq_mem, List.contains_eq_mem, decide_eq_decide]
        exact dot.mem_map_iff
      simp only [Option.map_some, pointed, isIpv4_map]
      split
      · split
        · rw [Option.map_some, List.map_append, List.map_dropLast]
          rfl
        · rfl
      · rfl

theorem isIpv6_map (text : List Char) : isIpv6 (text.map Char.toLower) = isIpv6 text := by
  unfold isIpv6
  rw [ipv6Groups?_map]
  cases ipv6Groups? text with
  | none => rfl
  | some groups =>
    simp only [Option.map_some, ← List.map_tail, ← List.map_dropLast, contains_nil_map, idxOf_nil_map, ← List.map_take,
      ← List.map_drop, side_map, all_isGroup_map, List.length_map]

theorem isScopedIpv6_map (text : List Char) : isScopedIpv6 (text.map Char.toLower) = isScopedIpv6 text := by
  have percent : Uncased '%' := ⟨rfl, rfl⟩
  unfold isScopedIpv6
  rw [percent.cut_map]
  cases cut '%' text with
  | mk address zone? =>
    cases zone? with
    | none => exact isIpv6_map address
    | some zone =>
      have single : (zone.map Char.toLower).contains '%' = zone.contains '%' := by
        rw [List.contains_eq_mem, List.contains_eq_mem, decide_eq_decide]
        exact percent.mem_map_iff
      simp only [Option.map_some, List.isEmpty_map, single, isIpv6_map]

theorem isFutureAddress_map (text : List Char) :
    isFutureAddress ('v' :: text.map Char.toLower) = isFutureAddress ('v' :: text) := by
  have dot : Uncased '.' := ⟨rfl, rfl⟩
  have digits : Hex.isDigit ∘ Char.toLower = Hex.isDigit := by
    funext c
    rw [Function.comp_apply, Hex.isDigit, Hex.value?_toLower, Hex.isDigit]
  simp only [isFutureAddress, dot.cut_map]
  cases cut '.' text with
  | mk version address? =>
    cases address? with
    | none => rfl
    | some address => simp only [Option.map_some, List.isEmpty_map, List.all_map, digits]

private theorem split_future (text : List Char) : ∃ part parts, split ':' ('v' :: text) = ('v' :: part) :: parts := by
  rw [split, if_neg (by decide)]
  cases split ':' text with
  | nil => exact ⟨[], [], rfl⟩
  | cons part parts => exact ⟨part, parts, rfl⟩

private theorem ipv6Groups?_future {text : List Char} {groups : List (List Char)}
    (found : ipv6Groups? ('v' :: text) = some groups) : ∃ part more, groups = ('v' :: part) :: more := by
  obtain ⟨part, parts, parted⟩ := split_future text
  simp only [ipv6Groups?, parted] at found
  split at found
  · cases found
  next long =>
    rw [List.length_cons] at long
    have several : parts ≠ [] := by
      rintro rfl
      exact long (by decide)
    split at found
    · split at found
      · split at found
        · rw [List.dropLast_cons_of_ne_nil several] at found
          cases found
          exact ⟨part, _, rfl⟩
        · cases found
      · cases found
        exact ⟨part, parts, rfl⟩
    · cases found

/-- The letter of a future version is no digit, and so the first group is none. -/
theorem isIpv6_future (text : List Char) : isIpv6 ('v' :: text) = false := by
  unfold isIpv6
  cases found : ipv6Groups? ('v' :: text) with
  | none => rfl
  | some groups =>
    obtain ⟨part, more, rfl⟩ := ipv6Groups?_future found
    have wrong : isGroup ('v' :: part) = false := by
      have letter : Hex.isDigit 'v' = false := rfl
      simp only [isGroup, List.all_cons, letter, Bool.false_and, Bool.and_false]
    have long (others : List (List Char)) : side (('v' :: part) :: others) = ('v' :: part) :: others := if_neg (by simp)
    simp only [List.take_succ_cons, long, List.all_cons, wrong, Bool.false_and, Bool.and_false, ite_self]

theorem isScopedIpv6_future (text : List Char) : isScopedIpv6 ('v' :: text) = false := by
  have cut_future : cut '%' ('v' :: text) = ('v' :: (cut '%' text).1, (cut '%' text).2) := rfl
  unfold isScopedIpv6
  rw [cut_future]
  cases (cut '%' text).2 with
  | none => exact isIpv6_future _
  | some zone => simp only [isIpv6_future, Bool.and_false]

section Alike

variable {c : Char} {one two : List Char}

private theorem isScopedIpv6_of_future (letter : c.toLower = 'v') (text : List Char) : isScopedIpv6 (c :: text) = false := by
  rw [← isScopedIpv6_map, List.map_cons, letter]
  exact isScopedIpv6_future _

private theorem isBracketedHost_future (text : List Char) :
    isBracketedHost ('v' :: text) = isFutureAddress ('v' :: text) := if_pos rfl

private theorem isBracketedHost_other (other : c ≠ 'v') (text : List Char) :
    isBracketedHost (c :: text) = isScopedIpv6 (c :: text) := if_neg fun same => other (Option.some.inj same)

/-- What is alike to an address is one too, unless just one of the two starts with a small `v`. -/
theorem isBracketedHost_alike (alike : Alike one two) (address : isBracketedHost one = true) :
    isBracketedHost two = true ↔ (one.head? = some 'v' ↔ two.head? = some 'v') := by
  cases one with
  | nil =>
    obtain rfl := alike.nil_iff.1 rfl
    exact iff_of_true address Iff.rfl
  | cons c rest =>
    cases two with
    | nil => cases alike
    | cons d more =>
      obtain ⟨same, later⟩ := List.cons.inj alike
      rw [List.head?_cons, List.head?_cons, Option.some.injEq, Option.some.injEq]
      by_cases first : c = 'v'
      · subst first
        by_cases second : d = 'v'
        · subst second
          rw [isBracketedHost_future, ← isFutureAddress_map, later, isFutureAddress_map] at address
          rw [isBracketedHost_future]
          exact iff_of_true address Iff.rfl
        · rw [isBracketedHost_other second, isScopedIpv6_of_future same.symm]
          exact iff_of_false Bool.false_ne_true fun both => second (both.1 rfl)
      · rw [isBracketedHost_other first, ← isScopedIpv6_map, alike, isScopedIpv6_map] at address
        have second : d ≠ 'v' := by
          rintro rfl
          rw [isScopedIpv6_future] at address
          cases address
        rw [isBracketedHost_other second]
        exact iff_of_true address (iff_of_false first second)

end Alike

end Credential.Audience
