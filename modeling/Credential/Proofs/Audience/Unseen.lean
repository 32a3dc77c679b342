import Credential.Proofs.Audience.Hosted
import Credential.Text.Blank

/-! Which characters that leave no mark get into an audience. The blanks and controls of ASCII are refused anywhere in
it. Those beyond ASCII are overlooked: an authority URN has no place for them, but after the two slashes they may stand
anywhere, and from the host they get into the authority. -/

namespace Credential.Audience

open Text

def isControl (c : Char) : Bool := c.toNat ≤ 0x1F || 0x7F ≤ c.toNat && c.toNat ≤ 0x9F

/-- Controls and blanks. -/
def isUnseen (c : Char) : Bool := isControl c || isBlank c

/-- The controls and blanks beyond ASCII. -/
def overlooked : List Nat := List.range' 0x80 0x20 ++ [
  0xA0, 0x1680, 0x2000, 0x2001, 0x2002, 0x2003, 0x2004, 0x2005, 0x2006, 0x2007, 0x2008, 0x2009, 0x200A, 0x2028, 0x2029,
  0x202F, 0x205F, 0x3000]

section Characters

variable {c : Char}

theorem overlooked_large (passed : c.toNat ∈ overlooked) : 0x80 ≤ c.toNat := by
  have least : ∀ point ∈ overlooked, 0x80 ≤ point := by decide
  exact least _ passed

theorem isUnseen_iff : isUnseen c = true ↔ isForbidden c = true ∨ c.toNat ∈ overlooked := by
  by_cases plain : c.toNat < 0x80
  · rw [or_iff_left (mt overlooked_large (by omega))]
    apply forall_ascii (motive := fun c => isUnseen c = true ↔ isForbidden c = true)
    · decide
    · exact plain
  · rw [or_iff_right (mt isForbidden_ascii plain)]
    simp only [isUnseen, isControl, isBlank, overlooked, List.mem_append, List.mem_range'_1, Bool.or_eq_true,
      Bool.and_eq_true, decide_eq_true_eq, List.contains_eq_mem, List.mem_cons, List.not_mem_nil, or_false]
    omega

theorem isUnseen_of_overlooked (passed : c.toNat ∈ overlooked) : isUnseen c = true := isUnseen_iff.2 (.inr passed)

theorem isUntouched_of_unseen (unseen : isUnseen c = true) : isUntouched c.toNat = true := by
  rcases isUnseen_iff.1 unseen with forbidden | passed
  · apply forall_ascii (motive := fun c => isForbidden c = true → isUntouched c.toNat = true)
    · decide +kernel
    · exact isForbidden_ascii forbidden
    · exact forbidden
  · have every : ∀ point ∈ overlooked, isUntouched point = true := by decide +kernel
    exact every _ passed

theorem not_lookalike_of_overlooked (passed : c.toNat ∈ overlooked) : c ∉ lookalikes := by
  rw [mem_lookalikes_iff]
  rintro (same | same | same | same) <;> rw [same] at passed <;> exact absurd passed (by decide)

theorem fold_overlooked (passed : c.toNat ∈ overlooked) : fold c = c := by
  have large := overlooked_large passed
  rw [fold_eq_toLower (not_lookalike_of_overlooked passed)]
  exact toLower_eq_self (by omega)

def isVisible (c : Char) : Bool := 0x21 ≤ c.toNat && c.toNat ≤ 0x7E && c ≠ '[' && c ≠ ']'

private theorem passes (either : isVisible c = true ∨ c.toNat ∈ overlooked) :
    isForbidden c = false ∧ c ≠ '[' ∧ c ≠ ']' ∧ c.toNat ∉ disguised := by
  rcases either with visible | passed
  · simp only [isVisible, Bool.and_eq_true, decide_eq_true_eq] at visible
    obtain ⟨⟨⟨least, most⟩, unopened⟩, unclosed⟩ := visible
    refine ⟨?_, unopened, unclosed, mt disguised_large (by omega)⟩
    simp only [isForbidden, Bool.or_eq_false_iff, decide_eq_false_iff_not]
    omega
  · have large := overlooked_large passed
    have apart : ∀ point ∈ overlooked, point ∉ disguised := by decide
    refine ⟨Bool.eq_false_iff.2 (mt isForbidden_ascii (by omega)), ?_, ?_, apart _ passed⟩
    · rintro rfl
      exact absurd large (by decide)
    · rintro rfl
      exact absurd large (by decide)

end Characters

section Authority

variable {audience id : String} {parts : Hosted} {c : Char}

theorem urn_overlooks_nothing (urn : IsUrn audience) (meant : authority audience = .ok id) :
    ∀ c ∈ audience.toList, c.toNat ∉ overlooked := by
  have resembles := resembles_of_authority urn meant
  obtain ⟨opening, whole, folded⟩ := resembles.written
  rw [whole, List.forall_mem_append]
  constructor
  · intro c member passed
    have ascii : "urn:authority:".toList.all (·.toNat < 0x80) = true := rfl
    have small := List.all_eq_true.1 ascii (fold c) (folded ▸ List.mem_map_of_mem member)
    rw [fold_overlooked passed] at small
    exact absurd (of_decide_eq_true small) (Nat.not_lt.2 (overlooked_large passed))
  · intro c member passed
    rcases resembles.symbols c member with plain | look
    · exact absurd (isPlain_ascii plain) (Nat.not_lt.2 (overlooked_large passed))
    · exact not_lookalike_of_overlooked passed look

theorem mem_audience_of_unseen (meant : authority audience = .ok id) (unseen : isUnseen c = true)
    (member : c ∈ id.toList) : c ∈ audience.toList := by
  by_cases urn : IsUrn audience
  · obtain ⟨opening, whole, -⟩ := (resembles_of_authority urn meant).written
    rw [whole]
    exact List.mem_append_right opening member
  · obtain ⟨parts, rfl⟩ := exists_hosted urn meant
    obtain ⟨-, -, -, named⟩ := Hosted.authority_ok_iff.1 meant
    rw [named, mem_lowerHost_iff (isUntouched_of_unseen unseen)] at member
    exact parts.mem_audience_of_name member

theorem seen_iff (meant : authority audience = .ok id) : (∀ c ∈ audience.toList ++ id.toList, isUnseen c = false) ↔
    ∀ c ∈ audience.toList, c.toNat ∉ overlooked := by
  rw [List.forall_mem_append]
  constructor
  · rintro ⟨seen, -⟩ c member passed
    have unseen := isUnseen_of_overlooked passed
    rw [seen c member] at unseen
    cases unseen
  · intro absent
    obtain ⟨scheme, rest, parted⟩ := parted_of_authority meant
    have seen : ∀ c ∈ audience.toList, isUnseen c = false := by
      intro c member
      apply Bool.eq_false_iff.2
      rw [ne_eq, isUnseen_iff, not_or]
      exact ⟨Bool.eq_false_iff.1 (parted.clear c member), absent c member⟩
    refine ⟨seen, fun c member => Bool.eq_false_iff.2 fun unseen => ?_⟩
    have still := seen c (mem_audience_of_unseen meant unseen member)
    rw [still] at unseen
    cases unseen

theorem Hosted.authority_of_passing (parts : Hosted) (given : parts.name ≠ [])
    (passing : ∀ c ∈ parts.location ++ parts.tail, isVisible c = true ∨ c.toNat ∈ overlooked) :
    authority parts.audience = .ok (String.ofList (lowerHost parts.name)) := by
  have located : ∀ c ∈ parts.location, c ≠ '[' ∧ c ≠ ']' ∧ c.toNat ∉ disguised := by
    intro c member
    exact (passes (passing c (List.mem_append_left _ member))).2
  apply authority_of_unbracketed given
  · intro c member
    exact (passes (passing c member)).1
  · intro member
    exact (located '[' member).1 rfl
  · intro member
    exact (located ']' member).2.1 rfl
  · intro c member
    exact (located c member).2.2

/-- An audience with an authority holds no blank and no control, and neither does the authority, just if none beyond ASCII
is in the audience, as none is in a URN. The authority of an audience with a host has those of the host. -/
theorem authority_unseen_iff {audience id : String} (meant : authority audience = .ok id) :
    ((∀ c ∈ audience.toList ++ id.toList, isUnseen c = false) ↔ ∀ c ∈ audience.toList, c.toNat ∉ overlooked) ∧
    (IsUrn audience → ∀ c ∈ audience.toList, c.toNat ∉ overlooked) ∧
    ∀ parts : Hosted, parts.audience = audience → ∀ c, isUnseen c = true → (c ∈ id.toList ↔ c ∈ parts.name) := by
  refine ⟨seen_iff meant, fun urn => urn_overlooks_nothing urn meant, ?_⟩
  rintro parts rfl c unseen
  obtain ⟨-, -, -, named⟩ := Hosted.authority_ok_iff.1 meant
  rw [named, mem_lowerHost_iff (isUntouched_of_unseen unseen)]

/-- A host with a space in it that no line is broken at. -/
def spaced : Hosted := .bare "krei\u00a0vo.app".toList rfl

theorem authority_unseen_iff_specimen : spaced.audience = "https://krei\u00a0vo.app" ∧
    authority spaced.audience = .ok "krei\u00a0vo.app" ∧
    (¬∀ c ∈ spaced.audience.toList ++ "krei\u00a0vo.app".toList, isUnseen c = false) ∧
    ('\u00a0' ∈ "krei\u00a0vo.app".toList ↔ '\u00a0' ∈ spaced.name) := by
  have mixed : ∀ c ∈ spaced.location ++ spaced.tail, isVisible c = true ∨ c.toNat ∈ overlooked := by
    have all : (spaced.location ++ spaced.tail).all (fun c => isVisible c || overlooked.contains c.toNat) = true := rfl
    intro c member
    have either := List.all_eq_true.1 all c member
    rw [Bool.or_eq_true, List.contains_iff_mem] at either
    exact either
  have meant : authority spaced.audience = .ok "krei\u00a0vo.app" :=
    spaced.authority_of_passing (by decide) mixed
  obtain ⟨seen, -, named⟩ := authority_unseen_iff meant
  refine ⟨rfl, meant, ?_, named spaced rfl '\u00a0' rfl⟩
  rw [seen]
  exact fun absent => absent '\u00a0' (by decide) (by decide)

/-- A no-break space gets from a host into an authority of its own that looks like two words. -/
theorem authority_no_break_space : authority "https://krei\u00a0vo.app" = .ok "krei\u00a0vo.app" ∧
    '\u00a0' ∈ "krei\u00a0vo.app".toList ∧ isUnseen '\u00a0' = true :=
  ⟨rfl, by decide, rfl⟩

end Authority

end Credential.Audience
