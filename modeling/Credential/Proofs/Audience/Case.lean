import Credential.Proofs.Audience.Address
import Credential.Proofs.Audience.Hosted

/-! What letter case makes of an authority. A host is lowered up to its first `%`, and what follows is taken for the zone
of an address and left as it is, whether the host is an address or a name with an escape in it. So the letter case of an
escape gets into the authority, and a host has one authority for each way to write the zone. -/

namespace Credential.Audience

open Text

section Name

variable {one two name : List Char}

theorem lowerHost_eq_iff (alike : Alike one two) : lowerHost one = lowerHost two ↔ zone one = zone two := by
  have named := (alike.cut_fst ⟨rfl, rfl⟩ : Alike (cut '%' one).1 (cut '%' two).1).lower_eq
  rw [lowerHost_eq, lowerHost_eq, named, List.append_cancel_left_eq]

theorem lowerHost_capital_iff :
    (∀ c ∈ lowerHost name, isCapital c = false) ↔ ∀ c ∈ zone name, isCapital c = false := by
  rw [lowerHost_eq, List.forall_mem_append]
  exact and_iff_right fun c member => not_isCapital_of_mem_lower member

end Name

namespace Hosted

variable {parts : Hosted} {spelling : List Char}

def recase (parts : Hosted) (alike : Alike spelling parts.name) : Hosted where
  scheme := parts.scheme
  user := parts.user
  bracketed := parts.bracketed
  name := spelling
  rest := parts.rest
  tail := parts.tail
  proper := parts.proper
  other := parts.other
  attached := parts.attached
  last := by
    have last := parts.last
    rw [List.mem_append] at last ⊢
    rw [alike.mem_iff ⟨rfl, rfl⟩]
    exact last
  unopened := by
    intro bracketed
    have unopened := parts.unopened bracketed
    rw [List.mem_append] at unopened ⊢
    rw [alike.mem_iff ⟨rfl, rfl⟩]
    exact unopened
  unclosed := by
    have uncased : Uncased (closing parts.bracketed) := by
      cases parts.bracketed <;> exact ⟨rfl, rfl⟩
    rw [alike.mem_iff uncased]
    exact parts.unclosed
  closes := parts.closes
  within := by
    have within := parts.within
    rw [List.forall_mem_append, List.forall_mem_append] at within ⊢
    exact ⟨within.1, (alike.forall_iff (toLower_iff (by decide))).2 within.2.1, within.2.2⟩
  opens := parts.opens

variable (alike : Alike spelling parts.name)

theorem recase_location : Alike (parts.recase alike).location parts.location := by
  have named : spelling.map Char.toLower = parts.name.map Char.toLower := alike
  unfold Alike location place
  cases bracketed : parts.bracketed <;> simp [recase, bracketed, named]

theorem recase_audience : Alike (parts.recase alike).audience.toList parts.audience.toList := by
  have located : (parts.recase alike).location.map Char.toLower = parts.location.map Char.toLower := recase_location alike
  rw [toList_audience, toList_audience, Alike]
  simp only [List.map_append, List.map_cons, located]
  simp only [recase]

/-- Nothing but the address in brackets can be undone by letter case. -/
theorem recase_isWellFormed (formed : isWellFormed parts.location = true) :
    isWellFormed (parts.recase alike).location = true ↔
      ('[' ∈ parts.location → (parts.name.head? = some 'v' ↔ spelling.head? = some 'v')) := by
  have located := recase_location alike
  obtain ⟨paired, holds, clear⟩ := isWellFormed_iff.1 formed
  have pairedToo : '[' ∈ (parts.recase alike).location ↔ ']' ∈ (parts.recase alike).location := by
    rw [located.mem_iff ⟨rfl, rfl⟩, located.mem_iff ⟨rfl, rfl⟩]
    exact paired
  have clearToo : ∀ c ∈ (parts.recase alike).location, c.toNat ∉ disguised :=
    (located.forall_iff (toLower_iff (by decide))).2 clear
  rw [isWellFormed_iff, and_iff_right pairedToo, and_iff_left clearToo, located.mem_iff ⟨rfl, rfl⟩]
  apply imp_congr_right
  intro opened
  have address := holds opened
  rw [bracketsHold_eq, Bool.and_eq_true] at address
  rw [bracketsHold_eq, Bool.and_eq_true]
  apply (and_iff_right address.1).trans
  exact isBracketedHost_alike alike.symm address.2

end Hosted

/-- The authority of an audience with a host is in lower case just if the zone of the host is. Of the ways to write the
host in another letter case, those keep the authority that leave the zone as it is and, if brackets ask for an address,
leave the small `v` of a future version. -/
theorem authority_case_iff {audience id : String} (other : ¬IsUrn audience) (meant : authority audience = .ok id) :
    (∃ parts : Hosted, parts.audience = audience) ∧ ∀ parts : Hosted, parts.audience = audience →
      ((∀ c ∈ id.toList, isCapital c = false) ↔ ∀ c ∈ zone parts.name, isCapital c = false) ∧
      ∀ (spelling : List Char) (alike : Alike spelling parts.name),
        authority (parts.recase alike).audience = .ok id ↔ zone spelling = zone parts.name ∧
          ('[' ∈ parts.location → (parts.name.head? = some 'v' ↔ spelling.head? = some 'v')) := by
  refine ⟨exists_hosted other meant, ?_⟩
  rintro parts rfl
  obtain ⟨clear, formed, given, named⟩ := Hosted.authority_ok_iff.1 meant
  refine ⟨?_, ?_⟩
  · rw [named]
    exact lowerHost_capital_iff
  intro spelling alike
  have clearToo : ∀ c ∈ (parts.recase alike).audience.toList, isForbidden c = false :=
    ((Hosted.recase_audience alike).forall_iff (toLower_iff (by decide))).2 clear
  have givenToo : spelling ≠ [] := mt alike.nil_iff.1 given
  have namedToo : id.toList = lowerHost spelling ↔ zone spelling = zone parts.name := by
    rw [named, eq_comm, lowerHost_eq_iff alike]
  rw [Hosted.authority_ok_iff, and_iff_right clearToo, Hosted.recase_isWellFormed alike formed]
  have rest := (and_iff_right givenToo).trans namedToo
  exact (and_congr_right' rest).trans and_comm

def escaped : Hosted := .bare "Kreivo%2EApp".toList rfl

theorem authority_case_iff_specimen : escaped.audience = "https://Kreivo%2EApp" ∧
    (¬∀ c ∈ "kreivo%2EApp".toList, isCapital c = false) ∧
    ∀ (spelling : List Char) (alike : Alike spelling escaped.name),
      authority (escaped.recase alike).audience = .ok "kreivo%2EApp" ↔ zone spelling = "%2EApp".toList := by
  have meant : authority escaped.audience = .ok "kreivo%2EApp" := rfl
  obtain ⟨-, every⟩ := authority_case_iff escaped.not_isUrn meant
  obtain ⟨capitals, spellings⟩ := every escaped rfl
  refine ⟨rfl, ?_, ?_⟩
  · rw [capitals]
    exact fun lowered => absurd (lowered 'E' (by decide)) (by decide)
  · intro spelling alike
    rw [spellings spelling alike]
    exact and_iff_left fun opened => absurd opened (by decide)

/-- An escape has its letters in either case, and an authority for each. -/
theorem authority_escape : ¬IsUrn "https://Kreivo%2EApp" ∧
    authority "https://Kreivo%2EApp" = .ok "kreivo%2EApp" ∧ 'E' ∈ "kreivo%2EApp".toList ∧ isCapital 'E' = true ∧
    authority "https://Kreivo%2eApp" = .ok "kreivo%2eApp" :=
  ⟨escaped.not_isUrn, rfl, by decide, rfl, rfl⟩

end Credential.Audience
