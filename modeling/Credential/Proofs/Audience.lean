import Credential.Audience
import Credential.Proofs.Text.Cut
import Credential.Proofs.Text.Letters

/-! When an audience has an authority, and what it is. An audience is cut once, at the colon after its scheme, and the
scheme alone decides which of two forms the rest must have. -/

namespace Credential.Audience

open Text

def isPlain (c : Char) : Bool := isLetter c || c.isDigit || c = '.' || c = '_' || c = '~' || c = '-'

section Letters

variable {c : Char}

theorem isLetter_ascii (letter : isLetter c = true) : c.toNat < 0x80 := by
  simp only [isLetter, Bool.or_eq_true, Bool.and_eq_true, decide_eq_true_eq, Char.le_def, UInt32.le_iff_toNat_le] at letter
  rcases letter with ⟨-, most⟩ | ⟨-, most⟩
  · exact Nat.lt_of_le_of_lt most (by decide)
  · exact Nat.lt_of_le_of_lt most (by decide)

theorem isDigit_ascii (digit : c.isDigit = true) : c.toNat < 0x80 := by
  simp only [Char.isDigit, Bool.and_eq_true, decide_eq_true_eq, UInt32.le_iff_toNat_le] at digit
  exact Nat.lt_of_le_of_lt digit.2 (by decide)

theorem isPlain_ascii (symbol : isPlain c = true) : c.toNat < 0x80 := by
  simp only [isPlain, Bool.or_eq_true, decide_eq_true_eq] at symbol
  rcases symbol with ((((letter | digit) | rfl) | rfl) | rfl) | rfl
  · exact isLetter_ascii letter
  · exact isDigit_ascii digit
  · decide
  · decide
  · decide
  · decide

theorem isForbidden_ascii (forbidden : isForbidden c = true) : c.toNat < 0x80 := by
  simp only [isForbidden, Bool.or_eq_true, decide_eq_true_eq] at forbidden
  omega

/-- Only ASCII is forbidden, so the ASCII of a kind of characters tells whether that kind is. -/
theorem isForbidden_eq_false {kind : Char → Bool}
    (every : ∀ number : Fin 0x80, kind (Char.ofNat number.val) = true → isForbidden (Char.ofNat number.val) = false)
    (valid : kind c = true) : isForbidden c = false := by
  apply Bool.eq_false_iff.2
  intro forbidden
  have allowed : isForbidden c = false := by
    apply forall_ascii (motive := fun c => kind c = true → isForbidden c = false) every
    · exact isForbidden_ascii forbidden
    · exact valid
  rw [allowed] at forbidden
  cases forbidden

end Letters

/-- A letter, then letters, digits, and three marks. -/
structure IsScheme (scheme : List Char) : Prop where
  opens : ∃ first more, scheme = first :: more ∧ isLetter first = true
  symbols : ∀ c ∈ scheme, isSchemeChar c = true

theorem splitScheme?_eq_some_iff {text scheme rest : List Char} :
    splitScheme? text = some (scheme, rest) ↔ text = scheme ++ ':' :: rest ∧ IsScheme scheme := by
  constructor
  · intro found
    unfold splitScheme? at found
    split at found
    · cases found
    next first more =>
      split at found
      next before after parts =>
        obtain ⟨whole, -⟩ := cut_eq_some_iff.1 parts
        split at found
        next valid =>
          cases found
          rw [Bool.and_eq_true, List.all_eq_true] at valid
          refine ⟨whole, ?_, valid.2⟩
          cases scheme with
          | nil =>
            cases whole
            exact absurd valid.1 (by decide)
          | cons letter others =>
            cases whole
            exact ⟨_, _, rfl, valid.1⟩
        · cases found
      · cases found
  · rintro ⟨rfl, ⟨first, more, rfl, letter⟩, symbols⟩
    have clear : ':' ∉ first :: more := not_mem_of_kind symbols rfl
    have valid : (isLetter first && (first :: more).all isSchemeChar) = true := by
      rw [Bool.and_eq_true, List.all_eq_true]
      exact ⟨letter, symbols⟩
    have parts : cut ':' ((first :: more) ++ ':' :: rest) = (first :: more, some rest) := cut_append clear rest
    rw [List.cons_append] at parts ⊢
    simp only [splitScheme?, parts]
    exact if_pos valid

/-- The rest of an audience that names a host, and how it is read there. -/
structure NamesHost (rest authority : List Char) : Prop where
  hierarchical : ∃ hierarchy, rest = '/' :: '/' :: hierarchy ∧ isWellFormed (location hierarchy) = true ∧
    authority = host (location hierarchy)
  given : authority ≠ []

structure Parted (audience : String) (scheme rest : List Char) : Prop where
  whole : audience.toList = scheme ++ ':' :: rest
  proper : IsScheme scheme
  clear : ∀ c ∈ audience.toList, isForbidden c = false

section Parted

variable {audience found : String} {scheme rest : List Char}

theorem parted_of_authority (meant : authority audience = .ok found) : ∃ scheme rest, Parted audience scheme rest := by
  cases parts : splitScheme? audience.toList with
  | none =>
    simp only [authority, parts] at meant
    cases meant
  | some pair =>
    obtain ⟨scheme, rest⟩ := pair
    obtain ⟨whole, proper⟩ := splitScheme?_eq_some_iff.1 parts
    cases clear : audience.toList.any isForbidden with
    | true =>
      simp only [authority, parts, clear, if_true] at meant
      cases meant
    | false =>
      refine ⟨scheme, rest, whole, proper, ?_⟩
      intro c member
      exact Bool.eq_false_iff.2 (List.any_eq_false.1 clear c member)

theorem hasScheme_of_authority (meant : authority audience = .ok found) : hasScheme audience.toList = true := by
  obtain ⟨scheme, rest, parted⟩ := parted_of_authority meant
  rw [hasScheme, splitScheme?_eq_some_iff.2 ⟨parted.whole, parted.proper⟩]
  rfl

private theorem Parted.any_forbidden (parted : Parted audience scheme rest) :
    audience.toList.any isForbidden = false := by
  apply List.any_eq_false.2
  intro c member
  exact Bool.eq_false_iff.1 (parted.clear c member)

theorem Parted.urn_iff (parted : Parted audience scheme rest) (urn : scheme.map Char.toLower = "urn".toList) :
    authority audience = .ok found ↔ urnId? rest = some found.toList := by
  have parts := splitScheme?_eq_some_iff.2 ⟨parted.whole, parted.proper⟩
  simp only [authority, parts, parted.any_forbidden, Bool.false_eq_true, if_false, if_pos urn]
  cases urnId? rest with
  | none => simp
  | some id => rw [Except.ok.injEq, Option.some.injEq, ← String.toList_inj, String.toList_ofList]

theorem Parted.host_iff (parted : Parted audience scheme rest) (other : scheme.map Char.toLower ≠ "urn".toList) :
    authority audience = .ok found ↔ NamesHost rest found.toList := by
  have parts := splitScheme?_eq_some_iff.2 ⟨parted.whole, parted.proper⟩
  simp only [authority, parts, parted.any_forbidden, Bool.false_eq_true, if_false, if_neg other]
  split
  next hierarchy =>
    cases formed : isWellFormed (location hierarchy) with
    | false =>
      apply iff_of_false (by rintro ⟨⟩)
      rintro ⟨⟨_, same, formedToo, -⟩, -⟩
      cases same
      rw [formed] at formedToo
      cases formedToo
    | true =>
      by_cases empty : host (location hierarchy) = []
      · rw [if_neg (by decide), if_pos empty]
        apply iff_of_false (by rintro ⟨⟩)
        rintro ⟨⟨_, same, -, named⟩, given⟩
        cases same
        exact given (named.trans empty)
      · rw [if_neg (by decide), if_neg empty, Except.ok.injEq, ← String.toList_inj, String.toList_ofList]
        constructor
        · intro named
          exact ⟨⟨hierarchy, rfl, formed, named.symm⟩, named ▸ empty⟩
        · rintro ⟨⟨_, same, -, named⟩, -⟩
          cases same
          exact named.symm
  next unhierarchical =>
    apply iff_of_false (by rintro ⟨⟩)
    rintro ⟨⟨hierarchy, same, -⟩, -⟩
    exact unhierarchical hierarchy same

end Parted

end Credential.Audience
