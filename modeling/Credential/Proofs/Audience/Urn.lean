import Credential.Proofs.Audience

/-! Which audiences are authority URNs. The word before the id is read in any letter case, and so is the id, each as
letter case goes in all of Unicode. Four letters beyond ASCII thereby pass for letters of it, and they get into an id as
they are; without them an authority URN is what it is documented to be. -/

namespace Credential.Audience

open Text

/-- Letters beyond ASCII that fold to letters of it: dotted capital i and dotless i, long s, and the Kelvin sign. -/
def lookalikes : List Char := ['\u0130', '\u0131', '\u017f', '\u212a']

section Letters

variable {c : Char}

theorem mem_lookalikes_iff :
    c ∈ lookalikes ↔ c.toNat = 0x130 ∨ c.toNat = 0x131 ∨ c.toNat = 0x17F ∨ c.toNat = 0x212A := by
  simp only [lookalikes, List.mem_cons, List.not_mem_nil, or_false, ← Char.toNat_inj]
  rfl

theorem lookalike_large (look : c ∈ lookalikes) : 0x80 ≤ c.toNat := by
  have either := mem_lookalikes_iff.1 look
  omega

theorem fold_eq_toLower (plain : c ∉ lookalikes) : fold c = c.toLower := by
  rw [mem_lookalikes_iff, not_or, not_or, not_or] at plain
  obtain ⟨undotted, dotted, short, kelvin⟩ := plain
  rw [fold, if_neg (not_or.2 ⟨undotted, dotted⟩), if_neg short, if_neg kelvin]

theorem fold_lookalike (look : c ∈ lookalikes) : fold c = 'i' ∨ fold c = 's' ∨ fold c = 'k' := by
  rcases mem_lookalikes_iff.1 look with dotted | dotless | long | kelvin
  · exact .inl (if_pos (.inl dotted))
  · exact .inl (if_pos (.inr dotless))
  · right
    left
    rw [fold, if_neg (by omega), if_pos long]
  · right
    right
    rw [fold, if_neg (by omega), if_neg (by omega), if_pos kelvin]

theorem isIdChar_iff : isIdChar c = true ↔ isPlain c = true ∨ c ∈ lookalikes := by
  constructor
  · intro valid
    by_cases look : c ∈ lookalikes
    · exact .inr look
    · left
      have folded : isPlain (fold c) = true := by
        simp only [isIdChar, isPlain, isLetter, Bool.or_eq_true, Bool.and_eq_true] at valid ⊢
        tauto
      rw [fold_eq_toLower look] at folded
      exact of_toLower (isPlain · = true) (by decide) folded
  · rintro (symbol | look)
    · apply forall_ascii (motive := fun c => isPlain c = true → isIdChar c = true)
      · decide
      · exact isPlain_ascii symbol
      · exact symbol
    · have letter := fold_lookalike look
      unfold isIdChar
      rcases letter with same | same | same <;> rw [same] <;> decide

theorem isForbidden_fold (forbidden : isForbidden c = true) : isForbidden (fold c) = true := by
  apply forall_ascii (motive := fun c => isForbidden c = true → isForbidden (fold c) = true)
  · decide
  · exact isForbidden_ascii forbidden
  · exact forbidden

end Letters

section Urn

variable {rest id : List Char}

theorem urnId?_eq_some_iff : urnId? rest = some id ↔
    (∃ word, rest = word ++ ':' :: id ∧ word.map fold = "authority".toList) ∧ id ≠ [] ∧ ∀ c ∈ id, isIdChar c = true := by
  constructor
  · intro found
    unfold urnId? at found
    split at found
    next word after parts =>
      obtain ⟨whole, -⟩ := cut_eq_some_iff.1 parts
      split at found
      next valid =>
        cases found
        simp only [Bool.and_eq_true, decide_eq_true_eq, Bool.not_eq_true', List.isEmpty_eq_false_iff, List.all_eq_true] at valid
        exact ⟨⟨word, whole, valid.1.1⟩, valid.1.2, valid.2⟩
      · cases found
    · cases found
  · rintro ⟨⟨word, rfl, folded⟩, given, valid⟩
    have clear : ':' ∉ word := by
      intro member
      have colon : ':' ∈ "authority".toList := folded ▸ List.mem_map_of_mem (f := fold) member
      exact absurd colon (by decide)
    have all : (word.map fold = "authority".toList && !id.isEmpty && id.all isIdChar) = true := by
      simp only [Bool.and_eq_true, decide_eq_true_eq, Bool.not_eq_true', List.isEmpty_eq_false_iff, List.all_eq_true]
      exact ⟨⟨folded, given⟩, valid⟩
    simp only [urnId?, cut_append clear id]
    exact if_pos all

end Urn

def IsUrn (audience : String) : Prop :=
  ∃ scheme rest, audience.toList = scheme ++ ':' :: rest ∧ scheme.map Char.toLower = "urn".toList

/-- The colon after the scheme is the first one, and so there is one way to read a scheme. -/
theorem isUrn_iff {audience : String} {scheme rest : List Char} (whole : audience.toList = scheme ++ ':' :: rest)
    (clear : ':' ∉ scheme) : IsUrn audience ↔ scheme.map Char.toLower = "urn".toList := by
  constructor
  · rintro ⟨named, after, wholeToo, lowered⟩
    have clearToo : ':' ∉ named := by
      intro member
      have among : Char.toLower ':' ∈ "urn".toList := lowered ▸ List.mem_map_of_mem member
      exact absurd among (by decide)
    have parts := cut_eq_some_iff.2 ⟨whole, clear⟩
    rw [cut_eq_some_iff.2 ⟨wholeToo, clearToo⟩] at parts
    cases parts
    exact lowered
  · intro lowered
    exact ⟨scheme, rest, whole, lowered⟩

/-- An authority URN as documented: `urn:authority:` in any letter case of ASCII, and an id. -/
structure Documented (audience id : String) : Prop where
  written : ∃ opening, audience.toList = opening ++ id.toList ∧ opening.map Char.toLower = "urn:authority:".toList
  given : id ≠ ""
  symbols : ∀ c ∈ id.toList, isPlain c = true

/-- The same where look-alikes count as what they fold to. -/
structure Resembles (audience id : String) : Prop where
  written : ∃ opening, audience.toList = opening ++ id.toList ∧ opening.map fold = "urn:authority:".toList
  given : id ≠ ""
  symbols : ∀ c ∈ id.toList, isPlain c = true ∨ c ∈ lookalikes

section Authority

variable {audience id : String} {chars scheme : List Char}

theorem map_fold_eq (plain : ∀ c ∈ chars, c ∉ lookalikes) : chars.map fold = chars.map Char.toLower :=
  List.map_congr_left fun c member => fold_eq_toLower (plain c member)

/-- A look-alike is its own lower case, so it is in no text whose lower case is ASCII. -/
theorem not_mem_lookalikes {lowered : List Char} (ascii : lowered.all (·.toNat < 0x80) = true)
    (same : chars.map Char.toLower = lowered) : ∀ c ∈ chars, c ∉ lookalikes := by
  intro c member look
  have large := lookalike_large look
  have small := of_decide_eq_true (List.all_eq_true.1 ascii c.toLower (same ▸ List.mem_map_of_mem member))
  rw [toLower_eq_self (by omega)] at small
  omega

private theorem isScheme_of_fold (urn : scheme.map fold = "urn".toList) :
    IsScheme scheme ∧ scheme.map Char.toLower = "urn".toList := by
  have folded : ∀ c ∈ scheme, fold c ∈ "urn".toList := fun c member => urn ▸ List.mem_map_of_mem member
  have plain : ∀ c ∈ scheme, c ∉ lookalikes := by
    intro c member look
    have among := folded c member
    rcases fold_lookalike look with same | same | same <;> rw [same] at among <;> exact absurd among (by decide)
  have letters : ∀ c ∈ scheme, isLetter c = true := by
    intro c member
    have every : ∀ letter ∈ "urn".toList, isLetter letter = true := List.all_eq_true.1 rfl
    have letter := every _ (folded c member)
    rw [fold_eq_toLower (plain c member)] at letter
    exact of_toLower (isLetter · = true) (by decide) letter
  rw [map_fold_eq plain] at urn
  refine ⟨⟨?_, ?_⟩, urn⟩
  · cases scheme with
    | nil => exact absurd urn (by decide)
    | cons first more => exact ⟨first, more, rfl, letters first (List.mem_cons_self ..)⟩
  · intro c member
    simp [isSchemeChar, letters c member]

private theorem fold_eq_colon {c : Char} (folded : fold c = ':') : c = ':' := by
  have plain : c ∉ lookalikes := by
    intro look
    rcases fold_lookalike look with same | same | same <;> rw [same] at folded <;> exact absurd folded (by decide)
  rw [fold_eq_toLower plain] at folded
  exact of_toLower (· = ':') (by decide) folded

theorem Resembles.parts (resembles : Resembles audience id) : ∃ scheme word,
    audience.toList = scheme ++ ':' :: (word ++ ':' :: id.toList) ∧ IsScheme scheme ∧
      scheme.map Char.toLower = "urn".toList ∧ word.map fold = "authority".toList := by
  obtain ⟨opening, whole, folded⟩ := resembles.written
  have literal : "urn:authority:".toList = "urn".toList ++ ':' :: ("authority".toList ++ [':']) := rfl
  rw [literal] at folded
  obtain ⟨scheme, later, rfl, urn, folded⟩ := List.map_eq_append_iff.1 folded
  obtain ⟨colon, later, rfl, first, folded⟩ := List.map_eq_cons_iff.1 folded
  obtain ⟨word, last, rfl, named, folded⟩ := List.map_eq_append_iff.1 folded
  obtain ⟨mark, rfl, second⟩ := List.map_eq_singleton_iff.1 folded
  obtain rfl := fold_eq_colon first
  obtain rfl := fold_eq_colon second
  obtain ⟨proper, lowered⟩ := isScheme_of_fold urn
  refine ⟨scheme, word, ?_, proper, lowered, named⟩
  rw [whole]
  simp

theorem Resembles.isUrn (resembles : Resembles audience id) : IsUrn audience := by
  obtain ⟨scheme, word, whole, -, lowered, -⟩ := resembles.parts
  exact ⟨scheme, _, whole, lowered⟩

theorem Resembles.clear (resembles : Resembles audience id) : ∀ c ∈ audience.toList, isForbidden c = false := by
  obtain ⟨opening, whole, folded⟩ := resembles.written
  rw [whole, List.forall_mem_append]
  refine ⟨?_, fun c member => isForbidden_eq_false (by decide) (isIdChar_iff.2 (resembles.symbols c member))⟩
  intro c member
  apply Bool.eq_false_iff.2
  intro forbidden
  have still := isForbidden_fold forbidden
  have among : fold c ∈ "urn:authority:".toList := folded ▸ List.mem_map_of_mem member
  have every : ∀ letter ∈ "urn:authority:".toList, ¬isForbidden letter = true := List.any_eq_false.1 rfl
  exact every _ among still

theorem Resembles.authority (resembles : Resembles audience id) : authority audience = .ok id := by
  obtain ⟨scheme, word, whole, proper, lowered, named⟩ := resembles.parts
  have parted : Parted audience scheme (word ++ ':' :: id.toList) := ⟨whole, proper, resembles.clear⟩
  apply (parted.urn_iff lowered).2
  apply urnId?_eq_some_iff.2
  refine ⟨⟨word, rfl, named⟩, ?_, fun c member => isIdChar_iff.2 (resembles.symbols c member)⟩
  intro empty
  exact resembles.given (String.toList_eq_nil_iff.1 empty)

theorem resembles_of_authority (urn : IsUrn audience) (meant : Audience.authority audience = .ok id) :
    Resembles audience id := by
  obtain ⟨scheme, rest, parted⟩ := parted_of_authority meant
  have clear : ':' ∉ scheme := not_mem_of_kind parted.proper.symbols rfl
  have lowered := (isUrn_iff parted.whole clear).1 urn
  obtain ⟨⟨word, rfl, folded⟩, given, valid⟩ := urnId?_eq_some_iff.1 ((parted.urn_iff lowered).1 meant)
  have plain : ∀ c ∈ scheme, c ∉ lookalikes := not_mem_lookalikes rfl lowered
  refine ⟨⟨scheme ++ ':' :: (word ++ [':']), ?_, ?_⟩, ?_, ?_⟩
  · rw [parted.whole]
    simp
  · rw [List.map_append, map_fold_eq plain, lowered, List.map_cons, List.map_append, folded]
    rfl
  · rintro rfl
    exact given rfl
  · intro c member
    exact isIdChar_iff.1 (valid c member)

theorem Documented.plain (documented : Documented audience id) : ∀ c ∈ audience.toList, c ∉ lookalikes := by
  obtain ⟨opening, whole, lowered⟩ := documented.written
  rw [whole, List.forall_mem_append]
  refine ⟨not_mem_lookalikes rfl lowered, ?_⟩
  intro c member look
  have large := lookalike_large look
  have small := isPlain_ascii (documented.symbols c member)
  omega

theorem documented_iff_resembles (plain : ∀ c ∈ audience.toList, c ∉ lookalikes) :
    Documented audience id ↔ Resembles audience id := by
  constructor
  · rintro ⟨⟨opening, whole, lowered⟩, given, symbols⟩
    rw [whole, List.forall_mem_append] at plain
    rw [← map_fold_eq plain.1] at lowered
    exact ⟨⟨opening, whole, lowered⟩, given, fun c member => .inl (symbols c member)⟩
  · rintro ⟨⟨opening, whole, folded⟩, given, symbols⟩
    rw [whole, List.forall_mem_append] at plain
    rw [map_fold_eq plain.1] at folded
    exact ⟨⟨opening, whole, folded⟩, given, fun c member => (symbols c member).resolve_right (plain.2 c member)⟩

/-- The URNs with an authority are those that resemble a documented one, and the documented ones among them are those
without a look-alike. -/
theorem urn_documented_iff (audience id : String) :
    (IsUrn audience ∧ Audience.authority audience = .ok id ↔ Resembles audience id) ∧
      (Documented audience id ↔ Resembles audience id ∧ ∀ c ∈ audience.toList, c ∉ lookalikes) := by
  refine ⟨⟨?_, ?_⟩, ?_, ?_⟩
  · rintro ⟨urn, meant⟩
    exact resembles_of_authority urn meant
  · intro resembles
    exact ⟨resembles.isUrn, resembles.authority⟩
  · intro documented
    exact ⟨(documented_iff_resembles documented.plain).1 documented, documented.plain⟩
  · rintro ⟨resembles, plain⟩
    exact (documented_iff_resembles plain).2 resembles

/-- A Kelvin sign gets into an authority of its own that looks like one with a K. -/
theorem urn_lookalike : IsUrn "urn:authority:\u212areivo" ∧
    Audience.authority "urn:authority:\u212areivo" = .ok "\u212areivo" ∧
    ¬Documented "urn:authority:\u212areivo" "\u212areivo" := by
  have resembles : Resembles "urn:authority:\u212areivo" "\u212areivo" :=
    ⟨⟨"urn:authority:".toList, rfl, rfl⟩, by decide, fun c member => isIdChar_iff.1 (List.all_eq_true.1 rfl c member)⟩
  refine ⟨resembles.isUrn, resembles.authority, ?_⟩
  intro documented
  exact documented.plain '\u212a' (by decide) (by decide)

end Authority

end Credential.Audience
