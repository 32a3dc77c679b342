import Credential.Proofs.Text.Alike

/-! What lower case does to a text of any characters. No capital of ASCII is left in it, letter case in ASCII makes no
difference to it, and what is no part of the table of letters stays where it is. -/

namespace Credential.Text

def isCapital (c : Char) : Bool := 0x41 ≤ c.toNat && c.toNat ≤ 0x5A

section Table

variable {run : CaseRun} {point : Nat} {c d : Char}

theorem CaseRun.holds_iff : run.holds point = true ↔
    (run.first ≤ point ∧ point ≤ run.last) ∧ (point - run.first) % run.stride = 0 := by
  simp [CaseRun.holds]

/-- Whatever the table gives is a character, and beyond the capitals of ASCII. -/
private theorem runs_shift : ∀ run ∈ lowerRuns, 0x5A < run.first + run.shift ∧
    (run.last + run.shift < 0xD800 ∨ 0xDFFF < run.first + run.shift ∧ run.last + run.shift < 0x110000) := by
  decide +kernel

theorem toNat_shifted (member : run ∈ lowerRuns) (holds : run.holds point = true) :
    ((Char.ofNat (point + run.shift).toNat).toNat : Int) = point + run.shift := by
  obtain ⟨⟨least, most⟩, -⟩ := CaseRun.holds_iff.1 holds
  have within := runs_shift run member
  have valid : (point + run.shift).toNat.isValidChar := by
    rw [Nat.isValidChar]
    omega
  have same : (Char.ofNat (point + run.shift).toNat).toNat = (point + run.shift).toNat := by
    rw [Char.ofNat, dif_pos valid]
    rfl
  rw [same]
  omega

/-- A character in lower case: the dotted I becomes two, one of the table is moved, and any other is left. -/
theorem lowerChar_cases (c : Char) : c.toNat = 0x130 ∧ lowerChar c = ['i', Char.ofNat 0x307] ∨
    (∃ run ∈ lowerRuns, run.holds c.toNat = true ∧ lowerChar c = [Char.ofNat (c.toNat + run.shift).toNat]) ∨
    (∀ run ∈ lowerRuns, run.holds c.toNat = false) ∧ lowerChar c = [c] := by
  unfold lowerChar
  split
  next dotted => exact .inl ⟨dotted, rfl⟩
  next undotted =>
    split
    next run found =>
      have holds := List.find?_some found
      exact .inr (.inl ⟨run, List.mem_of_find?_eq_some found, holds, rfl⟩)
    next absent => exact .inr (.inr ⟨fun run member => Bool.eq_false_iff.2 (List.find?_eq_none.1 absent run member), rfl⟩)

theorem not_isCapital_of_mem_lowerChar (member : d ∈ lowerChar c) : isCapital d = false := by
  apply Bool.eq_false_iff.2
  simp only [isCapital, ne_eq, Bool.and_eq_true, decide_eq_true_eq]
  rcases lowerChar_cases c with ⟨-, same⟩ | ⟨run, inside, holds, same⟩ | ⟨outside, same⟩
  · rw [same, List.mem_cons, List.mem_singleton] at member
    rcases member with rfl | rfl <;> decide
  · rw [same, List.mem_singleton] at member
    subst member
    have large := (runs_shift run inside).1
    have shifted := toNat_shifted inside holds
    have least := (CaseRun.holds_iff.1 holds).1.1
    omega
  · rw [same, List.mem_singleton] at member
    subst member
    intro capital
    have holds : CaseRun.holds ⟨0x41, 0x5A, 1, 0x20⟩ d.toNat = true :=
      CaseRun.holds_iff.2 ⟨capital, Nat.mod_one _⟩
    rw [outside _ List.mem_cons_self] at holds
    cases holds

/-- No part of the table: neither a letter that has a lower case, nor the lower case of one. -/
def isUntouched (point : Nat) : Bool :=
  !List.contains [0x69, 0x130, 0x307, 0x3A3, 0x3C2, 0x3C3] point && lowerRuns.all fun run =>
    !(run.first ≤ point && point ≤ run.last) && !(run.first + run.shift ≤ point && point ≤ run.last + run.shift)

private theorem isUntouched_iff : isUntouched point = true ↔
    point ∉ [0x69, 0x130, 0x307, 0x3A3, 0x3C2, 0x3C3] ∧ ∀ run ∈ lowerRuns,
      ¬(run.first ≤ point ∧ point ≤ run.last) ∧ ¬(run.first + run.shift ≤ point ∧ point ≤ run.last + run.shift) := by
  simp only [isUntouched, Bool.and_eq_true, Bool.not_eq_true', List.all_eq_true, Bool.and_eq_false_iff,
    decide_eq_false_iff_not, List.contains_eq_mem, not_and_or]

theorem mem_lowerChar_iff (untouched : isUntouched d.toNat = true) : d ∈ lowerChar c ↔ d = c := by
  obtain ⟨special, outside⟩ := isUntouched_iff.1 untouched
  rcases lowerChar_cases c with ⟨dotted, same⟩ | ⟨run, inside, holds, same⟩ | ⟨-, same⟩
  · rw [same]
    apply iff_of_false
    · rw [List.mem_cons, List.mem_singleton]
      rintro (rfl | rfl) <;> exact special (by decide)
    · rintro rfl
      rw [dotted] at special
      exact special (by decide)
  · obtain ⟨before, after⟩ := outside run inside
    have range := (CaseRun.holds_iff.1 holds).1
    rw [same, List.mem_singleton]
    apply iff_of_false
    · rintro rfl
      have shifted := toNat_shifted inside holds
      omega
    · rintro rfl
      exact before range
  · rw [same, List.mem_singleton]

end Table

section Lower

variable {c : Char} {text one two : List Char}

private theorem not_isCapital_of_mem_lowerFrom (before : List Char) (member : c ∈ lowerFrom before text) :
    isCapital c = false := by
  induction text generalizing before with
  | nil => cases member
  | cons first rest ih =>
    rw [lowerFrom, List.mem_append] at member
    rcases member with here | later
    · split at here
      · rw [List.mem_singleton] at here
        subst here
        split <;> decide
      · exact not_isCapital_of_mem_lowerChar here
    · exact ih _ later

theorem not_isCapital_of_mem_lower : c ∈ lower text → isCapital c = false := not_isCapital_of_mem_lowerFrom []

private theorem mem_lowerFrom_iff (untouched : isUntouched c.toNat = true) (before : List Char) :
    c ∈ lowerFrom before text ↔ c ∈ text := by
  induction text generalizing before with
  | nil => rfl
  | cons first rest ih =>
    rw [lowerFrom, List.mem_append, ih, List.mem_cons]
    apply or_congr_left
    split
    next sigma =>
      obtain ⟨special, -⟩ := isUntouched_iff.1 untouched
      apply iff_of_false
      · rw [List.mem_singleton]
        rintro rfl
        revert special
        split <;> decide
      · rintro rfl
        rw [sigma] at special
        exact special (by decide)
    · exact mem_lowerChar_iff untouched

theorem mem_lower_iff (untouched : isUntouched c.toNat = true) : c ∈ lower text ↔ c ∈ text :=
  mem_lowerFrom_iff untouched []

theorem lower_eq_nil_iff : lower text = [] ↔ text = [] := by
  constructor
  · intro empty
    cases text with
    | nil => rfl
    | cons first rest =>
      rw [lower, lowerFrom, List.append_eq_nil_iff] at empty
      obtain ⟨empty, -⟩ := empty
      split at empty
      · cases empty
      · rcases lowerChar_cases first with ⟨-, same⟩ | ⟨_, -, -, same⟩ | ⟨-, same⟩ <;> rw [same] at empty <;> cases empty
  · rintro rfl
    rfl

end Lower

section Case

variable {c : Char} {one two : List Char}

theorem toLower_cases (c : Char) :
    c.toLower = c ∨ (0x41 ≤ c.toNat ∧ c.toNat ≤ 0x5A) ∧ c.toLower.toNat = c.toNat + 0x20 := by
  by_cases capital : 0x41 ≤ c.toNat ∧ c.toNat ≤ 0x5A
  · have valid : (c.toNat + 0x20).isValidChar := .inl (by omega)
    refine .inr ⟨capital, ?_⟩
    rw [toLower_of_capital capital, Char.ofNat, dif_pos valid]
    rfl
  · exact .inl (toLower_eq_self capital)

private theorem caseIgnorable_apart : ∀ range ∈ caseIgnorable,
    range.2 < 0x41 ∨ 0x5A < range.1 ∧ range.2 < 0x61 ∨ 0x7A < range.1 := by
  decide +kernel

theorem caseIgnorable_toLower (c : Char) : caseIgnorable.holds c.toLower.toNat = caseIgnorable.holds c.toNat := by
  rcases toLower_cases c with same | ⟨capital, moved⟩
  · rw [same]
  · have outside : ∀ point, 0x41 ≤ point ∧ point ≤ 0x5A ∨ 0x61 ≤ point ∧ point ≤ 0x7A →
        caseIgnorable.holds point = false := by
      intro point letter
      apply List.any_eq_false.2
      rintro ⟨first, last⟩ member holds
      have apart := caseIgnorable_apart _ member
      simp only [Bool.and_eq_true, decide_eq_true_eq] at holds apart
      omega
    rw [outside c.toLower.toNat (by omega), outside c.toNat (.inl capital)]

theorem cased_toLower (c : Char) : cased.holds c.toLower.toNat = cased.holds c.toNat := by
  rcases toLower_cases c with same | ⟨capital, moved⟩
  · rw [same]
  · have leading : cased = (0x41, 0x5A) :: (0x61, 0x7A) :: cased.tail.tail := rfl
    have inside : ∀ point, 0x41 ≤ point ∧ point ≤ 0x5A ∨ 0x61 ≤ point ∧ point ≤ 0x7A → cased.holds point = true := by
      intro point letter
      rw [leading]
      simp only [Ranges.holds, List.any_cons, Bool.or_eq_true, Bool.and_eq_true, decide_eq_true_eq]
      omega
    rw [inside c.toLower.toNat (by omega), inside c.toNat (.inl capital)]

theorem casedNext_map (text : List Char) : casedNext (text.map Char.toLower) = casedNext text := by
  have skips : (fun c : Char => !caseIgnorable.holds c.toNat) ∘ Char.toLower = fun c => !caseIgnorable.holds c.toNat := by
    funext c
    rw [Function.comp_apply, caseIgnorable_toLower]
  unfold casedNext
  rw [List.find?_map, skips]
  cases text.find? fun c => !caseIgnorable.holds c.toNat with
  | none => rfl
  | some found => exact cased_toLower found

theorem lowerChar_toLower (c : Char) : lowerChar c.toLower = lowerChar c := by
  rcases toLower_cases c with same | ⟨capital, moved⟩
  · rw [same]
  · have again : c.toLower.toLower = c.toLower := toLower_eq_self (by omega)
    rw [lowerChar_ascii (by omega), lowerChar_ascii (by omega), again]

private theorem lowerFrom_map (before text : List Char) :
    lowerFrom (before.map Char.toLower) (text.map Char.toLower) = lowerFrom before text := by
  -- what stands before is lowered along, since the form of a sigma depends on both sides of it
  induction text generalizing before with
  | nil => rfl
  | cons c rest ih =>
    have sigma : c.toLower.toNat = 0x3A3 ↔ c.toNat = 0x3A3 := by
      rcases toLower_cases c with same | ⟨capital, moved⟩
      · rw [same]
      · omega
    have later := ih (c :: before)
    rw [List.map_cons] at later
    rw [List.map_cons, lowerFrom, lowerFrom, later, casedNext_map, casedNext_map, lowerChar_toLower]
    simp only [sigma]

/-- Letter case in ASCII makes no difference to the lower case of a text. -/
theorem Alike.lower_eq (alike : Alike one two) : lower one = lower two := by
  rw [lower, lower, ← lowerFrom_map [] one, ← lowerFrom_map [] two, alike]

end Case

end Credential.Text
