import Credential.Text.LetterCase

/-! Letter case in ASCII. There each letter has one other case, 32 places away, so the lower case of a text is that of its
characters one by one. -/

namespace Credential.Text

theorem forall_ascii {motive : Char → Prop} (every : ∀ number : Fin 0x80, motive (Char.ofNat number.val)) {c : Char}
    (plain : c.toNat < 0x80) : motive c := by
  have found := every ⟨c.toNat, plain⟩
  rw [Char.ofNat_toNat] at found
  exact found

theorem toLower_eq_self {c : Char} (other : ¬(0x41 ≤ c.toNat ∧ c.toNat ≤ 0x5A)) : c.toLower = c := by
  apply dif_neg
  rintro ⟨least, most⟩
  exact other ⟨UInt32.le_iff_toNat_le.1 least, UInt32.le_iff_toNat_le.1 most⟩

theorem toLower_of_capital {c : Char} (capital : 0x41 ≤ c.toNat ∧ c.toNat ≤ 0x5A) :
    c.toLower = Char.ofNat (c.toNat + 0x20) := by
  apply forall_ascii (motive := fun c => 0x41 ≤ c.toNat ∧ c.toNat ≤ 0x5A → c.toLower = Char.ofNat (c.toNat + 0x20))
  · decide
  · omega
  · exact capital

/-- What has the lower case of each letter of ASCII along with the letter has it of every character. -/
theorem of_toLower (motive : Char → Prop)
    (every : ∀ number : Fin 0x80, motive (Char.ofNat number.val).toLower → motive (Char.ofNat number.val)) {c : Char}
    (holds : motive c.toLower) : motive c := by
  by_cases plain : c.toNat < 0x80
  · apply forall_ascii (motive := fun c => motive c.toLower → motive c) every
    · exact plain
    · exact holds
  · rw [toLower_eq_self (by omega)] at holds
    exact holds

theorem toLower_congr {α : Type} {reads : Char → α}
    (every : ∀ number : Fin 0x80, reads (Char.ofNat number.val).toLower = reads (Char.ofNat number.val)) (c : Char) :
    reads c.toLower = reads c := by
  by_cases plain : c.toNat < 0x80
  · exact forall_ascii (motive := fun c => reads c.toLower = reads c) every plain
  · rw [toLower_eq_self (by omega)]

theorem toLower_iff {kind : Char → Prop}
    (every : ∀ number : Fin 0x80, kind (Char.ofNat number.val).toLower ↔ kind (Char.ofNat number.val)) (c : Char) :
    kind c.toLower ↔ kind c :=
  (toLower_congr (fun number => propext (every number)) c).to_iff

private theorem later_runs : ∀ run ∈ lowerRuns.tail, 0x80 ≤ run.first := by decide +kernel

theorem lowerChar_ascii {c : Char} (plain : c.toNat < 0x80) : lowerChar c = [c.toLower] := by
  have undotted : ¬c.toNat = 0x130 := by omega
  have beyond : lowerRuns.tail.find? (·.holds c.toNat) = none := by
    apply List.find?_eq_none.2
    intro run member holds
    have first := later_runs run member
    simp only [CaseRun.holds, Bool.and_eq_true, decide_eq_true_eq] at holds
    omega
  have runs : lowerRuns = ⟨0x41, 0x5A, 1, 0x20⟩ :: lowerRuns.tail := rfl
  rw [lowerChar, if_neg undotted, runs, List.find?_cons, beyond]
  by_cases capital : 0x41 ≤ c.toNat ∧ c.toNat ≤ 0x5A
  · have holds : CaseRun.holds ⟨0x41, 0x5A, 1, 0x20⟩ c.toNat = true := by
      simp [CaseRun.holds, capital, Nat.mod_one]
    rw [toLower_of_capital capital]
    simp only [holds]
    rfl
  · have outside : CaseRun.holds ⟨0x41, 0x5A, 1, 0x20⟩ c.toNat = false := by
      simp [CaseRun.holds, Nat.mod_one]
      omega
    rw [toLower_eq_self capital]
    simp only [outside]

theorem lowerFrom_ascii {text : List Char} (before : List Char) (plain : ∀ c ∈ text, c.toNat < 0x80) :
    lowerFrom before text = text.map Char.toLower := by
  induction text generalizing before with
  | nil => rfl
  | cons c rest ih =>
    obtain ⟨first, later⟩ := List.forall_mem_cons.1 plain
    have unfinal : ¬c.toNat = 0x3A3 := by omega
    rw [lowerFrom, if_neg unfinal, lowerChar_ascii first, ih _ later]
    rfl

theorem lower_ascii {text : List Char} (plain : ∀ c ∈ text, c.toNat < 0x80) : lower text = text.map Char.toLower :=
  lowerFrom_ascii [] plain

end Credential.Text
