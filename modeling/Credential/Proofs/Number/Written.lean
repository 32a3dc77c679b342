import Credential.Number.Written
import Credential.Proofs.Text.Letters
import Credential.Proofs.Text.Trim

/-! Which texts are read as not-a-number. Decimals never are, however large or small, so it takes the name: `nan` in
any letter case, with a sign or without. -/

namespace Credential

namespace Binary64

theorem ofRatio_ne_nan (negative : Bool) (numerator denominator : Nat) :
    ofRatio negative numerator denominator ≠ .nan := by
  unfold ofRatio
  split
  · nofun
  · dsimp only
    split <;> split <;> nofun

theorem ofDecimal_ne_nan (negative : Bool) (digits : Nat) (exponent : Int) :
    ofDecimal negative digits exponent ≠ .nan := by
  unfold ofDecimal
  split
  · nofun
  · split
    · nofun
    · split
      · nofun
      · exact ofRatio_ne_nan negative _ _

end Binary64

namespace Number

open Text

/-- A sign, or none, and `nan` in any letter case. -/
def SpellsNan (text : List Char) : Prop :=
  ∃ sign name, text = sign ++ name ∧ (sign = [] ∨ sign = ['-'] ∨ sign = ['+']) ∧ name.map Char.toLower = ['n', 'a', 'n']

def isNanic (c : Char) : Bool := ['-', '+', 'n', 'a'].contains c.toLower

variable {text found : List Char}

theorem isNanic_plain {c : Char} (nanic : isNanic c = true) : plainDigit c = c ∧ c ≠ '_' ∧ c.isDigit = false := by
  by_cases plain : c.toNat < 0x80
  · apply forall_ascii (motive := fun c => isNanic c = true → plainDigit c = c ∧ c ≠ '_' ∧ c.isDigit = false)
    · decide +kernel
    · exact plain
    · exact nanic
  · unfold isNanic at nanic
    rw [toLower_eq_self (by omega)] at nanic
    have ascii : ['-', '+', 'n', 'a'].all (·.toNat < 0x80) = true := rfl
    exact absurd (of_decide_eq_true (List.all_eq_true.1 ascii c (List.contains_iff_mem.1 nanic))) plain

theorem SpellsNan.nanic (spells : SpellsNan text) : ∀ c ∈ text, isNanic c = true := by
  obtain ⟨sign, name, rfl, signed, named⟩ := spells
  refine List.forall_mem_append.2 ⟨?_, ?_⟩
  · have signs : ∀ sign : List Char, sign = [] ∨ sign = ['-'] ∨ sign = ['+'] → ∀ c ∈ sign, isNanic c = true := by
      rintro _ (rfl | rfl | rfl) <;> exact List.all_eq_true.1 rfl
    exact signs sign signed
  · intro c member
    have lower : c.toLower ∈ ['n', 'a', 'n'] := named ▸ List.mem_map_of_mem member
    have among : ['n', 'a', 'n'].all (['-', '+', 'n', 'a'].contains ·) = true := rfl
    exact List.all_eq_true.1 among c.toLower lower

theorem plainDigit_eq_self {c : Char} (other : (plainDigit c).isDigit = false) : plainDigit c = c := by
  unfold plainDigit at other ⊢
  split
  next value found =>
    rw [found] at other
    unfold digitValue? at found
    obtain ⟨start, first, rfl⟩ := Option.map_eq_some_iff.1 found
    have within := List.find?_some first
    simp only [Bool.and_eq_true, decide_eq_true_eq] at within
    have digits : ∀ place : Fin 10, (Char.ofNat ('0'.toNat + place.val)).isDigit = true := by decide
    have digit := digits ⟨c.toNat - start, by omega⟩
    rw [other] at digit
    cases digit
  · rfl

theorem joinGroups?_plain (afterDigit : Bool) (plain : ∀ c ∈ text, c ≠ '_') :
    joinGroups? afterDigit text = some text := by
  fun_induction joinGroups? afterDigit text with
  | case1 => rfl
  | case2 => exact absurd rfl (plain '_' List.mem_cons_self)
  | case3 => exact absurd rfl (plain '_' List.mem_cons_self)
  | case4 => exact absurd rfl (plain '_' List.mem_cons_self)
  | case5 afterDigit c rest _ other ih =>
    rw [ih fun d member => plain d (List.mem_cons_of_mem c member)]
    rfl

/-- Where no digit is left there was no underscore. -/
theorem eq_of_joinGroups? {afterDigit : Bool} (joined : joinGroups? afterDigit text = some found)
    (wordy : ∀ c ∈ found, c.isDigit = false) : text = found := by
  fun_induction joinGroups? afterDigit text generalizing found with
  | case1 => exact Option.some.inj joined
  | case2 afterDigit c rest grouped ih =>
    obtain ⟨more, -, rfl⟩ := Option.map_eq_some_iff.1 joined
    rw [wordy c List.mem_cons_self, Bool.and_false] at grouped
    cases grouped
  | case3 => cases joined
  | case4 => cases joined
  | case5 afterDigit c rest _ other ih =>
    obtain ⟨more, later, rfl⟩ := Option.map_eq_some_iff.1 joined
    rw [ih later fun d member => wordy d (List.mem_cons_of_mem c member)]

theorem plain?_nan_iff :
    plain? text = some found ∧ SpellsNan found ↔ trimBy isMargin text = found ∧ SpellsNan found := by
  apply and_congr_left
  intro spells
  have wordy : ∀ c ∈ found, plainDigit c = c ∧ c ≠ '_' ∧ c.isDigit = false :=
    fun c member => isNanic_plain (spells.nanic c member)
  unfold plain?
  refine ⟨?_, ?_⟩
  · intro joined
    have same := eq_of_joinGroups? joined fun c member => (wordy c member).2.2
    rw [← same]
    apply (List.map_id _).symm.trans
    apply List.map_congr_left
    intro c member
    apply (plainDigit_eq_self _).symm
    have kept : plainDigit c ∈ found := same ▸ List.mem_map_of_mem member
    exact (wordy _ kept).2.2
  · rintro rfl
    have same : (trimBy isMargin text).map plainDigit = trimBy isMargin text := by
      apply (List.map_congr_left _).trans (List.map_id _)
      intro c member
      exact (wordy c member).1
    rw [same]
    exact joinGroups?_plain false fun c member => (wordy c member).2.1

theorem spellsNan_iff : SpellsNan text ↔ (splitSign text).2.map Char.toLower = ['n', 'a', 'n'] := by
  refine ⟨?_, ?_⟩
  · rintro ⟨sign, name, rfl, rfl | rfl | rfl, named⟩
    · unfold splitSign
      rw [List.nil_append]
      split
      next => cases named
      next => cases named
      next => exact named
    · exact named
    · exact named
  · intro named
    unfold splitSign at named
    split at named
    next rest => exact ⟨['-'], rest, rfl, .inr (.inl rfl), named⟩
    next rest => exact ⟨['+'], rest, rfl, .inr (.inr rfl), named⟩
    next => exact ⟨[], _, rfl, .inl rfl, named⟩

theorem decimal?_ne_nan (negative : Bool) (text : List Char) : decimal? negative text ≠ some .nan := by
  have ends (whole : List Char) (parts : List Char × List Char) :
      (if whole.isEmpty && parts.1.isEmpty then none else do
        let exponent ← exponent? parts.2
        some (Binary64.ofDecimal negative (decimalValue (whole ++ parts.1)) (exponent - parts.1.length))) ≠
      some .nan := by
    intro found
    split at found
    · cases found
    · rw [Option.bind_eq_bind] at found
      obtain ⟨exponent, -, same⟩ := Option.bind_eq_some_iff.1 found
      exact Binary64.ofDecimal_ne_nan _ _ _ (Option.some.inj same)
  exact ends (text.takeWhile Char.isDigit) _

theorem real?_eq_nan_iff : real? text = some .nan ↔ SpellsNan (trimBy isMargin text) := by
  have named (negative : Bool) (rest : List Char) :
      (let name := String.ofList (rest.map Char.toLower)
        if name = "inf" ∨ name = "infinity" then some (Binary64.infinity negative)
        else if name = "nan" then some .nan
        else decimal? negative rest) = some .nan ↔ rest.map Char.toLower = ['n', 'a', 'n'] := by
    have same : String.ofList (rest.map Char.toLower) = "nan" ↔ rest.map Char.toLower = ['n', 'a', 'n'] :=
      String.ofList_inj
    rw [← same]
    dsimp only
    generalize String.ofList (rest.map Char.toLower) = name
    refine ⟨?_, ?_⟩
    · intro found
      split at found
      · cases found
      · split at found
        next here => exact here
        next => exact absurd found (decimal?_ne_nan negative rest)
    · rintro rfl
      rfl
  unfold real?
  rw [Option.bind_eq_bind, Option.bind_eq_some_iff]
  calc (∃ plain, plain? text = some plain ∧ _)
      ↔ ∃ plain, plain? text = some plain ∧ SpellsNan plain := by
        apply exists_congr
        intro plain
        rw [spellsNan_iff]
        exact and_congr_right fun _ => named _ _
    _ ↔ ∃ plain, trimBy isMargin text = plain ∧ SpellsNan plain := exists_congr fun plain => plain?_nan_iff
    _ ↔ SpellsNan (trimBy isMargin text) := exists_eq_left'

theorem real?_trim_eq_nan_iff : real? (trim text) = some .nan ↔ SpellsNan (trim text) := by
  have solid : ∀ c, isBlank c = false → isMargin c = false := by
    intro c solid
    rw [isMargin, solid, Bool.false_and]
  obtain ⟨first, last⟩ := tight_trimBy isBlank text
  have tight : Tight isMargin (trim text) :=
    ⟨fun c member => solid c (first c member), fun c member => solid c (last c member)⟩
  rw [real?_eq_nan_iff, trimBy_eq_self tight]

end Number

end Credential
