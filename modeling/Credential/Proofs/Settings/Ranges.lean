import Credential.Proofs.Number.Written
import Credential.Proofs.Settings

/-! Settings and their ranges. Whatever settings are made from, all their values are within the ranges, the timeout
excepted: not-a-number is neither above zero nor zero or below, and the latter is what is tested. It is the one value
that gets past, and of an environment it asks that the timeout be spelled so. -/

namespace Credential

/-- Above zero, which not-a-number is not. -/
def Binary64.IsPositive : Binary64 → Prop
  | .nan => False
  | .infinity negative => negative = false
  | .finite negative mantissa _ => negative = false ∧ 0 < mantissa

theorem Binary64.isPositive_iff {number : Binary64} :
    number.IsPositive ↔ number ≠ .nan ∧ number.isNonPositive = false := by
  cases number with
  | nan => exact iff_of_false id fun measured => measured.1 rfl
  | infinity negative => simp [IsPositive, isNonPositive]
  | finite negative mantissa exponent => simp [IsPositive, isNonPositive, Nat.pos_iff_ne_zero]

namespace Settings

structure Draft.InRange (draft : Draft) : Prop where
  bounded : draft.Bounded
  positive : draft.timeout.IsPositive

theorem inRange_values_iff {settings : Settings} : settings.values.InRange ↔ settings.timeout ≠ .nan := by
  refine ⟨?_, ?_⟩
  · intro inRange
    exact (Binary64.isPositive_iff.1 inRange.positive).1
  · intro measured
    exact ⟨settings.bounded_values, Binary64.isPositive_iff.2 ⟨measured, settings.timeoutRange⟩⟩

theorem exists_ofDraft_iff_positive {draft : Draft} : (∃ settings, ofDraft draft = .ok settings) ↔
    draft.Bounded ∧ (draft.timeout.IsPositive ∨ draft.timeout = .nan) := by
  rw [exists_ofDraft_iff, Binary64.isPositive_iff]
  apply and_congr_right'
  cases given : draft.timeout with
  | nan => exact iff_of_true rfl (.inr rfl)
  | infinity negative => simp
  | finite negative mantissa exponent => simp

namespace Environment

open Text

def SpellsNan (environment : Environment) : Prop :=
  ∃ raw, Assoc.get? "PASS_JWT_HTTP_TIMEOUT" environment = some raw ∧ Number.SpellsNan (trim raw.toList)

variable {environment : Environment} {draft : Draft} {settings : Settings}

theorem real_ok_iff {text : List Char} {value : Binary64} : real text = .ok value ↔ Number.real? text = some value := by
  unfold real
  cases Number.real? text <;> simp

theorem timeout_nan_iff (read : environment.draft = .ok draft) : draft.timeout = .nan ↔ environment.SpellsNan := by
  obtain ⟨length, allowed, network, timeout, -, -, -, found, rfl⟩ := draft_ok_iff.1 read
  have solid : ∀ text, Number.SpellsNan (trim text) → ¬Blank text := by
    intro text ⟨sign, name, same, _, named⟩ blank
    rw [trim_eq_nil_iff.2 blank] at same
    obtain ⟨-, rfl⟩ := List.append_eq_nil_iff.1 same.symm
    cases named
  have spelled : timeout = some .nan ↔ environment.SpellsNan := by
    have same : timeout = some .nan ↔ entry? environment "PASS_JWT_HTTP_TIMEOUT" real = .ok (some .nan) := by
      rw [found, Except.ok.injEq]
    rw [same, entry?_some_iff]
    apply exists_congr
    intro raw
    rw [real_ok_iff, Number.real?_trim_eq_nan_iff]
    exact and_congr_right' (and_iff_right_of_imp (solid raw.toList))
  rw [← spelled]
  cases timeout with
  | none => exact iff_of_false (Binary64.ofDecimal_ne_nan false 10 0) nofun
  | some value => exact Option.some_inj.symm

end Environment

/-- Of all settings those alone are out of range whose timeout is not-a-number. They are made where a draft has it and
is within range besides, which an environment's is just if the variable of the timeout spells it; every other draft out
of range is refused. -/
theorem inRange_iff_measured (draft : Draft) (environment : Environment) :
    (∀ settings : Settings, settings.values.InRange ↔ settings.timeout ≠ .nan) ∧
    ((∃ settings, ofDraft draft = .ok settings) ↔
      draft.Bounded ∧ (draft.timeout.IsPositive ∨ draft.timeout = .nan)) ∧
    (∀ settings, ofDraft draft = .ok settings → (settings.values.InRange ↔ draft.timeout ≠ .nan)) ∧
    (∀ settings, environment.settings = .ok settings → (settings.values.InRange ↔ ¬environment.SpellsNan)) ∧
    (environment.draft = .ok draft → ¬draft.InRange → ¬environment.SpellsNan →
      ∃ cause, environment.settings = .error (.badSettings cause)) := by
  have made : ∀ draft settings, ofDraft draft = .ok settings → settings.timeout = draft.timeout := by
    intro draft settings made
    exact congrArg Draft.timeout (values_of_ofDraft made)
  refine ⟨fun _ => inRange_values_iff, exists_ofDraft_iff_positive, ?_, ?_, ?_⟩
  · intro settings succeeds
    rw [inRange_values_iff, made draft settings succeeds]
  · intro settings succeeds
    obtain ⟨given, read, succeeds⟩ := Environment.settings_ok_iff.1 succeeds
    rw [inRange_values_iff, made given settings succeeds, ne_eq, Environment.timeout_nan_iff read]
  · intro read outside spelled
    have measured : draft.timeout ≠ .nan := mt (Environment.timeout_nan_iff read).1 spelled
    cases ended : ofDraft draft with
    | ok settings =>
      obtain ⟨bounded, positive⟩ := exists_ofDraft_iff_positive.1 ⟨settings, ended⟩
      exact absurd ⟨bounded, positive.resolve_right measured⟩ outside
    | error cause =>
      refine ⟨cause, ?_⟩
      simp only [Environment.settings, read, Bind.bind, Except.bind, ended]

/-- The widest settings but for their timeout. -/
def unmeasured : Settings := { widest with timeout := .nan, timeoutRange := rfl }

/-- A timeout that is set and not above zero. -/
theorem settings_not_positive : ∃ settings,
    Environment.settings [("PASS_JWT_HTTP_TIMEOUT", "nan")] = .ok settings ∧ ¬settings.timeout.IsPositive :=
  ⟨unmeasured, rfl, id⟩

/-- Not-a-number with a sign, in capitals and between blanks, and a timeout below zero that is refused. -/
theorem inRange_iff_measured_specimen :
    (∃ settings, Environment.settings [("PASS_JWT_HTTP_TIMEOUT", " -NaN ")] = .ok settings ∧
      ¬settings.values.InRange) ∧
    ∃ cause, Environment.settings [("PASS_JWT_HTTP_TIMEOUT", "-inf")] = .error (.badSettings cause) := by
  obtain ⟨-, -, -, succeeds, -⟩ := inRange_iff_measured .initial [("PASS_JWT_HTTP_TIMEOUT", " -NaN ")]
  obtain ⟨-, -, -, -, refused⟩ :=
    inRange_iff_measured { Draft.initial with timeout := .infinity true } [("PASS_JWT_HTTP_TIMEOUT", "-inf")]
  refine ⟨?_, ?_⟩
  · have made : Environment.settings [("PASS_JWT_HTTP_TIMEOUT", " -NaN ")] = .ok unmeasured := rfl
    refine ⟨unmeasured, made, ?_⟩
    intro inRange
    apply (succeeds _ made).1 inRange
    exact ⟨" -NaN ", rfl, ['-'], ['N', 'a', 'N'], rfl, .inr (.inl rfl), rfl⟩
  · apply refused
    · rfl
    · intro inRange
      cases inRange.positive
    · intro ⟨raw, given, spells⟩
      cases given
      cases Number.spellsNan_iff.1 spells

end Settings

end Credential
