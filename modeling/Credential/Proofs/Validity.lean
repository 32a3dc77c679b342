import Credential.Proofs.FailureCodes

/-! A call as time passes. Nothing but the time stage looks at the clock, so what is in order but for the time is
refused as too early up to its start, ends in one and the same way from there to its expiry, and is refused as
expired for good. What is not in order is refused alike at all times, but for a text without octets: that is a fault
at all times. -/

namespace Credential

namespace Authenticator

section Time

variable {settings : Settings} {token issuer : Argument} {time : Int} {vetted : Vetted}

namespace Call

def asOf (call : Call settings token issuer time) (moment : Int) : Call settings token issuer moment where
  authenticator := call.authenticator
  request := { call.request with time := some moment }
  resolver := call.resolver
  intrinsic := call.intrinsic
  configured := call.configured
  shown := call.shown
  named := call.named
  timed := rfl
  found := call.found
  supplied := call.supplied

def Accepts (call : Call settings token issuer time) (verified : Verified) : Prop :=
  call.run.result = .ok (.verified verified)

theorem run_of_unencodable {text : Text} (given : token = .text text) (unpaired : ¬text.Paired)
    (call : Call settings token issuer time) : call.run = ⟨[], .error (.unencodable text.unencodable)⟩ :=
  run_of_unvetted (vet_unencodable given unpaired) call

variable {call : Call settings token issuer time}

theorem accepts_iff {verified : Verified} :
    call.Accepts verified ↔ (execute call.authenticator call.request).result = .ok verified :=
  settle_verified_iff

theorem run_asOf_eq (vets : Vets settings token issuer vetted) {first second : Int}
    (one : (vetted.claims.iat : Int) ≤ first ∧ first < vetted.claims.exp)
    (two : (vetted.claims.iat : Int) ≤ second ∧ second < vetted.claims.exp) :
    (call.asOf first).run = (call.asOf second).run := by
  have before := (call.asOf first).run_eq
  have after := (call.asOf second).run_eq
  rw [screen_ok_iff.2 ⟨vets, one⟩] at before
  rw [screen_ok_iff.2 ⟨vets, two⟩] at after
  exact before.trans after.symm

/-- The call at all times, for a token that lasts from one time to another. -/
structure Passes (call : Call settings token issuer time) (iat exp : Int) (steady : Run Event Fault Outcome) : Prop where
  early : ∀ moment, moment < iat → (call.asOf moment).run = refusal .notYetValid
  steady : ∀ moment, iat ≤ moment → moment < exp → (call.asOf moment).run = steady
  late : ∀ moment, exp ≤ moment → (call.asOf moment).run = refusal .expired

theorem passes (vets : Vets settings token issuer vetted) (call : Call settings token issuer time) :
    call.Passes vetted.claims.iat vetted.claims.exp (call.asOf vetted.claims.iat).run where
  early moment early := run_of_early vets early (call.asOf moment)
  steady _ started unexpired :=
    run_asOf_eq vets ⟨started, unexpired⟩ ⟨Int.le_refl _, Int.ofNat_lt.2 vets.lasts⟩
  late moment late := run_of_late vets late (call.asOf moment)

theorem code_of_timely (vets : Vets settings token issuer vetted) (contract : call.verifier.KeepsContract)
    (answers : call.resolver.KeepsContract) {moment : Int} (started : (vetted.claims.iat : Int) ≤ moment) (unexpired : moment < vetted.claims.exp)
    {code : String} (fails : (call.asOf moment).FailsAs code) : code ≠ "expired_token" ∧ code ≠ "not_yet_valid" := by
  constructor
  · rintro rfl
    obtain ⟨other, others, late⟩ := ((call.asOf moment).expired_iff contract answers).1 fails
    cases vets.unique others
    exact Int.not_lt.2 late unexpired
  · rintro rfl
    obtain ⟨other, others, early⟩ := ((call.asOf moment).early_iff contract answers).1 fails
    cases vets.unique others
    exact Int.not_lt.2 started early

theorem Passes.accepts {iat exp moment : Int} {steady : Run Event Fault Outcome} {verified : Verified}
    (passes : call.Passes iat exp steady) (accepts : (call.asOf moment).Accepts verified) :
    iat ≤ moment ∧ moment < exp ∧ steady.result = .ok (.verified verified) := by
  unfold Accepts at accepts
  by_cases early : moment < iat
  · rw [passes.early moment early] at accepts
    cases accepts
  by_cases late : exp ≤ moment
  · rw [passes.late moment late] at accepts
    cases accepts
  have started := Int.not_lt.1 early
  have unexpired := Int.not_le.1 late
  rw [passes.steady moment started unexpired] at accepts
  exact ⟨started, unexpired, accepts⟩

/-- Refused for one cause at all times, before any look at the clock. -/
def Refused (call : Call settings token issuer time) : Prop :=
  ∃ cause, vet settings call.request = .error (.rejected cause) ∧ ∀ moment, (call.asOf moment).run = refusal cause

/-- For some time there is one outcome, and nothing but refusals for time before and after. -/
def Lasts (call : Call settings token issuer time) : Prop :=
  ∃ iat exp : Int, ∃ steady : Run Event Fault Outcome, ∃ outcome,
    0 ≤ iat ∧ iat < exp ∧ call.Passes iat exp steady ∧ steady.result = .ok outcome ∧
    ∀ failure, outcome = .failed failure → failure.code ≠ "expired_token" ∧ failure.code ≠ "not_yet_valid"

theorem Refused.has_outcome (refused : call.Refused) : ∃ moment outcome, (call.asOf moment).run.result = .ok outcome := by
  obtain ⟨cause, -, ends⟩ := refused
  exact ⟨time, _, congrArg Run.result (ends time)⟩

theorem Lasts.has_outcome (lasts : call.Lasts) : ∃ moment outcome, (call.asOf moment).run.result = .ok outcome := by
  obtain ⟨iat, exp, steady, outcome, -, order, passes, ended, -⟩ := lasts
  exact ⟨iat, outcome, (congrArg Run.result (passes.steady iat (Int.le_refl iat) order)).trans ended⟩

theorem refused_or_vetted (paired : token.Paired) (call : Call settings token issuer time) :
    call.Refused ∨ ∃ vetted, Vets settings token issuer vetted := by
  cases asked : vet settings call.request with
  | error fault =>
    have unvetted : vet settings ⟨call.request.token, call.request.issuer, none, none, none⟩ = .error fault := asked
    rw [call.shown, call.named] at unvetted
    rcases vet_error unvetted with ⟨cause, rfl⟩ | ⟨text, given, unpaired, -⟩
    · exact .inl ⟨cause, asked, fun moment => run_of_unvetted unvetted (call.asOf moment)⟩
    · exact absurd (paired text given) unpaired
  | ok vetted =>
    have vets := vet_ok_iff.1 asked
    rw [call.shown, call.named] at vets
    exact .inr ⟨vetted, vets⟩

theorem lasts_of_vets (vets : Vets settings token issuer vetted) (contract : call.verifier.KeepsContract)
    (answers : call.resolver.KeepsContract) : call.Lasts := by
  have started := Int.le_refl (vetted.claims.iat : Int)
  have unexpired : (vetted.claims.iat : Int) < vetted.claims.exp := Int.ofNat_lt.2 vets.lasts
  obtain ⟨outcome, ended⟩ : ∃ outcome, (call.asOf vetted.claims.iat).run.result = .ok outcome := by
    rcases (call.asOf vetted.claims.iat).told contract answers with
      ⟨verified, accepted⟩ | ⟨cause, failed, -⟩ | ⟨text, given, unpaired, -⟩
    · exact ⟨_, accepted⟩
    · exact ⟨_, failed⟩
    · exact absurd (vets.paired text given) unpaired
  refine ⟨_, _, _, outcome, Int.natCast_nonneg _, unexpired, call.passes vets, ended, ?_⟩
  rintro failure rfl
  exact code_of_timely vets contract answers started unexpired ⟨failure, ended, rfl⟩

theorem refused_or_lasts_iff (contract : call.verifier.KeepsContract) (answers : call.resolver.KeepsContract) :
    call.Refused ∨ call.Lasts ↔ token.Paired := by
  constructor
  · rintro shaped text given
    apply Classical.not_not.1
    intro unpaired
    obtain ⟨moment, outcome, ended⟩ := shaped.elim Refused.has_outcome Lasts.has_outcome
    rw [run_of_unencodable given unpaired] at ended
    cases ended
  · intro paired
    rcases call.refused_or_vetted paired with refused | ⟨vetted, vets⟩
    · exact .inl refused
    · exact .inr (lasts_of_vets vets contract answers)

theorem expired_stays (contract : call.verifier.KeepsContract) (answers : call.resolver.KeepsContract)
    {earlier later : Int} (order : earlier ≤ later) (expired : (call.asOf earlier).FailsAs "expired_token") :
    (call.asOf later).FailsAs "expired_token" := by
  obtain ⟨vetted, vets, late⟩ := ((call.asOf earlier).expired_iff contract answers).1 expired
  exact ((call.asOf later).expired_iff contract answers).2 ⟨vetted, vets, Int.le_trans late order⟩

theorem accepts_between {first last : Int} {verified other : Verified} (one : (call.asOf first).Accepts verified)
    (two : (call.asOf last).Accepts other) :
    other = verified ∧ ∀ moment, first ≤ moment → moment ≤ last → (call.asOf moment).Accepts verified := by
  obtain ⟨_, _, _, -, -, -, staged⟩ := execute_ok_iff.1 (accepts_iff.1 one)
  obtain ⟨vetted, _, reaches, -⟩ := stages_ok_iff.1 staged
  have vets := reaches.vets
  rw [(call.asOf first).configured, (call.asOf first).shown, (call.asOf first).named] at vets
  have passes := call.passes vets
  obtain ⟨started, -, accepted⟩ := passes.accepts one
  obtain ⟨-, unexpired, again⟩ := passes.accepts two
  have same : other = verified := by
    cases accepted.symm.trans again
    rfl
  refine ⟨same, fun moment after before => ?_⟩
  unfold Accepts
  rw [passes.steady moment (Int.le_trans started after) (Int.lt_of_le_of_lt before unexpired)]
  exact accepted

end Call

/-- A call under the contracts as time passes. Either it is refused for the same cause at all times, before any look at
the clock, or there is a time in which it has one outcome, with nothing but refusals for time before and after: so it is
for every token but a text without octets, on which it faults at all times. What has expired stays expired, and what is
accepted twice is accepted in between. -/
theorem verify_over_time (call : Call settings token issuer time) (contract : call.verifier.KeepsContract)
    (answers : call.resolver.KeepsContract) :
    (call.Refused ∨ call.Lasts ↔ token.Paired) ∧
    (∀ text, token = .text text → ¬text.Paired →
      ∀ moment, (call.asOf moment).run = ⟨[], .error (.unencodable text.unencodable)⟩) ∧
    (∀ earlier later : Int, earlier ≤ later →
      (call.asOf earlier).FailsAs "expired_token" → (call.asOf later).FailsAs "expired_token") ∧
    (∀ (first last : Int) (verified other : Verified),
      (call.asOf first).Accepts verified → (call.asOf last).Accepts other →
        other = verified ∧ ∀ moment, first ≤ moment → moment ≤ last → (call.asOf moment).Accepts verified) :=
  ⟨Call.refused_or_lasts_iff contract answers,
    fun _ given unpaired moment => Call.run_of_unencodable given unpaired (call.asOf moment),
    fun _ _ order expired => Call.expired_stays contract answers order expired,
    fun _ _ _ _ one two => Call.accepts_between one two⟩

end Time

open Statement

/-- The specimen, which is accepted in its first second and in its last, is accepted throughout. -/
theorem verify_over_time_specimen : ∃ verified, ∀ moment : Int, 1000 ≤ moment → moment ≤ 1999 →
    ((specimenCall (.constant (.ok true)) (fun _ _ => .ok (some (key "k1" [0x02]))) (specimen .hs256).intrinsic).asOf
      moment).Accepts verified := by
  have contract := Verifier.keepsContract_constant true
  have accepts : ∀ moment : Int, 1000 ≤ moment → moment < 2000 → ∃ verified,
      ((specimenCall (.constant (.ok true)) (fun _ _ => .ok (some (key "k1" [0x02]))) (specimen .hs256).intrinsic).asOf
        moment).Accepts verified := by
    intro moment started unexpired
    exact ⟨_, Call.accepts_iff.2 ((specimen_sound .hs256).accepted (List.cons_ne_nil 0x01 []) (.text _)
      (specimen_short .hs256 (by decide)) specimen_issuer rfl started unexpired rfl rfl rfl)⟩
  obtain ⟨verified, one⟩ := accepts 1000 (by decide) (by decide)
  obtain ⟨other, two⟩ := accepts 1999 (by decide) (by decide)
  have between := (verify_over_time (specimenCall _ _ _) contract fun _ _ => ⟨_, rfl⟩).2.2.2 1000 1999 verified other
    one two
  exact ⟨verified, between.2⟩

/-- A call about half of a pair, under both contracts. -/
def unpairedCall : Call .widest (.text [.surrogate 0]) (.text "org-42") 0 :=
  Call.plain _ _ _ _ (.constant (.ok true)) (Registry.mk []).resolver (specimen .hs256).intrinsic

/-- It has no outcome at any time, so time has no shape for it. -/
theorem verify_unpaired : unpairedCall.verifier.KeepsContract ∧ unpairedCall.resolver.KeepsContract ∧
    (∀ moment, (unpairedCall.asOf moment).run.result = .error (.unencodable ⟨0, [.surrogate 0]⟩)) ∧
    ¬(unpairedCall.Refused ∨ unpairedCall.Lasts) := by
  have raised : ∀ moment, (unpairedCall.asOf moment).run.result = .error (.unencodable ⟨0, [.surrogate 0]⟩) :=
    fun moment => rfl
  refine ⟨Verifier.keepsContract_constant true, Registry.keepsContract _, raised, ?_⟩
  intro shaped
  obtain ⟨moment, outcome, ended⟩ := shaped.elim Call.Refused.has_outcome Call.Lasts.has_outcome
  cases (raised moment).symm.trans ended

end Authenticator

end Credential
