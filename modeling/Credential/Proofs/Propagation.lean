import Credential.Proofs.FailureCodes

/-! What becomes of the errors of a verifier, and of a resolver. A rejection that it brings is told as it is, like any
other, and everything else passes through, so that no fault of a collaborator is taken for a verdict. Neither can
happen before the stage that asks it. -/

namespace Credential

def Verifier.Raises (verifier : Verifier) (fault : Fault) : Prop :=
  ∀ algorithm key signed signature, (verifier algorithm key signed signature).result = .error fault

theorem Verifier.raises_constant (fault : Fault) : (constant (.error fault)).Raises fault :=
  fun _ _ _ _ => rfl

namespace Rejection

variable (kind : Kind) (subject : String) (wording : Option String)

theorem code_ofWords : (ofWords kind subject wording).code = kind.code := by
  unfold ofWords
  split
  · split <;> rfl
  · rfl

theorem claim?_ofWords : (ofWords kind subject wording).claim? = if kind.namesClaim then some subject else none := by
  unfold ofWords
  split
  next names => split <;> simp [claim?, names]
  next anonymous => simp [claim?, anonymous]

end Rejection

namespace Outcome

def verified? : Outcome → Option Verified
  | .verified facts => some facts
  | .failed _ => none

def failure? : Outcome → Option Failure
  | .verified _ => none
  | .failed failure => some failure

theorem ofSides_sides (outcome : Outcome) : ofSides outcome.verified? outcome.failure? = .ok outcome := by
  cases outcome <;> rfl

end Outcome

namespace Authenticator

theorem settle_failed_iff {run : Run Event Fault Verified} {failure : Failure} :
    (settle run).result = .ok (.failed failure) ↔
      ∃ cause, run.result = .error (.rejected cause) ∧ failure = Failure.ofRejection cause := by
  rw [result_settle]
  split
  next verified accepted => simp [accepted]
  next cause rejected => simp [rejected, eq_comm]
  next fault unrejected failed =>
    simp only [failed, reduceCtorEq, Except.error.injEq, false_iff, not_exists, not_and]
    intro cause same
    exact absurd same (unrejected cause)

theorem settle_known {run : Run Event Fault Verified} {fault : Fault} {kind : Fault.Kind}
    (known : fault.kind? = some kind) (failed : run.result = .error fault) : (settle run).result = .error fault := by
  refine settle_error_iff.2 ⟨failed, ?_⟩
  rintro cause rfl
  cases known

section Stages

variable {settings : Settings} {token issuer : Argument} {time : Int} {vetted : Vetted} {key : Key}

theorem remaining_of_raised {verifier : Verifier} {fault : Fault} (raised : verdict verifier vetted key = .error fault)
    (settings : Settings) (intrinsic : Intrinsic) :
    remaining verifier settings vetted key intrinsic = .error fault := by
  rw [remaining, result_checkSignature, raised]
  rfl

namespace Call

theorem stops_of_screen {fault : Fault} (refused : screen settings token issuer time = .error fault)
    (resolver : Resolver) : Stops settings resolver token issuer time fault := by
  rcases Result.bind_error_iff.1 refused with unvetted | ⟨vetted, -, untimely⟩
  · exact .of_vet unvetted resolver time
  · rcases Result.bind_error_iff.1 untimely with failed | ⟨_, _, impossible⟩
    · obtain ⟨cause, -, rfl⟩ := Result.mapError_error_iff.1 failed
      exact .rejected cause
    · cases impossible

theorem run_of_unreached {resolver : Resolver}
    (unreached : ¬∃ vetted key, Reaches settings resolver token issuer time vetted key) :
    ∃ fault, Stops settings resolver token issuer time fault ∧
      ∀ call : Call settings token issuer time, call.resolver = resolver → call.run = settle (Run.fail fault) := by
  cases admitted : screen settings token issuer time with
  | error fault => exact ⟨fault, stops_of_screen admitted resolver, fun call _ => run_of_screen_error admitted call⟩
  | ok vetted =>
    obtain ⟨vets, started, unexpired⟩ := screen_ok_iff.1 admitted
    cases resolved : keyOf resolver vetted with
    | error fault =>
      refine ⟨fault, .of_keyOf vets started unexpired resolved, fun call same => ?_⟩
      exact run_of_keyOf_error admitted call (same ▸ resolved)
    | ok key => exact absurd ⟨vetted, key, vets, started, unexpired, keyOf_ok_iff.1 resolved⟩ unreached

theorem run_of_unresolved {fault : Fault} (call : Call settings token issuer time)
    (vets : Vets settings token issuer vetted) (started : (vetted.claims.iat : Int) ≤ time)
    (unexpired : time < vetted.claims.exp)
    (failed : call.resolver vetted.issuer.bytes (Text.ofString vetted.token.header.kid) = .error fault) :
    call.run = settle (Run.fail fault) :=
  run_of_keyOf_error (screen_ok_iff.2 ⟨vets, started, unexpired⟩) call (keyOf_error_iff.2 (.inl failed))

variable (call : Call settings token issuer time)
  (reaches : Reaches settings call.resolver token issuer time vetted key)
include reaches

theorem result_of_rejected {cause : Rejection} (raises : call.verifier.Raises (.rejected cause)) :
    call.run.result = .ok (.failed (Failure.ofRejection cause)) := by
  rw [call.result_of_reaches reaches, remaining_of_raised (raises _ _ _ _)]

theorem result_of_raised {fault : Fault} (raises : call.verifier.Raises fault)
    (unrejected : ∀ cause, fault ≠ .rejected cause) : call.run.result = .error fault := by
  rw [call.result_of_reaches reaches, remaining_of_raised (raises _ _ _ _)]
  cases fault with
  | rejected cause => exact absurd rfl (unrejected cause)
  | _ => rfl

end Call

/-- What a verifier raises comes to light exactly where it is asked. Before that a call ends alike for all verifiers.
From there a rejection is the failure it says, with a code and a claim of its own if it brings them, and everything
else ends the call unchanged. A resolver's errors come to light likewise where a key is looked for. So an outcome tells
how the verification itself has ended, verified or rejected, and faults of other kinds get past it. -/
theorem verify_surfaces :
    (∀ (settings : Settings) (token issuer : Argument) (time : Int) (resolver : Resolver),
      (¬∃ vetted key, Reaches settings resolver token issuer time vetted key) →
      ∃ fault, Stops settings resolver token issuer time fault ∧
        ∀ call : Call settings token issuer time, call.resolver = resolver → call.run = settle (Run.fail fault)) ∧
    (∀ (settings : Settings) (token issuer : Argument) (time : Int) (call : Call settings token issuer time)
      (vetted : Vetted) (key : Key), Reaches settings call.resolver token issuer time vetted key →
      (∀ cause, call.verifier.Raises (.rejected cause) →
        call.run.result = .ok (.failed ⟨cause.code, cause.message, cause.claim?⟩)) ∧
      (∀ kind code claim message, call.verifier.Raises (.rejected (.reported kind code claim message)) →
        call.run.result = .ok (.failed ⟨code, message, if kind.namesClaim then claim else none⟩)) ∧
      (∀ kind subject wording, call.verifier.Raises (.rejected (Rejection.ofWords kind subject wording)) →
        call.run.result = .ok (.failed ⟨kind.code, (Rejection.ofWords kind subject wording).message,
          if kind.namesClaim then some subject else none⟩)) ∧
      (∀ fault, (∀ cause, fault ≠ .rejected cause) → call.verifier.Raises fault →
        call.run.result = .error fault)) ∧
    (∀ (settings : Settings) (token issuer : Argument) (time : Int) (call : Call settings token issuer time)
      (vetted : Vetted), Vets settings token issuer vetted → (vetted.claims.iat : Int) ≤ time →
      time < vetted.claims.exp → ∀ fault,
      call.resolver vetted.issuer.bytes (Text.ofString vetted.token.header.kid) = .error fault →
        call.run = settle (Run.fail fault)) ∧
    (∀ (authenticator : Authenticator) (request : Request),
      (∀ outcome, (verify authenticator request).result = .ok outcome →
        Outcome.ofSides outcome.verified? outcome.failure? = .ok outcome) ∧
      (∀ verified, (verify authenticator request).result = .ok (.verified verified) ↔
        (execute authenticator request).result = .ok verified) ∧
      (∀ failure, (verify authenticator request).result = .ok (.failed failure) ↔
        ∃ cause, (execute authenticator request).result = .error (.rejected cause) ∧
          failure = ⟨cause.code, cause.message, cause.claim?⟩) ∧
      (∀ fault, (verify authenticator request).result = .error fault ↔
        (execute authenticator request).result = .error fault ∧ ∀ cause, fault ≠ .rejected cause) ∧
      (∀ (fault : Fault) (kind : Fault.Kind), fault.kind? = some kind →
        (execute authenticator request).result = .error fault →
        (verify authenticator request).result = .error fault)) := by
  refine ⟨?_, ?_, ?_, ?_⟩
  · intro settings token issuer time resolver unreached
    exact Call.run_of_unreached unreached
  · intro settings token issuer time call vetted key reaches
    refine ⟨fun cause raises => call.result_of_rejected reaches raises,
      fun kind code claim message raises => call.result_of_rejected reaches raises, ?_, ?_⟩
    · intro kind subject wording raises
      rw [call.result_of_rejected reaches raises, Failure.ofRejection, Rejection.code_ofWords,
        Rejection.claim?_ofWords]
    · intro fault unrejected raises
      exact call.result_of_raised reaches raises unrejected
  · intro settings token issuer time call vetted vets started unexpired fault failed
    exact call.run_of_unresolved vets started unexpired failed
  · intro authenticator request
    exact ⟨fun outcome _ => outcome.ofSides_sides, fun _ => settle_verified_iff, fun _ => settle_failed_iff,
      fun _ => settle_error_iff, fun _ _ known failed => settle_known known failed⟩

end Stages

open Statement

/-- A call about no token, and the specimen: before a verifier that misses a claim, one that finds the key revoked, and
one that has no time, and before a resolver that has no keys. -/
theorem verify_surfaces_specimen :
    (∃ fault, Stops .widest (Registry.mk []).resolver (.other "NoneType") (.text "org-42") 1500 fault ∧
      ∀ call : Call .widest (.other "NoneType") (.text "org-42") 1500, call.resolver = (Registry.mk []).resolver →
        call.run = settle (Run.fail fault)) ∧
    (specimenCall (.constant (.error (.rejected (Rejection.ofWords .missingClaim "nonce" none))))
      (fun _ _ => .ok (some (key "k1" [0x02]))) (specimen .hs256).intrinsic).run.result =
      .ok (.failed ⟨"missing_claim", "Missing required claim: nonce", some "nonce"⟩) ∧
    (specimenCall (.constant (.error (.rejected (.reported .invalidClaim "key_revoked" (some "kid") "Revoked"))))
      (fun _ _ => .ok (some (key "k1" [0x02]))) (specimen .hs256).intrinsic).run.result =
      .ok (.failed ⟨"key_revoked", "Revoked", some "kid"⟩) ∧
    (specimenCall (.constant (.error (.foreign "TimeoutError" "no answer"))) (fun _ _ => .ok (some (key "k1" [0x02])))
      (specimen .hs256).intrinsic).run.result = .error (.foreign "TimeoutError" "no answer") ∧
    (specimenCall .standard (fun _ _ => .error (.other .keySet "no keys")) (specimen .hs256).intrinsic).run.result =
      .error (.other .keySet "no keys") := by
  have vets := (specimen_sound .hs256).vets (List.cons_ne_nil 0x01 [])
    (.text ((specimen .hs256).withSignature .escaped [0x01])) (specimen_short .hs256 (by decide)) specimen_issuer rfl
  have started : ((specimen .hs256).claims.iat : Int) ≤ 1500 := (by decide : (1000 : Int) ≤ 1500)
  have unexpired : (1500 : Int) < (specimen .hs256).claims.exp := (by decide : (1500 : Int) < 2000)
  have reaches : Reaches .widest (fun _ _ => .ok (some (key "k1" [0x02]))) _ _ 1500 _ _ :=
    ⟨vets, started, unexpired, rfl⟩
  refine ⟨?_, ?_, ?_, ?_, ?_⟩
  · apply verify_surfaces.1
    rintro ⟨vetted, key, reaches⟩
    cases reaches.vets.decoded
  · exact (verify_surfaces.2.1 _ _ _ _ (specimenCall _ _ (specimen .hs256).intrinsic) _ _ reaches).2.2.1
      .missingClaim "nonce" none (Verifier.raises_constant _)
  · exact (verify_surfaces.2.1 _ _ _ _ (specimenCall _ _ (specimen .hs256).intrinsic) _ _ reaches).2.1
      .invalidClaim "key_revoked" (some "kid") "Revoked" (Verifier.raises_constant _)
  · refine (verify_surfaces.2.1 _ _ _ _ (specimenCall _ _ (specimen .hs256).intrinsic) _ _ reaches).2.2.2 _ ?_
      (Verifier.raises_constant _)
    intro cause impossible
    cases impossible
  · have raised := verify_surfaces.2.2.1 _ _ _ _ (specimenCall .standard
      (fun _ _ => .error (.other .keySet "no keys")) (specimen .hs256).intrinsic) _ vets started unexpired _ rfl
    exact congrArg Run.result raised

end Authenticator

end Credential
