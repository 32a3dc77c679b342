import Credential.Proofs.Claims
import Credential.Proofs.InformationFlow
import Credential.Proofs.Snapshots

/-! What the code of a failure tells. Whoever calls a verification acts on the code alone: with a new token if the
old one has expired, with new keys if a key is unknown. Each of these codes is given exactly when all that comes
before has been checked and holds, and what the code names does not. -/

namespace Credential

open Rejection

namespace Rejection.Kind

/-- What is wrong with a token, its claims or its issuer, whatever the time, the keys and the attempt. -/
def isStructural : Kind → Bool
  | .malformedToken | .missingClaim | .invalidClaim | .unsupportedAlgorithm | .invalidIssuer | .algorithmMismatch
  | .invalidAudience => true
  | _ => false

/-- Only the code of an invalid token is that of more than one kind. -/
theorem eq_of_code {kind own : Kind} (unshared : own.code ≠ Kind.invalidToken.code) (same : kind.code = own.code) :
    kind = own := by
  cases own <;> first
    | exact absurd rfl unshared
    | cases kind <;> first | rfl | exact absurd same (by decide)

end Rejection.Kind

/-- It has the code of its kind, not one of its own. -/
def Rejection.Coded (cause : Rejection) : Prop := cause.code = cause.kind.code

def Rejection.Structural (cause : Rejection) : Prop := cause.kind.isStructural = true ∧ cause.Coded

namespace Claims

open Result

theorem text_fails (claim : String) (given : Json String) : FailsOnly Structural (text claim given) := by
  unfold text
  split
  · split
    · exact .error ⟨rfl, rfl⟩
    · exact .ok _
  · exact .error ⟨rfl, rfl⟩

theorem time_fails (claim : String) (given : Json String) : FailsOnly Structural (time claim given) := by
  unfold time
  split
  · exact .ok _
  · exact .error ⟨rfl, rfl⟩

theorem audience_fails (given : Json String) : FailsOnly Structural (audience given) := by
  unfold audience
  split
  · split
    · exact .ok _
    · exact .error ⟨rfl, rfl⟩
  · exact .error ⟨rfl, rfl⟩

theorem pair_fails (given : Json String) : FailsOnly Structural (pair given) := by
  unfold pair
  split
  · exact .ok _
  · exact .error ⟨rfl, rfl⟩

theorem optional_fails (claim : String) (payload : Payload) : FailsOnly Structural (optional claim payload) := by
  unfold optional
  split
  · exact .ok _
  · exact .bind (text_fails _ _) fun _ => .ok _

theorem ofPayload_fails (payload : Payload) : FailsOnly Structural (ofPayload payload) := by
  unfold ofPayload
  split
  · exact .error ⟨rfl, rfl⟩
  · refine .bind (text_fails _ _) fun iss => ?_
    refine .bind (text_fails _ _) fun sub => ?_
    refine .bind (audience_fails _) fun aud => ?_
    refine .bind (time_fails _ _) fun iat => ?_
    refine .bind (time_fails _ _) fun exp => ?_
    split
    · exact .error ⟨rfl, rfl⟩
    · refine .bind (text_fails _ _) fun jti => ?_
      refine .bind (pair_fails _) fun challenge => ?_
      refine .bind (optional_fails _ _) fun alg => ?_
      exact .bind (optional_fails _ _) fun kid => .ok _

end Claims

theorem ChallengePair.ne_iff {first second : ChallengePair} :
    first ≠ second ↔ first.challenge ≠ second.challenge ∨ first.context ≠ second.context := by
  cases first
  cases second
  rw [Ne, mk.injEq, Decidable.not_and_iff_not_or_not]

def Registry.Lacks (registry : Registry) (name : Bytes) (kid : Text) : Prop :=
  ∀ keySet, registry.keySetAt? name = some keySet → keySet.enabled = true → ∀ key ∈ keySet.keys, key.kid ≠ kid

theorem Registry.resolve_eq_none_iff {registry : Registry} {name : Bytes} {kid : Text} :
    registry.resolve name kid = none ↔ registry.Lacks name kid := by
  unfold resolve Lacks
  cases registry.keySetAt? name with
  | none => simp
  | some keySet => simp [KeySet.get?_eq_none_iff, Decidable.or_iff_not_imp_left]

namespace Authenticator

open Result

theorem algorithmOf_fails (settings : Settings) (name : String) : FailsOnly Structural (algorithmOf settings name) := by
  unfold algorithmOf
  split
  · exact .error ⟨rfl, rfl⟩
  · split
    · exact .ok _
    · exact .error ⟨rfl, rfl⟩

theorem issuerOf_fails (settings : Settings) (given : Argument) (claims : Claims) :
    FailsOnly Structural (issuerOf settings given claims) := by
  unfold issuerOf
  split
  · exact .error ⟨rfl, rfl⟩
  · split
    · exact .ok _
    · exact .error ⟨rfl, rfl⟩

theorem agreement_fails (header : Header) (claims : Claims) : FailsOnly Structural (agreement header claims) := by
  unfold agreement
  split
  · exact .error ⟨rfl, rfl⟩
  · split
    · exact .error ⟨rfl, rfl⟩
    · exact .ok _

theorem examine_fails (settings : Settings) (issuer : Argument) (token : Token) :
    FailsOnly Structural (examine settings issuer token) := by
  refine .bind (Claims.ofPayload_fails _) fun claims => ?_
  refine .bind (algorithmOf_fails _ _) fun algorithm => ?_
  refine .bind (issuerOf_fails _ _ _) fun issuer => ?_
  exact .bind (agreement_fails _ _) fun _ => .ok _

theorem structural_of_vet {settings : Settings} {request : Request} {cause : Rejection}
    (refused : vet settings request = .error (.rejected cause)) : cause.Structural := by
  rcases bind_error_iff.1 refused with unread | ⟨token, -, refused⟩
  · obtain ⟨failure, -, same⟩ := mapError_error_iff.1 unread
    cases failure with
    | malformed malformation =>
      cases same
      exact ⟨rfl, rfl⟩
    | unencodable place => cases same
  · obtain ⟨found, examined, same⟩ := mapError_error_iff.1 refused
    cases same
    exact examine_fails _ _ _ _ examined

theorem facts_fails (settings : Settings) (vetted : Vetted) (intrinsic : Intrinsic) :
    FailsOnly Structural (facts settings vetted intrinsic) := by
  refine .bind (.mapError fun _ => ⟨rfl, rfl⟩) fun authority => ?_
  exact .bind (.mapError fun _ => ⟨rfl, rfl⟩) fun binding => .ok _

/-- After a signature that holds, and an attempt that is the token's own, only what the claims mean can be wrong. -/
theorem remaining_of_bound {verifier : Verifier} {settings : Settings} {vetted : Vetted} {key : Key}
    {intrinsic : Intrinsic} (confirmed : verdict verifier vetted key = .ok true)
    (bound : vetted.claims.challenge = intrinsic.derive) :
    remaining verifier settings vetted key intrinsic = (facts settings vetted intrinsic).mapError .rejected := by
  have binds : bind vetted.claims.challenge intrinsic = .ok intrinsic.derive := bind_ok_iff.2 ⟨bound, rfl⟩
  rw [remaining, result_checkSignature, confirmed, binds]
  rfl

theorem remaining_of_unbound {verifier : Verifier} {settings : Settings} {vetted : Vetted} {key : Key}
    {intrinsic : Intrinsic} (confirmed : verdict verifier vetted key = .ok true)
    (differs : vetted.claims.challenge ≠ intrinsic.derive) :
    remaining verifier settings vetted key intrinsic = .error (.rejected .challengeDiffers) := by
  have unbound : bind vetted.claims.challenge intrinsic = .error .challengeDiffers := by
    rw [bind, Intrinsic.binds, decide_eq_false differs]
    rfl
  rw [remaining, result_checkSignature, confirmed, unbound]
  rfl

section Vetting

variable {settings : Settings} {token issuer : Argument} {vetted other : Vetted}

theorem Vets.lasts (vets : Vets settings token issuer vetted) : vetted.claims.iat < vetted.claims.exp :=
  Claims.lasts_of_ofPayload vets.claimed

theorem Vets.vet (vets : Vets settings token issuer vetted) :
    Authenticator.vet settings ⟨token, issuer, none, none, none⟩ = .ok vetted :=
  vet_ok_iff.2 vets

theorem Vets.unique (one : Vets settings token issuer vetted) (two : Vets settings token issuer other) :
    vetted = other :=
  Except.ok.inj (one.vet.symm.trans two.vet)

end Vetting

end Authenticator

/-- A verifier says yes or no, or gives one of two reasons why it cannot say. -/
def Verifier.KeepsContract (verifier : Verifier) : Prop :=
  ∀ algorithm key signed signature fault, (verifier algorithm key signed signature).result = .error fault →
    ∃ cause, fault = .rejected cause ∧ cause.Coded ∧
      (cause.kind = .invalidSignature ∨ cause.kind = .algorithmKeyMismatch)

theorem Verifier.keepsContract_constant (holds : Bool) : (constant (.ok holds)).KeepsContract := by
  intro algorithm key signed signature fault fails
  cases fails

/-- A resolver has a key or has none, and never fails. -/
def Resolver.KeepsContract (resolver : Resolver) : Prop := ∀ name kid, ∃ found, resolver name kid = .ok found

theorem Registry.keepsContract (registry : Registry) : registry.resolver.KeepsContract :=
  fun name kid => ⟨registry.resolve name kid, rfl⟩

namespace Authenticator

section Endings

variable {settings : Settings} {token issuer : Argument} {time : Int} {vetted : Vetted} {key : Key}

theorem remaining_of_refused {verifier : Verifier} (contract : verifier.KeepsContract)
    (refused : verdict verifier vetted key ≠ .ok true) (settings : Settings) (intrinsic : Intrinsic) :
    ∃ cause, remaining verifier settings vetted key intrinsic = .error (.rejected cause) ∧ cause.Coded ∧
      (cause.kind = .invalidSignature ∨ cause.kind = .algorithmKeyMismatch) := by
  cases answer : verdict verifier vetted key with
  | ok holds =>
    cases holds with
    | true => exact absurd answer refused
    | false =>
      refine ⟨.badSignature, ?_, rfl, .inl rfl⟩
      rw [remaining, result_checkSignature, answer]
      rfl
  | error fault =>
    obtain ⟨cause, rfl, coded, kinds⟩ := contract _ _ _ _ _ answer
    refine ⟨cause, ?_, coded, kinds⟩
    rw [remaining, result_checkSignature, answer]
    rfl

namespace Call

def FailsAs (call : Call settings token issuer time) (code : String) : Prop :=
  ∃ failure, call.run.result = .ok (.failed failure) ∧ failure.code = code

theorem FailsAs.of_rejection {call : Call settings token issuer time} {cause : Rejection}
    (fails : call.run.result = .ok (.failed (Failure.ofRejection cause))) : call.FailsAs cause.code :=
  ⟨_, fails, rfl⟩

theorem run_of_unvetted {fault : Fault} (refused : vet settings ⟨token, issuer, none, none, none⟩ = .error fault)
    (call : Call settings token issuer time) : call.run = settle (Run.fail fault) := by
  apply run_of_screen_error
  rw [screen, refused]
  rfl

theorem screen_of_vets {cause : Rejection} (vets : Vets settings token issuer vetted)
    (untimely : checkTime vetted.claims time = .error cause) :
    screen settings token issuer time = .error (.rejected cause) := by
  rw [screen, vets.vet]
  have failed : (checkTime vetted.claims time).mapError Fault.rejected = .error (.rejected cause) :=
    Result.mapError_error_iff.2 ⟨cause, untimely, rfl⟩
  exact Result.bind_error_iff.2 (.inr ⟨vetted, rfl, Result.bind_error_iff.2 (.inl failed)⟩)

theorem run_of_late (vets : Vets settings token issuer vetted) (late : (vetted.claims.exp : Int) ≤ time)
    (call : Call settings token issuer time) : call.run = refusal .expired := by
  have untimely : checkTime vetted.claims time = .error .expired := if_pos late
  rw [run_of_screen_error (screen_of_vets vets untimely), settle_fail]

theorem run_of_early (vets : Vets settings token issuer vetted) (early : time < vetted.claims.iat)
    (call : Call settings token issuer time) : call.run = refusal .notYetValid := by
  have lasts := vets.lasts
  have untimely : checkTime vetted.claims time = .error .notYetValid := by
    rw [checkTime, if_neg (by omega), if_pos early]
  rw [run_of_screen_error (screen_of_vets vets untimely), settle_fail]

theorem run_of_keyless (vets : Vets settings token issuer vetted) (started : (vetted.claims.iat : Int) ≤ time)
    (unexpired : time < vetted.claims.exp) (call : Call settings token issuer time)
    (keyless : call.resolver vetted.issuer.bytes (Text.ofString vetted.token.header.kid) = .ok none) :
    call.run = refusal (.unknownKey vetted.token.header.kid vetted.issuer) :=
  run_of_keyOf_error (screen_ok_iff.2 ⟨vets, started, unexpired⟩) call (keyOf_error_iff.2 (.inr ⟨keyless, rfl⟩))

theorem result_of_reaches (call : Call settings token issuer time)
    (reaches : Reaches settings call.resolver token issuer time vetted key) :
    call.run.result = match remaining call.verifier settings vetted key call.intrinsic with
      | .ok verified => .ok (.verified verified)
      | .error (.rejected cause) => .ok (.failed (Failure.ofRejection cause))
      | .error fault => .error fault := by
  have same : Reaches settings call.resolver call.request.token call.request.issuer time vetted key := by
    rw [call.shown, call.named]
    exact reaches
  rw [run, verify, execute_given call.found call.timed call.supplied, call.configured, result_settle,
    same.result_stages]
  rfl

/-- What a failure of a kind says of the call: all that was found to hold, and what was found not to. -/
def Tells (call : Call settings token issuer time) : Rejection.Kind → Prop
  | .expiredToken => ∃ vetted, Vets settings token issuer vetted ∧ (vetted.claims.exp : Int) ≤ time
  | .notYetValid => ∃ vetted, Vets settings token issuer vetted ∧ time < vetted.claims.iat
  | .unknownKey => ∃ vetted, Vets settings token issuer vetted ∧ (vetted.claims.iat : Int) ≤ time ∧
      time < vetted.claims.exp ∧
      call.resolver (Bytes.ofString vetted.claims.iss) (Text.ofString vetted.token.header.kid) = .ok none
  | .invalidSignature | .algorithmKeyMismatch => ∃ vetted key,
      Reaches settings call.resolver token issuer time vetted key ∧ verdict call.verifier vetted key ≠ .ok true
  | .invalidChallenge => ∃ vetted key, Reaches settings call.resolver token issuer time vetted key ∧
      verdict call.verifier vetted key = .ok true ∧
      (vetted.claims.challenge.challenge ≠ call.intrinsic.derive.challenge ∨
        vetted.claims.challenge.context ≠ call.intrinsic.derive.context)
  | _ => True

/-- What is wrong with the token itself can be found at several stages, and tells nothing of them. -/
theorem tells_of_structural (call : Call settings token issuer time) {kind : Rejection.Kind}
    (structural : kind.isStructural = true) : call.Tells kind := by
  cases kind <;> trivial

theorem told_of_reaches (call : Call settings token issuer time) (contract : call.verifier.KeepsContract)
    (reaches : Reaches settings call.resolver token issuer time vetted key) :
    (∃ verified, call.run.result = .ok (.verified verified)) ∨
      ∃ cause, call.run.result = .ok (.failed (Failure.ofRejection cause)) ∧ cause.Coded ∧ call.Tells cause.kind := by
  have result := call.result_of_reaches reaches
  by_cases confirmed : verdict call.verifier vetted key = .ok true
  · by_cases bound : vetted.claims.challenge = call.intrinsic.derive
    · rw [remaining_of_bound confirmed bound] at result
      cases derived : facts settings vetted call.intrinsic with
      | ok verified =>
        rw [derived] at result
        exact .inl ⟨verified, result⟩
      | error cause =>
        rw [derived] at result
        obtain ⟨structural, coded⟩ := facts_fails settings vetted call.intrinsic cause derived
        exact .inr ⟨cause, result, coded, call.tells_of_structural structural⟩
    · rw [remaining_of_unbound confirmed bound] at result
      exact .inr ⟨.challengeDiffers, result, rfl, vetted, key, reaches, confirmed, ChallengePair.ne_iff.1 bound⟩
  · obtain ⟨cause, refused, coded, kinds⟩ := remaining_of_refused contract confirmed settings call.intrinsic
    rw [refused] at result
    refine .inr ⟨cause, result, coded, ?_⟩
    rcases kinds with same | same
    · rw [same]
      exact ⟨vetted, key, reaches, confirmed⟩
    · rw [same]
      exact ⟨vetted, key, reaches, confirmed⟩

/-- A call under the contracts has an outcome, unless its token is a text without octets, and a failure tells what its
kind says. -/
theorem told (call : Call settings token issuer time) (contract : call.verifier.KeepsContract)
    (answers : call.resolver.KeepsContract) :
    (∃ verified, call.run.result = .ok (.verified verified)) ∨
    (∃ cause, call.run.result = .ok (.failed (Failure.ofRejection cause)) ∧ cause.Coded ∧ call.Tells cause.kind) ∨
    ∃ text, token = .text text ∧ ¬text.Paired ∧ call.run = settle (Run.fail (.unencodable text.unencodable)) := by
  cases asked : vet settings ⟨token, issuer, none, none, none⟩ with
  | error fault =>
    have ended := run_of_unvetted asked call
    rcases vet_error asked with ⟨cause, rfl⟩ | ⟨text, given, unpaired, rfl⟩
    · obtain ⟨structural, coded⟩ := structural_of_vet asked
      exact .inr (.inl ⟨cause, congrArg Run.result ended, coded, call.tells_of_structural structural⟩)
    · exact .inr (.inr ⟨text, given, unpaired, ended⟩)
  | ok vetted =>
    have vets : Vets settings token issuer vetted := vet_ok_iff.1 asked
    by_cases late : (vetted.claims.exp : Int) ≤ time
    · exact .inr (.inl ⟨.expired, congrArg Run.result (run_of_late vets late call), rfl, vetted, vets, late⟩)
    by_cases early : time < vetted.claims.iat
    · exact .inr (.inl ⟨.notYetValid, congrArg Run.result (run_of_early vets early call), rfl, vetted, vets, early⟩)
    have started := Int.not_lt.1 early
    have unexpired := Int.not_le.1 late
    obtain ⟨found, resolved⟩ := answers vetted.issuer.bytes (Text.ofString vetted.token.header.kid)
    cases found with
    | none =>
      have ended := congrArg Run.result (run_of_keyless vets started unexpired call resolved)
      rw [vets.issued] at resolved
      exact .inr (.inl ⟨_, ended, rfl, vetted, vets, started, unexpired, resolved⟩)
    | some key =>
      rcases call.told_of_reaches contract ⟨vets, started, unexpired, resolved⟩ with accepted | failed
      · exact .inl accepted
      · exact .inr (.inl failed)

theorem tells_of_failsAs {call : Call settings token issuer time} (contract : call.verifier.KeepsContract)
    (answers : call.resolver.KeepsContract) (kind : Rejection.Kind)
    (unshared : kind.code ≠ Rejection.Kind.invalidToken.code) (fails : call.FailsAs kind.code) : call.Tells kind := by
  obtain ⟨failure, failed, coded⟩ := fails
  rcases call.told contract answers with ⟨verified, accepted⟩ | ⟨cause, ended, own, tells⟩ | ⟨text, -, -, ended⟩
  · cases accepted.symm.trans failed
  · cases ended.symm.trans failed
    rw [← Rejection.Kind.eq_of_code unshared (own.symm.trans coded)]
    exact tells
  · rw [ended] at failed
    cases failed

section Codes

variable (call : Call settings token issuer time) (contract : call.verifier.KeepsContract)
  (answers : call.resolver.KeepsContract)
include contract answers

theorem expired_iff : call.FailsAs "expired_token" ↔
    ∃ vetted, Vets settings token issuer vetted ∧ (vetted.claims.exp : Int) ≤ time := by
  constructor
  · exact tells_of_failsAs contract answers .expiredToken (by decide)
  · intro parts
    obtain ⟨vetted, vets, late⟩ := parts
    exact .of_rejection (congrArg Run.result (run_of_late vets late call))

theorem early_iff : call.FailsAs "not_yet_valid" ↔
    ∃ vetted, Vets settings token issuer vetted ∧ time < vetted.claims.iat := by
  constructor
  · exact tells_of_failsAs contract answers .notYetValid (by decide)
  · intro parts
    obtain ⟨vetted, vets, early⟩ := parts
    exact .of_rejection (congrArg Run.result (run_of_early vets early call))

theorem keyless_iff : call.FailsAs "unknown_key" ↔
    ∃ vetted, Vets settings token issuer vetted ∧ (vetted.claims.iat : Int) ≤ time ∧ time < vetted.claims.exp ∧
      call.resolver (Bytes.ofString vetted.claims.iss) (Text.ofString vetted.token.header.kid) = .ok none := by
  constructor
  · exact tells_of_failsAs contract answers .unknownKey (by decide)
  · intro parts
    obtain ⟨vetted, vets, started, unexpired, keyless⟩ := parts
    rw [← vets.issued] at keyless
    exact .of_rejection (congrArg Run.result (run_of_keyless vets started unexpired call keyless))

theorem refused_iff : call.FailsAs "invalid_signature" ∨ call.FailsAs "algorithm_key_mismatch" ↔
    ∃ vetted key, Reaches settings call.resolver token issuer time vetted key ∧
      verdict call.verifier vetted key ≠ .ok true := by
  constructor
  · intro fails
    rcases fails with fails | fails
    · exact tells_of_failsAs contract answers .invalidSignature (by decide) fails
    · exact tells_of_failsAs contract answers .algorithmKeyMismatch (by decide) fails
  · intro parts
    obtain ⟨vetted, key, reaches, refused⟩ := parts
    have result := call.result_of_reaches reaches
    obtain ⟨cause, remains, coded, kinds⟩ := remaining_of_refused contract refused settings call.intrinsic
    rw [remains] at result
    have fails : call.FailsAs cause.kind.code := coded ▸ .of_rejection result
    rcases kinds with same | same
    · rw [same] at fails
      exact .inl fails
    · rw [same] at fails
      exact .inr fails

theorem unbound_iff : call.FailsAs "invalid_challenge" ↔
    ∃ vetted key, Reaches settings call.resolver token issuer time vetted key ∧
      verdict call.verifier vetted key = .ok true ∧
      (vetted.claims.challenge.challenge ≠ call.intrinsic.derive.challenge ∨
        vetted.claims.challenge.context ≠ call.intrinsic.derive.context) := by
  constructor
  · exact tells_of_failsAs contract answers .invalidChallenge (by decide)
  · intro parts
    obtain ⟨vetted, key, reaches, confirmed, differs⟩ := parts
    have result := call.result_of_reaches reaches
    rw [remaining_of_unbound confirmed (ChallengePair.ne_iff.2 differs)] at result
    exact .of_rejection result

end Codes

end Call

/-- What each code tells: that the token, its claims and its issuer are in order, and how far the call came from
there. It came to the time, to the key, to the signature or to the attempt, and there it ended. -/
theorem verify_codes (call : Call settings token issuer time) (contract : call.verifier.KeepsContract)
    (answers : call.resolver.KeepsContract) :
    (call.FailsAs "expired_token" ↔
      ∃ vetted, Vets settings token issuer vetted ∧ (vetted.claims.exp : Int) ≤ time) ∧
    (call.FailsAs "not_yet_valid" ↔
      ∃ vetted, Vets settings token issuer vetted ∧ time < vetted.claims.iat) ∧
    (call.FailsAs "unknown_key" ↔
      ∃ vetted, Vets settings token issuer vetted ∧ (vetted.claims.iat : Int) ≤ time ∧ time < vetted.claims.exp ∧
        call.resolver (Bytes.ofString vetted.claims.iss) (Text.ofString vetted.token.header.kid) = .ok none) ∧
    (∀ registry : Registry, call.resolver = registry.resolver → (call.FailsAs "unknown_key" ↔
      ∃ vetted, Vets settings token issuer vetted ∧ (vetted.claims.iat : Int) ≤ time ∧ time < vetted.claims.exp ∧
        registry.Lacks (Bytes.ofString vetted.claims.iss) (Text.ofString vetted.token.header.kid))) ∧
    (call.FailsAs "invalid_signature" ∨ call.FailsAs "algorithm_key_mismatch" ↔
      ∃ vetted key, Reaches settings call.resolver token issuer time vetted key ∧
        verdict call.verifier vetted key ≠ .ok true) ∧
    (call.FailsAs "invalid_challenge" ↔
      ∃ vetted key, Reaches settings call.resolver token issuer time vetted key ∧
        verdict call.verifier vetted key = .ok true ∧
        (vetted.claims.challenge.challenge ≠ call.intrinsic.derive.challenge ∨
          vetted.claims.challenge.context ≠ call.intrinsic.derive.context)) := by
  refine ⟨call.expired_iff contract answers, call.early_iff contract answers, call.keyless_iff contract answers, ?_,
    call.refused_iff contract answers, call.unbound_iff contract answers⟩
  intro registry resolves
  rw [call.keyless_iff contract answers, resolves]
  simp only [Registry.resolver, Except.ok.injEq, Registry.resolve_eq_none_iff]

end Endings

open Statement

/-- The specimen too late, without a key, and with a signature that does not hold. -/
theorem verify_codes_specimen :
    (∀ time : Int, 2000 ≤ time → (Call.plain .widest (.text ((specimen .hs256).withSignature .escaped [0x01]))
      (.bytes (Bytes.ofString "org-42")) time (.constant (.ok false)) (Registry.mk []).resolver
      (specimen .hs256).intrinsic).FailsAs "expired_token") ∧
    (specimenCall (.constant (.ok false)) (Registry.mk []).resolver (specimen .hs256).intrinsic).FailsAs "unknown_key" ∧
    ∃ code ∈ ["invalid_signature", "algorithm_key_mismatch"],
      (specimenCall (.constant (.ok false)) (fun _ _ => .ok (some (key "k1" [0x02]))) (specimen .hs256).intrinsic).FailsAs
        code := by
  have vets := (specimen_sound .hs256).vets (List.cons_ne_nil 0x01 [])
    (.text ((specimen .hs256).withSignature .escaped [0x01])) (specimen_short .hs256 (by decide)) specimen_issuer rfl
  have started : ((specimen .hs256).claims.iat : Int) ≤ 1500 := (by decide : (1000 : Int) ≤ 1500)
  have unexpired : (1500 : Int) < (specimen .hs256).claims.exp := (by decide : (1500 : Int) < 2000)
  have contract := Verifier.keepsContract_constant false
  refine ⟨?_, ?_, ?_⟩
  · intro time late
    exact (verify_codes (Call.plain _ _ _ time _ _ _) contract (Registry.keepsContract _)).1.2 ⟨_, vets, late⟩
  · exact (verify_codes (specimenCall _ _ _) contract (Registry.keepsContract _)).2.2.1.2 ⟨_, vets, started, unexpired, rfl⟩
  · have reaches : Reaches .widest (fun _ _ => .ok (some (key "k1" [0x02]))) _ _ 1500 _ _ :=
      ⟨vets, started, unexpired, rfl⟩
    have refused : ∀ vetted, verdict (.constant (.ok false)) vetted (key "k1" [0x02]) ≠ .ok true := by
      intro vetted confirmed
      cases confirmed
    have codes := verify_codes (specimenCall _ (fun _ _ => .ok (some (key "k1" [0x02]))) (specimen .hs256).intrinsic)
      contract fun _ _ => ⟨_, rfl⟩
    rcases codes.2.2.2.2.1.2 ⟨_, _, reaches, refused _⟩ with fails | fails
    · exact ⟨_, List.mem_cons_self, fails⟩
    · exact ⟨_, List.mem_cons_of_mem _ List.mem_cons_self, fails⟩

end Authenticator

end Credential
