import Credential.Authenticator
import Credential.Proofs.CompactForm

/-! What each stage of a verification asks. A stage is known here by exactly when it succeeds and with
what, so that nothing about a whole verification has to look into one again. -/

namespace Credential

open Rejection

theorem Algorithm.ofName?_eq_some {name : String} {algorithm : Algorithm} :
    Algorithm.ofName? name = some algorithm ↔ algorithm.name = name := by
  constructor
  · intro found
    have same := List.find?_some found
    exact of_decide_eq_true same
  · rintro rfl
    cases algorithm <;> decide

theorem Issuer.ofAnyForm_text {name : String} (filled : Bytes.ofString name ≠ []) :
    ofAnyForm (.text name) = .ok ⟨Bytes.ofString name, filled⟩ := by
  rw [ofAnyForm, Text.encode_ofString]
  exact dif_neg filled

theorem Issuer.parse_ok_iff {limit : Int} {given : Argument} {issuer : Issuer} :
    Issuer.parse limit given = .ok issuer ↔ Issuer.ofAnyForm given = .ok issuer ∧ (issuer.bytes.length : Int) ≤ limit := by
  constructor
  · intro parsed
    obtain ⟨named, form, parsed⟩ := Result.bind_ok_iff.1 parsed
    split at parsed
    · cases parsed
    next short =>
      cases parsed
      exact ⟨form, Int.not_lt.1 short⟩
  · intro parts
    obtain ⟨form, short⟩ := parts
    refine Result.bind_ok_iff.2 ⟨issuer, form, ?_⟩
    rw [if_neg (Int.not_lt.2 short)]

namespace Authenticator

theorem algorithmOf_ok_iff {settings : Settings} {name : String} {algorithm : Algorithm} :
    algorithmOf settings name = .ok algorithm ↔ algorithm.name = name ∧ algorithm ∈ settings.allowed := by
  rw [← Algorithm.ofName?_eq_some]
  unfold algorithmOf
  cases Algorithm.ofName? name with
  | none => simp
  | some found =>
    constructor
    · intro chosen
      dsimp only at chosen
      split at chosen
      next allowed =>
        cases chosen
        exact ⟨rfl, allowed⟩
      · cases chosen
    · intro parts
      obtain ⟨same, allowed⟩ := parts
      cases same
      exact if_pos allowed

theorem issuerOf_ok_iff {settings : Settings} {given : Argument} {claims : Claims} {issuer : Issuer} :
    issuerOf settings given claims = .ok issuer ↔
      Issuer.parse settings.maxIssuerLength given = .ok issuer ∧ issuer.bytes = Bytes.ofString claims.iss := by
  unfold issuerOf
  cases Issuer.parse settings.maxIssuerLength given with
  | error cause => simp
  | ok found =>
    constructor
    · intro chosen
      dsimp only at chosen
      split at chosen
      next same =>
        cases chosen
        exact ⟨rfl, same.symm⟩
      · cases chosen
    · intro parts
      obtain ⟨same, named⟩ := parts
      cases same
      exact if_pos named.symm

theorem agreement_ok_iff {header : Header} {claims : Claims} :
    agreement header claims = .ok () ↔
      (claims.alg = none ∨ claims.alg = some header.alg) ∧ (claims.kid = none ∨ claims.kid = some header.kid) := by
  unfold agreement
  cases claims.alg <;> cases claims.kid <;> simp [Option.filter] <;> grind

/-- All that is asked of a token before the time, a key or the attempt count. -/
structure Vets (settings : Settings) (token issuer : Argument) (vetted : Vetted) : Prop where
  decoded : Token.decode settings.maxTokenLength token = .ok vetted.token
  claimed : Claims.ofPayload vetted.token.payload = .ok vetted.claims
  named : vetted.algorithm.name = vetted.token.header.alg
  allowed : vetted.algorithm ∈ settings.allowed
  parsed : Issuer.parse settings.maxIssuerLength issuer = .ok vetted.issuer
  issued : vetted.issuer.bytes = Bytes.ofString vetted.claims.iss
  algAgrees : vetted.claims.alg = none ∨ vetted.claims.alg = some vetted.token.header.alg
  kidAgrees : vetted.claims.kid = none ∨ vetted.claims.kid = some vetted.token.header.kid

theorem Vets.paired {settings : Settings} {token issuer : Argument} {vetted : Vetted}
    (vets : Vets settings token issuer vetted) : token.Paired := by
  obtain ⟨_, _, _, stands, -⟩ := Token.decode_ok_iff.1 vets.decoded
  exact stands.paired

theorem vet_ok_iff {settings : Settings} {request : Request} {vetted : Vetted} :
    vet settings request = .ok vetted ↔ Vets settings request.token request.issuer vetted := by
  constructor
  · intro vets
    obtain ⟨token, decoded, vets⟩ := Result.bind_ok_iff.1 vets
    obtain ⟨claims, claimed, vets⟩ := Result.bind_ok_iff.1 (Result.mapError_ok_iff.1 vets)
    obtain ⟨algorithm, chosen, vets⟩ := Result.bind_ok_iff.1 vets
    obtain ⟨issuer, issued, vets⟩ := Result.bind_ok_iff.1 vets
    obtain ⟨_, agrees, vets⟩ := Result.bind_ok_iff.1 vets
    cases vets
    obtain ⟨named, allowed⟩ := algorithmOf_ok_iff.1 chosen
    obtain ⟨parsed, issued⟩ := issuerOf_ok_iff.1 issued
    obtain ⟨algAgrees, kidAgrees⟩ := agreement_ok_iff.1 agrees
    exact ⟨Result.mapError_ok_iff.1 decoded, claimed, named, allowed, parsed, issued, algAgrees, kidAgrees⟩
  · intro vets
    refine Result.bind_ok_iff.2 ⟨_, Result.mapError_ok_iff.2 vets.decoded, Result.mapError_ok_iff.2 ?_⟩
    refine Result.bind_ok_iff.2 ⟨_, vets.claimed, ?_⟩
    refine Result.bind_ok_iff.2 ⟨_, algorithmOf_ok_iff.2 ⟨vets.named, vets.allowed⟩, ?_⟩
    refine Result.bind_ok_iff.2 ⟨_, issuerOf_ok_iff.2 ⟨vets.parsed, vets.issued⟩, ?_⟩
    exact Result.bind_ok_iff.2 ⟨(), agreement_ok_iff.2 ⟨vets.algAgrees, vets.kidAgrees⟩, rfl⟩

theorem vet_error {settings : Settings} {request : Request} {fault : Fault} (unvetted : vet settings request = .error fault) :
    (∃ cause, fault = .rejected cause) ∨
      ∃ text, request.token = .text text ∧ ¬text.Paired ∧ fault = .unencodable text.unencodable := by
  rcases Result.bind_error_iff.1 unvetted with unread | ⟨token, -, refused⟩
  · obtain ⟨cause, failed, rfl⟩ := Result.mapError_error_iff.1 unread
    cases cause with
    | malformed cause => exact .inl ⟨_, rfl⟩
    | unencodable cause =>
      obtain ⟨text, given, unpaired, rfl⟩ := Token.decode_unencodable_iff.1 failed
      exact .inr ⟨text, given, unpaired, rfl⟩
  · obtain ⟨cause, -, rfl⟩ := Result.mapError_error_iff.1 refused
    exact .inl ⟨cause, rfl⟩

theorem vet_unencodable {settings : Settings} {request : Request} {text : Text} (given : request.token = .text text)
    (unpaired : ¬text.Paired) : vet settings request = .error (.unencodable text.unencodable) := by
  have unread : Token.decode settings.maxTokenLength request.token = .error (.unencodable text.unencodable) :=
    Token.decode_unencodable_iff.2 ⟨text, given, unpaired, rfl⟩
  exact Result.bind_error_iff.2 (.inl (Result.mapError_error_iff.2 ⟨_, unread, rfl⟩))

theorem checkTime_ok_iff {claims : Claims} {time : Int} :
    checkTime claims time = .ok () ↔ (claims.iat : Int) ≤ time ∧ time < claims.exp := by
  unfold checkTime
  split
  · simp only [reduceCtorEq, false_iff]
    omega
  · split
    · simp only [reduceCtorEq, false_iff]
      omega
    · simp only [true_iff]
      omega

theorem keyOf_ok_iff {resolver : Resolver} {vetted : Vetted} {key : Key} :
    keyOf resolver vetted = .ok key ↔
      resolver vetted.issuer.bytes (Text.ofString vetted.token.header.kid) = .ok (some key) := by
  rw [keyOf, Result.bind_ok_iff]
  constructor
  · rintro ⟨found, answered, chosen⟩
    cases found with
    | none => cases chosen
    | some found =>
      cases chosen
      exact answered
  · intro answered
    exact ⟨_, answered, rfl⟩

theorem keyOf_error_iff {resolver : Resolver} {vetted : Vetted} {fault : Fault} :
    keyOf resolver vetted = .error fault ↔
      resolver vetted.issuer.bytes (Text.ofString vetted.token.header.kid) = .error fault ∨
      (resolver vetted.issuer.bytes (Text.ofString vetted.token.header.kid) = .ok none ∧
        fault = .rejected (.unknownKey vetted.token.header.kid vetted.issuer)) := by
  rw [keyOf, Result.bind_error_iff]
  refine or_congr_right ?_
  constructor
  · rintro ⟨found, answered, missing⟩
    cases found with
    | none => exact ⟨answered, (Except.error.inj missing).symm⟩
    | some found => cases missing
  · rintro ⟨answered, rfl⟩
    exact ⟨_, answered, rfl⟩

def verdict (verifier : Verifier) (vetted : Vetted) (key : Key) : Except Fault Bool :=
  (verifier vetted.algorithm key (Bytes.ofString vetted.token.signingInput) vetted.token.signature).result

theorem result_checkSignature (verifier : Verifier) (vetted : Vetted) (key : Key) :
    (checkSignature verifier vetted key).result = match verdict verifier vetted key with
      | .ok true => .ok ()
      | .ok false => .error (.rejected .badSignature)
      | .error fault => .error fault := by
  simp only [checkSignature, Run.result_bind, Run.result_note, verdict]
  generalize verifier vetted.algorithm key (Bytes.ofString vetted.token.signingInput) vetted.token.signature = answer
  cases answer.result with
  | error fault => rfl
  | ok holds => cases holds <;> rfl

theorem checkSignature_ok_iff {verifier : Verifier} {vetted : Vetted} {key : Key} :
    (checkSignature verifier vetted key).result = .ok () ↔ verdict verifier vetted key = .ok true := by
  rw [result_checkSignature]
  split
  next authentic => simp [authentic]
  next refused => simp [refused]
  next fault failed => simp [failed]

theorem bind_ok_iff {claimed derived : ChallengePair} {intrinsic : Intrinsic} :
    bind claimed intrinsic = .ok derived ↔ claimed = intrinsic.derive ∧ derived = intrinsic.derive := by
  unfold bind Intrinsic.binds
  by_cases same : claimed = intrinsic.derive <;> simp [same, eq_comm]

/-- The facts that a token proves once nothing speaks against it. -/
def proven (vetted : Vetted) (authority : String) (binding : Binding) (purpose : Purpose) : Verified where
  issuer := vetted.issuer
  kid := vetted.token.header.kid
  algorithm := vetted.algorithm
  device := DeviceId.ofSubject vetted.claims.sub
  authority := authority
  binding := binding
  issuedAt := vetted.claims.iat
  expiresAt := vetted.claims.exp
  purpose := purpose

theorem facts_ok_iff {settings : Settings} {vetted : Vetted} {intrinsic : Intrinsic} {verified : Verified} :
    facts settings vetted intrinsic = .ok verified ↔ ∃ authority binding,
      Audience.authority vetted.claims.aud = .ok authority ∧
      Binding.ofJti (settings.network.map Int.ofNat) vetted.claims.jti = .ok binding ∧
      verified = proven vetted authority binding intrinsic.purpose := by
  constructor
  · intro derived
    obtain ⟨authority, meant, derived⟩ := Result.bind_ok_iff.1 derived
    obtain ⟨binding, tied, derived⟩ := Result.bind_ok_iff.1 derived
    cases derived
    exact ⟨authority, binding, Result.mapError_ok_iff.1 meant, Result.mapError_ok_iff.1 tied, rfl⟩
  · intro parts
    obtain ⟨authority, binding, meant, tied, rfl⟩ := parts
    refine Result.bind_ok_iff.2 ⟨authority, Result.mapError_ok_iff.2 meant, ?_⟩
    exact Result.bind_ok_iff.2 ⟨binding, Result.mapError_ok_iff.2 tied, rfl⟩

/-- The stages one after another, journals apart. -/
theorem result_stages (verifier : Verifier) (settings : Settings) (request : Request) (resolver : Resolver)
    (time : Int) (intrinsic : Intrinsic) :
    (stages verifier settings request resolver time intrinsic).result = (do
      let vetted ← vet settings request
      (checkTime vetted.claims time).mapError .rejected
      let key ← keyOf resolver vetted
      (checkSignature verifier vetted key).result
      let _ ← (bind vetted.claims.challenge intrinsic).mapError .rejected
      (facts settings vetted intrinsic).mapError .rejected) := by
  simp only [stages, step, Run.result_bind, Run.result_ofExcept, Run.result_note, Run.result_pure,
    Result.bind_noted]

/-- A call that comes as far as its signature: the token is vetted and in time, and there is a key for it. -/
structure Reaches (settings : Settings) (resolver : Resolver) (token issuer : Argument) (time : Int)
    (vetted : Vetted) (key : Key) : Prop where
  vets : Vets settings token issuer vetted
  started : (vetted.claims.iat : Int) ≤ time
  unexpired : time < vetted.claims.exp
  resolved : resolver vetted.issuer.bytes (Text.ofString vetted.token.header.kid) = .ok (some key)

/-- How a call can end before it comes to its signature. -/
inductive Stops (settings : Settings) (resolver : Resolver) (token issuer : Argument) (time : Int) : Fault → Prop where
  | rejected (cause : Rejection) : Stops settings resolver token issuer time (.rejected cause)
  | unencodable {text : Text} (given : token = .text text) (unpaired : ¬text.Paired) :
      Stops settings resolver token issuer time (.unencodable text.unencodable)
  | unresolved {vetted : Vetted} {fault : Fault} (vets : Vets settings token issuer vetted)
      (started : (vetted.claims.iat : Int) ≤ time) (unexpired : time < vetted.claims.exp)
      (failed : resolver vetted.issuer.bytes (Text.ofString vetted.token.header.kid) = .error fault) :
      Stops settings resolver token issuer time fault

theorem Stops.of_vet {settings : Settings} {request : Request} {fault : Fault}
    (unvetted : vet settings request = .error fault) (resolver : Resolver) (time : Int) :
    Stops settings resolver request.token request.issuer time fault := by
  rcases vet_error unvetted with ⟨cause, rfl⟩ | ⟨text, given, unpaired, rfl⟩
  · exact .rejected cause
  · exact .unencodable given unpaired

theorem Stops.of_keyOf {settings : Settings} {resolver : Resolver} {token issuer : Argument} {time : Int} {vetted : Vetted}
    {fault : Fault} (vets : Vets settings token issuer vetted) (started : (vetted.claims.iat : Int) ≤ time)
    (unexpired : time < vetted.claims.exp) (keyless : keyOf resolver vetted = .error fault) :
    Stops settings resolver token issuer time fault := by
  rcases keyOf_error_iff.1 keyless with failed | ⟨-, rfl⟩
  · exact .unresolved vets started unexpired failed
  · exact .rejected _

def remaining (verifier : Verifier) (settings : Settings) (vetted : Vetted) (key : Key) (intrinsic : Intrinsic) :
    Except Fault Verified := do
  (checkSignature verifier vetted key).result
  let _ ← (bind vetted.claims.challenge intrinsic).mapError .rejected
  (facts settings vetted intrinsic).mapError .rejected

variable {settings : Settings} {resolver : Resolver} {request : Request} {time : Int}

theorem Reaches.result_stages {vetted : Vetted} {key : Key}
    (reaches : Reaches settings resolver request.token request.issuer time vetted key)
    (verifier : Verifier) (intrinsic : Intrinsic) :
    (stages verifier settings request resolver time intrinsic).result =
      remaining verifier settings vetted key intrinsic := by
  have vets := vet_ok_iff.2 reaches.vets
  have timely := checkTime_ok_iff.2 ⟨reaches.started, reaches.unexpired⟩
  have resolved := keyOf_ok_iff.2 reaches.resolved
  rw [Authenticator.result_stages, vets]
  simp only [Result.mapError_ok, Bind.bind, Except.bind, timely, resolved]
  rfl

/-- The stages before the signature decide without the verifier and without the intrinsic value. -/
theorem stages_split (settings : Settings) (request : Request) (resolver : Resolver) (time : Int) :
    (∃ vetted key, Reaches settings resolver request.token request.issuer time vetted key) ∨
    ∃ fault, Stops settings resolver request.token request.issuer time fault ∧ ∀ verifier intrinsic,
      (stages verifier settings request resolver time intrinsic).result = .error fault := by
  cases vets : vet settings request with
  | error fault =>
    refine .inr ⟨fault, .of_vet vets resolver time, fun verifier intrinsic => ?_⟩
    rw [result_stages, vets]
    rfl
  | ok vetted =>
    cases timely : checkTime vetted.claims time with
    | error cause =>
      refine .inr ⟨.rejected cause, .rejected cause, fun verifier intrinsic => ?_⟩
      rw [result_stages, vets]
      simp only [Result.mapError_error, Bind.bind, Except.bind, timely]
    | ok _ =>
      obtain ⟨started, unexpired⟩ := checkTime_ok_iff.1 timely
      cases resolved : keyOf resolver vetted with
      | error fault =>
        refine .inr ⟨fault, .of_keyOf (vet_ok_iff.1 vets) started unexpired resolved, fun verifier intrinsic => ?_⟩
        rw [result_stages, vets]
        simp only [Result.mapError_ok, Bind.bind, Except.bind, timely, resolved]
      | ok key => exact .inl ⟨vetted, key, vet_ok_iff.1 vets, started, unexpired, keyOf_ok_iff.1 resolved⟩

theorem execute_given {authenticator : Authenticator} {intrinsic : Intrinsic}
    (found : (request.resolver <|> authenticator.resolver) = some resolver) (timed : request.time = some time)
    (supplied : request.intrinsic = some intrinsic) :
    execute authenticator request =
      stages authenticator.verifier authenticator.settings request resolver time intrinsic := by
  simp only [execute, found, timed, supplied]

theorem result_settle (run : Run Event Fault Verified) : (settle run).result = match run.result with
    | .ok verified => .ok (.verified verified)
    | .error (.rejected cause) => .ok (.failed (Failure.ofRejection cause))
    | .error fault => .error fault := by
  unfold settle
  cases run.result with
  | ok verified => rfl
  | error fault => cases fault <;> rfl

theorem settle_error_iff {run : Run Event Fault Verified} {fault : Fault} :
    (settle run).result = .error fault ↔ run.result = .error fault ∧ ∀ cause, fault ≠ .rejected cause := by
  unfold settle
  split
  next verified accepted => simp [accepted]
  next cause rejected =>
    simp only [rejected, reduceCtorEq, Except.error.injEq, false_iff, not_and]
    intro same other
    exact other cause same.symm
  next other unrejected failed =>
    simp only [failed, Except.error.injEq, iff_self_and]
    rintro rfl cause rfl
    exact unrejected cause rfl

theorem settle_verified_iff {run : Run Event Fault Verified} {verified : Verified} :
    (settle run).result = .ok (.verified verified) ↔ run.result = .ok verified := by
  rw [result_settle]
  split
  next found accepted => simp [accepted]
  next cause rejected => simp [rejected]
  next fault unrejected failed => simp [failed]

theorem settle_rejected {run : Run Event Fault Verified} {cause : Rejection}
    (rejected : run.result = .error (.rejected cause)) :
    (settle run).result = .ok (.failed (Failure.ofRejection cause)) := by
  simp only [settle, rejected]

end Authenticator

end Credential
