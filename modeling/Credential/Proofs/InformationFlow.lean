import Credential.Proofs.Issuance

/-! What an outcome can tell. Each stage decides before anything a later one needs is touched: a token that is
ill-formed or out of time says nothing of the registered keys, a token without a key nothing of the verifier,
and a token that is not authentic nothing of the attempt. Here whole runs are compared, journals included. -/

namespace Credential

namespace Run

variable {event fault value next : Type}

theorem mem_journal_bind {run : Run event fault value} {happened : event} (following : value → Run event fault next)
    (noted : happened ∈ run.journal) : happened ∈ (run >>= following).journal := by
  cases found : run.result with
  | ok value =>
    rw [bind_ok following found]
    exact List.mem_append_left _ noted
  | error cause =>
    rw [bind_error following found]
    exact noted

def Unasked (run : Run Event fault value) : Prop :=
  ∀ algorithm key signed signature, Event.consulted algorithm key signed signature ∉ run.journal

end Run

namespace Authenticator

/-- All that is settled before a key is looked up. -/
def screen (settings : Settings) (token issuer : Argument) (time : Int) : Except Fault Vetted := do
  let vetted ← vet settings ⟨token, issuer, none, none, none⟩
  (checkTime vetted.claims time).mapError .rejected
  .ok vetted

/-- All that follows once a key has been found. -/
def authenticate (verifier : Verifier) (settings : Settings) (vetted : Vetted) (key : Key) (intrinsic : Intrinsic) :
    Run Event Fault Verified := do
  checkSignature verifier vetted key
  let _ ← step (bind vetted.claims.challenge intrinsic)
  let verified ← step (facts settings vetted intrinsic)
  Run.note (.accepted verified.issuer verified.kid)
  pure verified

theorem step_error {value next : Type} (cause : Rejection) (following : value → Run Event Fault next) :
    step (.error cause) >>= following = ⟨[], .error (.rejected cause)⟩ := by
  rw [step, Result.mapError_error]
  exact Run.ofExcept_error_bind _ following

theorem step_ok {value next : Type} (found : value) (following : value → Run Event Fault next) :
    step (.ok found) >>= following = following found := by
  rw [step, Result.mapError_ok]
  exact Run.ofExcept_ok_bind found following

theorem screen_ok_iff {settings : Settings} {token issuer : Argument} {time : Int} {vetted : Vetted} :
    screen settings token issuer time = .ok vetted ↔ Vets settings token issuer vetted ∧
      (vetted.claims.iat : Int) ≤ time ∧ time < vetted.claims.exp := by
  constructor
  · intro admitted
    obtain ⟨found, vets, admitted⟩ := Result.bind_ok_iff.1 admitted
    obtain ⟨_, timely, same⟩ := Result.bind_ok_iff.1 admitted
    cases same
    exact ⟨vet_ok_iff.1 vets, checkTime_ok_iff.1 (Result.mapError_ok_iff.1 timely)⟩
  · intro parts
    obtain ⟨vets, timely⟩ := parts
    refine Result.bind_ok_iff.2 ⟨vetted, vet_ok_iff.2 vets, Result.bind_ok_iff.2 ⟨(), ?_, rfl⟩⟩
    exact Result.mapError_ok_iff.2 (checkTime_ok_iff.2 timely)

/-- The stages as three parts, of which the first knows no keys, and the second no verifier and no attempt. -/
theorem stages_eq (verifier : Verifier) (settings : Settings) (request : Request) (resolver : Resolver) (time : Int)
    (intrinsic : Intrinsic) :
    stages verifier settings request resolver time intrinsic =
      match screen settings request.token request.issuer time with
      | .error fault => Run.fail fault
      | .ok vetted =>
        match keyOf resolver vetted with
        | .error fault => Run.fail fault
        | .ok key => authenticate verifier settings vetted key intrinsic := by
  have asked : vet settings ⟨request.token, request.issuer, none, none, none⟩ = vet settings request := rfl
  cases vets : vet settings request with
  | error fault =>
    have refused : screen settings request.token request.issuer time = .error fault := by
      rw [screen, asked, vets]
      rfl
    rw [refused, stages, vets, Run.ofExcept_error_bind]
    rfl
  | ok vetted =>
    cases timely : checkTime vetted.claims time with
    | error cause =>
      have refused : screen settings request.token request.issuer time = .error (.rejected cause) := by
        rw [screen, asked, vets]
        exact Result.bind_error_iff.2 (.inr ⟨vetted, rfl, Result.bind_error_iff.2 (.inl (by rw [timely]; rfl))⟩)
      rw [refused, stages, vets, Run.ofExcept_ok_bind, timely, step_error]
      rfl
    | ok _ =>
      have admitted : screen settings request.token request.issuer time = .ok vetted :=
        screen_ok_iff.2 ⟨vet_ok_iff.1 vets, checkTime_ok_iff.1 timely⟩
      rw [admitted, stages, vets, Run.ofExcept_ok_bind, timely, step_ok]
      cases resolved : keyOf resolver vetted with
      | error fault =>
        simp only [resolved, Run.ofExcept_error_bind]
        rfl
      | ok key => simp only [resolved, Run.ofExcept_ok_bind, authenticate]

section Authentication

variable {verifier : Verifier} {settings : Settings} {vetted : Vetted} {key : Key}

theorem mem_journal_authenticate (intrinsic : Intrinsic) :
    .consulted vetted.algorithm key (Bytes.ofString vetted.token.signingInput) vetted.token.signature ∈
      (authenticate verifier settings vetted key intrinsic).journal := by
  apply Run.mem_journal_bind
  apply Run.mem_journal_bind
  exact List.mem_singleton_self _

theorem authenticate_refused (refused : verdict verifier vetted key ≠ .ok true) (intrinsic another : Intrinsic) :
    authenticate verifier settings vetted key intrinsic = authenticate verifier settings vetted key another := by
  cases checked : (checkSignature verifier vetted key).result with
  | ok _ => exact absurd (checkSignature_ok_iff.1 checked) refused
  | error fault => rw [authenticate, authenticate, Run.bind_error _ checked, Run.bind_error _ checked]

end Authentication

theorem mem_journal_settle {run : Run Event Fault Verified} {happened : Event} (noted : happened ∈ run.journal) :
    happened ∈ (settle run).journal := by
  unfold settle
  split
  · exact noted
  · exact List.mem_append_left _ noted
  · exact noted

/-- A call with all its parts in their places, about one token and issuer, under some settings, at some time. -/
structure Call (settings : Settings) (token issuer : Argument) (time : Int) where
  authenticator : Authenticator
  request : Request
  resolver : Resolver
  intrinsic : Intrinsic
  configured : authenticator.settings = settings
  shown : request.token = token
  named : request.issuer = issuer
  timed : request.time = some time
  found : (request.resolver <|> authenticator.resolver) = some resolver
  supplied : request.intrinsic = some intrinsic

namespace Call

variable {settings : Settings} {token issuer : Argument} {time : Int}

def verifier (call : Call settings token issuer time) : Verifier := call.authenticator.verifier

def run (call : Call settings token issuer time) : Run Event Fault Outcome := verify call.authenticator call.request

/-- How a call ends that is refused without any verifier. -/
def refusal (cause : Rejection) : Run Event Fault Outcome :=
  ⟨[.rejected cause.code], .ok (.failed (Failure.ofRejection cause))⟩

theorem settle_fail (cause : Rejection) : settle (Run.fail (.rejected cause)) = refusal cause := rfl

/-- A call is its three parts, and whatever ends before the last part is settled as it is. -/
theorem run_eq (call : Call settings token issuer time) :
    call.run = match screen settings token issuer time with
      | .error fault => settle (Run.fail fault)
      | .ok vetted =>
        match keyOf call.resolver vetted with
        | .error fault => settle (Run.fail fault)
        | .ok key => settle (authenticate call.verifier settings vetted key call.intrinsic) := by
  have staged := stages_eq call.verifier settings call.request call.resolver time call.intrinsic
  rw [call.shown, call.named] at staged
  rw [run, verify, execute_given call.found call.timed call.supplied, call.configured]
  rw [verifier] at staged ⊢
  rw [staged]
  cases screen settings token issuer time with
  | error fault => rfl
  | ok vetted =>
    cases resolved : keyOf call.resolver vetted with
    | error fault => simp only [resolved]
    | ok key => simp only [resolved]

theorem run_of_screen_error {fault : Fault} (refused : screen settings token issuer time = .error fault)
    (call : Call settings token issuer time) : call.run = settle (Run.fail fault) := by
  rw [run_eq, refused]

theorem run_of_keyOf_error {vetted : Vetted} {fault : Fault}
    (admitted : screen settings token issuer time = .ok vetted) (call : Call settings token issuer time)
    (keyless : keyOf call.resolver vetted = .error fault) : call.run = settle (Run.fail fault) := by
  simp only [run_eq, admitted, keyless]

theorem run_of_keyOf_ok {vetted : Vetted} {key : Key} {call : Call settings token issuer time}
    (admitted : screen settings token issuer time = .ok vetted) (resolved : keyOf call.resolver vetted = .ok key) :
    call.run = settle (authenticate call.verifier settings vetted key call.intrinsic) := by
  simp only [run_eq, admitted, resolved]

theorem not_unasked {vetted : Vetted} {key : Key} {call : Call settings token issuer time}
    (admitted : screen settings token issuer time = .ok vetted) (resolved : keyOf call.resolver vetted = .ok key) :
    ¬call.run.Unasked := by
  intro unasked
  apply unasked vetted.algorithm key (Bytes.ofString vetted.token.signingInput) vetted.token.signature
  rw [run_of_keyOf_ok admitted resolved]
  exact mem_journal_settle (mem_journal_authenticate call.intrinsic)

theorem run_eq_of_unasked {call other : Call settings token issuer time} (unasked : call.run.Unasked)
    (resolvers : other.resolver = call.resolver) : other.run = call.run := by
  cases admitted : screen settings token issuer time with
  | error fault => rw [run_of_screen_error admitted, run_of_screen_error admitted]
  | ok vetted =>
    cases resolved : keyOf call.resolver vetted with
    | error fault =>
      rw [run_of_keyOf_error admitted call resolved]
      exact run_of_keyOf_error admitted other (resolvers ▸ resolved)
    | ok key => exact absurd unasked (not_unasked admitted resolved)

theorem run_eq_of_refused {call other : Call settings token issuer time} {vetted : Vetted} {key : Key}
    (reaches : Reaches settings call.resolver token issuer time vetted key)
    (refused : verdict call.verifier vetted key ≠ .ok true) (resolvers : other.resolver = call.resolver)
    (verifiers : other.verifier = call.verifier) : other.run = call.run := by
  have admitted := screen_ok_iff.2 ⟨reaches.vets, reaches.started, reaches.unexpired⟩
  have resolved := keyOf_ok_iff.2 reaches.resolved
  rw [run_of_keyOf_ok admitted resolved, run_of_keyOf_ok admitted (resolvers ▸ resolved), verifiers,
    authenticate_refused refused other.intrinsic call.intrinsic]

theorem settle_fail_of_failed {fault : Fault} {failure : Failure}
    (failed : (settle (Run.fail fault)).result = .ok (.failed failure)) :
    settle (Run.fail fault) = ⟨[.rejected failure.code], .ok (.failed failure)⟩ := by
  cases fault <;> cases failed
  rfl

theorem run_of_empty {base : Call settings token issuer time} (empty : base.resolver = (Registry.mk []).resolver)
    {failure : Failure} (failed : base.run.result = .ok (.failed failure)) (coded : failure.code ≠ "unknown_key")
    (call : Call settings token issuer time) : call.run = ⟨[.rejected failure.code], .ok (.failed failure)⟩ := by
  cases admitted : screen settings token issuer time with
  | error fault =>
    rw [run_of_screen_error admitted] at failed ⊢
    exact settle_fail_of_failed failed
  | ok vetted =>
    have keyless : keyOf base.resolver vetted =
        .error (.rejected (.unknownKey vetted.token.header.kid vetted.issuer)) := by
      rw [empty]
      rfl
    rw [run_of_keyOf_error admitted base keyless] at failed
    cases failed
    exact absurd rfl coded

theorem vets_of_run_ne {call other : Call settings token issuer time} (differ : other.run ≠ call.run) :
    ∃ vetted, Vets settings token issuer vetted ∧ (vetted.claims.iat : Int) ≤ time ∧ time < vetted.claims.exp := by
  cases admitted : screen settings token issuer time with
  | error fault =>
    exact absurd ((run_of_screen_error admitted other).trans (run_of_screen_error admitted call).symm) differ
  | ok vetted => exact ⟨vetted, screen_ok_iff.1 admitted⟩

theorem confirmed_of_run_ne {call other : Call settings token issuer time} (resolvers : other.resolver = call.resolver)
    (verifiers : other.verifier = call.verifier) (differ : other.run ≠ call.run) :
    ∃ vetted key, Reaches settings call.resolver token issuer time vetted key ∧
      verdict call.verifier vetted key = .ok true := by
  obtain ⟨vetted, vets, started, unexpired⟩ := vets_of_run_ne differ
  have admitted := screen_ok_iff.2 ⟨vets, started, unexpired⟩
  cases resolved : keyOf call.resolver vetted with
  | error fault =>
    have same := run_of_keyOf_error admitted other (resolvers ▸ resolved)
    exact absurd (same.trans (run_of_keyOf_error admitted call resolved).symm) differ
  | ok key =>
    have reaches : Reaches settings call.resolver token issuer time vetted key :=
      ⟨vets, started, unexpired, keyOf_ok_iff.1 resolved⟩
    refine ⟨vetted, key, reaches, ?_⟩
    by_cases confirmed : verdict call.verifier vetted key = .ok true
    · exact confirmed
    · exact absurd (run_eq_of_refused reaches confirmed resolvers verifiers) differ

end Call

open Call

/-- The order of the stages, as what a caller can learn. What fails against no keys at all, and not for want of a
key, fails alike against all keys, with no verifier asked. What fails for want of a key fails alike for every
verifier and attempt. What a verifier does not confirm fails alike for every attempt. So only an authentic token
tells two attempts apart, and only a well-formed token in its time two registries or verifiers. -/
theorem verify_information_flow (settings : Settings) (token issuer : Argument) (time : Int) :
    (∀ base : Call settings token issuer time, base.resolver = (Registry.mk []).resolver →
      ∀ failure, base.run.result = .ok (.failed failure) → failure.code ≠ "unknown_key" →
      ∀ call : Call settings token issuer time, call.run = ⟨[.rejected failure.code], .ok (.failed failure)⟩) ∧
    (∀ (call : Call settings token issuer time) (failure : Failure), call.run.result = .ok (.failed failure) →
      failure.code = "unknown_key" → call.run.Unasked →
      ∀ other : Call settings token issuer time, other.resolver = call.resolver → other.run = call.run) ∧
    (∀ (call : Call settings token issuer time) (vetted : Vetted) (key : Key),
      Reaches settings call.resolver token issuer time vetted key → verdict call.verifier vetted key ≠ .ok true →
      ∀ other : Call settings token issuer time, other.resolver = call.resolver → other.verifier = call.verifier →
        other.run = call.run) ∧
    (∀ call other : Call settings token issuer time, other.resolver = call.resolver →
      other.verifier = call.verifier → other.run ≠ call.run →
      ∃ vetted key, Reaches settings call.resolver token issuer time vetted key ∧
        verdict call.verifier vetted key = .ok true) ∧
    (∀ call other : Call settings token issuer time, other.run ≠ call.run →
      ∃ vetted, Vets settings token issuer vetted ∧
        (vetted.claims.iat : Int) ≤ time ∧ time < vetted.claims.exp) := by
  refine ⟨?_, ?_, ?_, ?_, ?_⟩
  · intro base empty failure failed coded call
    exact run_of_empty empty failed coded call
  · intro call failure _ _ unasked other resolvers
    exact run_eq_of_unasked unasked resolvers
  · intro call vetted key reaches refused other resolvers verifiers
    exact run_eq_of_refused reaches refused resolvers verifiers
  · intro call other resolvers verifiers differ
    exact confirmed_of_run_ne resolvers verifiers differ
  · intro call other differ
    exact vets_of_run_ne differ

open Statement

def Call.plain (settings : Settings) (token issuer : Argument) (time : Int) (verifier : Verifier) (resolver : Resolver)
    (intrinsic : Intrinsic) : Call settings token issuer time where
  authenticator := ⟨verifier, some resolver, settings⟩
  request := ⟨token, issuer, some intrinsic, some time, none⟩
  resolver := resolver
  intrinsic := intrinsic
  configured := rfl
  shown := rfl
  named := rfl
  timed := rfl
  found := rfl
  supplied := rfl

/-- The specimen in its time, with a signature of one octet. -/
abbrev specimenCall : Verifier → Resolver → Intrinsic →
    Call .widest (.text ((specimen .hs256).withSignature .escaped [0x01])) (.bytes (Bytes.ofString "org-42")) 1500 :=
  Call.plain _ _ _ _

/-- A call about no token at all, one against no keys, and one whose signature does not hold. -/
theorem verify_information_flow_specimen :
    (∀ call : Call .widest (.other "NoneType") (.text "org-42") 1500,
      call.run = ⟨[.rejected "malformed_token"],
        .ok (.failed ⟨"malformed_token", "Token must be str or bytes, got NoneType", none⟩)⟩) ∧
    (∀ verifier intrinsic, (specimenCall verifier (Registry.mk []).resolver intrinsic).run =
      (specimenCall .standard (Registry.mk []).resolver (specimen .hs256).intrinsic).run) ∧
    (∀ intrinsic, (specimenCall (.constant (.ok false)) (fun _ _ => .ok (some (key "k1" [0x02]))) intrinsic).run =
      (specimenCall (.constant (.ok false)) (fun _ _ => .ok (some (key "k1" [0x02]))) (specimen .hs256).intrinsic).run) := by
  have vets := (specimen_sound .hs256).vets (List.cons_ne_nil 0x01 [])
    (.text ((specimen .hs256).withSignature .escaped [0x01])) (specimen_short .hs256 (by decide)) specimen_issuer rfl
  have started : ((specimen .hs256).claims.iat : Int) ≤ 1500 := (by decide : (1000 : Int) ≤ 1500)
  have unexpired : (1500 : Int) < (specimen .hs256).claims.exp := (by decide : (1500 : Int) < 2000)
  refine ⟨?_, ?_, ?_⟩
  · have failed : (Call.plain .widest (.other "NoneType") (.text "org-42") 1500 .standard (Registry.mk []).resolver
        (specimen .hs256).intrinsic).run.result =
        .ok (.failed ⟨"malformed_token", "Token must be str or bytes, got NoneType", none⟩) := rfl
    exact (verify_information_flow _ _ _ _).1 _ rfl _ failed (by decide)
  · intro verifier intrinsic
    have ends := Call.run_of_keyOf_error (screen_ok_iff.2 ⟨vets, started, unexpired⟩)
      (specimenCall .standard (Registry.mk []).resolver (specimen .hs256).intrinsic) rfl
    have unasked : (specimenCall .standard (Registry.mk []).resolver (specimen .hs256).intrinsic).run.Unasked := by
      intro algorithm key signed signature consulted
      rw [ends] at consulted
      cases List.mem_singleton.1 consulted
    exact (verify_information_flow _ _ _ _).2.1 _ _ (congrArg Run.result ends) rfl unasked _ rfl
  · intro intrinsic
    have reaches : Reaches .widest (fun _ _ => .ok (some (key "k1" [0x02]))) _ _ 1500 _ _ :=
      ⟨vets, started, unexpired, rfl⟩
    have refused : ∀ vetted, verdict (.constant (.ok false)) vetted (key "k1" [0x02]) ≠ .ok true := by
      intro vetted confirmed
      cases confirmed
    exact (verify_information_flow _ _ _ _).2.2.1
      (specimenCall (.constant (.ok false)) (fun _ _ => .ok (some (key "k1" [0x02]))) (specimen .hs256).intrinsic) _ _ reaches
      (refused _) _ rfl rfl

end Authenticator

end Credential
