import Credential.Proofs.Admission
import Credential.Proofs.Propagation

/-! What the lines of a verification disclose. Whoever reads them learns of an accepted token its issuer and its kid,
of any other the code of its failure, and of one whose signature does not hold also the algorithm and the kid, both
of which its header says. Messages hold claims, and no line holds a message. -/

namespace Credential

namespace Event

def acceptedLine (issuer : Issuer) (kid : String) : Text :=
  "Token verified for issuer=" ++ issuer.text ++ " kid=" ++ kid

def refusedLine (algorithm kid : String) : Text := (algorithm ++ " signature does not match key ") ++ quoted kid

def rejectedLine (code : String) : Text := ("Token rejected: " ++ code : String)

private theorem ofString_append (first second : String) :
    Text.ofString (first ++ second) = Text.ofString first ++ Text.ofString second := by
  rw [Text.ofString, String.toList_append, Text.ofChars_append]
  rfl

/-- The lines differ in how they start. -/
theorem acceptedLine_ne_rejectedLine (issuer : Issuer) (kid code : String) :
    acceptedLine issuer kid ≠ rejectedLine code := by
  intro same
  have seventh := congrArg (·[6]?) same
  rw [rejectedLine, ofString_append] at seventh
  exact absurd (CodePoint.char.inj (Option.some.inj seventh)) (by decide)

theorem acceptedLine_ne_refusedLine (issuer : Issuer) (kid other : String) (algorithm : Algorithm) :
    acceptedLine issuer kid ≠ refusedLine algorithm.name other := by
  intro same
  have first := congrArg List.head? same
  cases algorithm <;> exact absurd (CodePoint.char.inj (Option.some.inj first)) (by decide)

end Event

open Event

namespace Run

variable {fault value next : Type}

theorem lines_bind (run : Run Event fault value) (following : value → Run Event fault next) :
    (run >>= following).lines = run.lines ++ match run.result with
      | .ok found => (following found).lines
      | .error _ => [] := by
  cases found : run.result with
  | ok value =>
    rw [bind_ok following found, lines, List.filterMap_append]
    rfl
  | error cause =>
    rw [bind_error following found, List.append_nil]
    rfl

end Run

theorem Verifier.lines_standard (algorithm : Algorithm) (key : Key) (signed signature : Bytes) :
    (standard algorithm key signed signature).lines = match (standard algorithm key signed signature).result with
      | .ok false => [(algorithm.name ++ " signature does not match key ") ++ key.kid.quoted]
      | _ => [] := by
  unfold standard
  split
  next mismatched => rfl
  next admitted =>
    split
    next unusable => rfl
    next loaded loads =>
      cases algorithm.check signed signature loaded with
      | error fault => rfl
      | ok holds => cases holds <;> rfl

theorem Registry.kid_of_resolve {registry : Registry} {name : Bytes} {kid : Text} {key : Key}
    (resolved : registry.resolve name kid = some key) : key.kid = kid := by
  obtain ⟨keySet, -, found⟩ := Option.bind_eq_some_iff.1 resolved
  unfold KeySet.get? at found
  split at found
  · have same := List.find?_some found
    exact of_decide_eq_true same
  · cases found

namespace Authenticator

section Lines

variable (verifier : Verifier) (settings : Settings) (vetted : Vetted) (key : Key) (intrinsic : Intrinsic)

theorem lines_checkSignature : (checkSignature verifier vetted key).lines =
    (verifier vetted.algorithm key (Bytes.ofString vetted.token.signingInput) vetted.token.signature).lines := by
  unfold checkSignature
  rw [Run.lines_bind, Run.lines_bind]
  generalize verifier vetted.algorithm key (Bytes.ofString vetted.token.signingInput) vetted.token.signature = answer
  have silent : (Run.note (.consulted vetted.algorithm key (Bytes.ofString vetted.token.signingInput)
      vetted.token.signature) : Run Event Fault Unit).lines = [] := rfl
  rw [silent, List.nil_append]
  cases answer.result with
  | error fault => exact List.append_nil _
  | ok holds => cases holds <;> exact List.append_nil _

theorem lines_authenticate : (authenticate verifier settings vetted key intrinsic).lines =
    (checkSignature verifier vetted key).lines ++ match remaining verifier settings vetted key intrinsic with
      | .ok verified => [acceptedLine verified.issuer verified.kid]
      | .error _ => [] := by
  unfold authenticate remaining
  rw [Run.lines_bind]
  cases (checkSignature verifier vetted key).result with
  | error fault => rfl
  | ok _ =>
    cases bound : bind vetted.claims.challenge intrinsic with
    | error cause => simp only [step_error, Result.mapError_error]; rfl
    | ok _ =>
      simp only [step_ok, Result.mapError_ok]
      cases derived : facts settings vetted intrinsic with
      | error cause => simp only [step_error, Result.mapError_error]; rfl
      | ok verified => simp only [step_ok, Result.mapError_ok]; rfl

theorem result_authenticate : (authenticate verifier settings vetted key intrinsic).result =
    remaining verifier settings vetted key intrinsic := by
  simp only [authenticate, remaining, step, Run.result_bind, Run.result_ofExcept, Run.result_note, Run.result_pure,
    Result.bind_noted]

end Lines

theorem lines_settle (run : Run Event Fault Verified) : (settle run).lines = run.lines ++ match run.result with
    | .error (.rejected cause) => [rejectedLine cause.code]
    | _ => [] := by
  unfold settle
  split
  next verified accepted =>
    rw [accepted, List.append_nil]
    rfl
  next cause rejected =>
    rw [rejected, Run.lines, List.filterMap_append]
    rfl
  next fault unrejected failed =>
    rw [failed]
    cases fault with
    | rejected cause => exact absurd rfl (unrejected cause)
    | _ => exact (List.append_nil _).symm

namespace Call

section Standard

variable {settings : Settings} {token issuer : Argument} {time : Int}

def Refuted (call : Call settings token issuer time) : Prop :=
  ∃ vetted key, Reaches settings call.resolver token issuer time vetted key ∧
    verdict call.verifier vetted key = .ok false

structure Standard (call : Call settings token issuer time) (registry : Registry) : Prop where
  verifier : call.verifier = .standard
  resolver : call.resolver = registry.resolver

variable {call : Call settings token issuer time} {registry : Registry} {vetted : Vetted} {key : Key}

theorem lines_of_reaches (standard : call.Standard registry)
    (reaches : Reaches settings call.resolver token issuer time vetted key) :
    call.run.lines = (match verdict call.verifier vetted key with
      | .ok false => [refusedLine vetted.token.header.alg vetted.token.header.kid]
      | _ => []) ++ match remaining call.verifier settings vetted key call.intrinsic with
        | .ok verified => [acceptedLine verified.issuer verified.kid]
        | .error (.rejected cause) => [rejectedLine cause.code]
        | .error _ => [] := by
  have admitted := screen_ok_iff.2 ⟨reaches.vets, reaches.started, reaches.unexpired⟩
  have resolved := keyOf_ok_iff.2 reaches.resolved
  have named : key.kid = Text.ofString vetted.token.header.kid := by
    have found := reaches.resolved
    rw [standard.resolver] at found
    exact Registry.kid_of_resolve (Except.ok.inj found)
  have checked : (checkSignature call.verifier vetted key).lines = match verdict call.verifier vetted key with
      | .ok false => [refusedLine vetted.token.header.alg vetted.token.header.kid]
      | _ => [] := by
    rw [lines_checkSignature, verdict, standard.verifier, Verifier.lines_standard, named, reaches.vets.named]
    rfl
  rw [run_of_keyOf_ok admitted resolved, lines_settle, lines_authenticate, result_authenticate, checked,
    List.append_assoc]
  congr 1
  rcases remaining call.verifier settings vetted key call.intrinsic with fault | verified
  · cases fault <;> rfl
  · rfl

theorem lines_of_unreached {outcome : Outcome}
    (unreached : ¬∃ vetted key, Reaches settings call.resolver token issuer time vetted key)
    (ended : call.run.result = .ok outcome) :
    ∃ failure, outcome = .failed failure ∧ call.run.lines = [rejectedLine failure.code] := by
  obtain ⟨fault, -, ends⟩ := run_of_unreached unreached
  rw [ends call rfl] at ended ⊢
  cases fault with
  | rejected cause =>
    cases ended
    exact ⟨_, rfl, rfl⟩
  | _ => cases ended

theorem lines_of_verified (standard : call.Standard registry) {verified : Verified}
    (accepted : call.run.result = .ok (.verified verified)) :
    call.run.lines = [acceptedLine verified.issuer verified.kid] := by
  by_cases reached : ∃ vetted key, Reaches settings call.resolver token issuer time vetted key
  · obtain ⟨vetted, key, reaches⟩ := reached
    have ends := call.result_of_reaches reaches
    rw [accepted] at ends
    rw [lines_of_reaches standard reaches]
    cases remains : remaining call.verifier settings vetted key call.intrinsic with
    | ok facts =>
      rw [remains] at ends
      cases ends
      obtain ⟨_, checked, -⟩ := Result.bind_ok_iff.1 remains
      rw [checkSignature_ok_iff.1 checked]
      rfl
    | error fault =>
      rw [remains] at ends
      cases fault <;> cases ends
  · obtain ⟨_, impossible, -⟩ := lines_of_unreached reached accepted
    cases impossible

/-- A call comes to no more than one question. -/
theorem refuted_iff (reaches : Reaches settings call.resolver token issuer time vetted key) :
    call.Refuted ↔ verdict call.verifier vetted key = .ok false := by
  constructor
  · intro refuted
    obtain ⟨other, found, again, refused⟩ := refuted
    obtain rfl : vetted = other := reaches.vets.unique again.vets
    obtain rfl : key = found := Option.some.inj (Except.ok.inj (reaches.resolved.symm.trans again.resolved))
    exact refused
  · intro refused
    exact ⟨vetted, key, reaches, refused⟩

theorem lines_of_failed (standard : call.Standard registry) {failure : Failure}
    (failed : call.run.result = .ok (.failed failure)) :
    (call.Refuted → ∃ decoded, Token.decode settings.maxTokenLength token = .ok decoded ∧
      call.run.lines = [refusedLine decoded.header.alg decoded.header.kid, rejectedLine failure.code]) ∧
    (¬call.Refuted → call.run.lines = [rejectedLine failure.code]) := by
  by_cases reached : ∃ vetted key, Reaches settings call.resolver token issuer time vetted key
  · obtain ⟨vetted, key, reaches⟩ := reached
    have ends := call.result_of_reaches reaches
    rw [failed] at ends
    rw [refuted_iff reaches, lines_of_reaches standard reaches]
    cases remains : remaining call.verifier settings vetted key call.intrinsic with
    | ok verified =>
      rw [remains] at ends
      cases ends
    | error fault =>
      rw [remains] at ends
      cases fault with
      | rejected cause =>
        cases ends
        constructor
        · intro refused
          rw [refused]
          exact ⟨vetted.token, reaches.vets.decoded, rfl⟩
        · intro unrefused
          split
          next refused => exact absurd refused unrefused
          next => rfl
      | _ => cases ends
  · obtain ⟨_, same, told⟩ := lines_of_unreached reached failed
    cases same
    refine ⟨?_, fun _ => told⟩
    rintro ⟨vetted, key, reaches, -⟩
    exact absurd ⟨vetted, key, reaches⟩ reached

theorem not_accepted_of_failed (standard : call.Standard registry) {failure : Failure}
    (failed : call.run.result = .ok (.failed failure)) (named : Issuer) (kid : String) :
    acceptedLine named kid ∉ call.run.lines := by
  obtain ⟨refutedLines, otherLines⟩ := lines_of_failed standard failed
  by_cases refuted : call.Refuted
  · obtain ⟨decoded, decodes, lines⟩ := refutedLines refuted
    obtain ⟨vetted, key, reaches, -⟩ := refuted
    obtain rfl : vetted.token = decoded := Except.ok.inj (reaches.vets.decoded.symm.trans decodes)
    rw [lines, ← reaches.vets.named, List.mem_cons, List.mem_singleton]
    rintro (same | same)
    · exact acceptedLine_ne_refusedLine _ _ _ _ same
    · exact acceptedLine_ne_rejectedLine _ _ _ same
  · rw [otherLines refuted, List.mem_singleton]
    exact acceptedLine_ne_rejectedLine _ _ _

theorem accepted_iff (standard : call.Standard registry) {outcome : Outcome} (ended : call.run.result = .ok outcome) :
    (∃ issuer kid, acceptedLine issuer kid ∈ call.run.lines) ↔ outcome.isOk = true := by
  cases outcome with
  | verified verified =>
    rw [lines_of_verified standard ended]
    exact ⟨fun _ => rfl, fun _ => ⟨_, _, List.mem_singleton_self _⟩⟩
  | failed failure =>
    constructor
    · rintro ⟨named, kid, told⟩
      exact absurd told (not_accepted_of_failed standard ended named kid)
    · intro impossible
      cases impossible

end Standard

theorem lines_eq_of_failed {settings otherSettings : Settings} {token otherToken issuer otherIssuer : Argument}
    {time otherTime : Int} {call : Call settings token issuer time}
    {other : Call otherSettings otherToken otherIssuer otherTime} {registry otherRegistry : Registry}
    (standard : call.Standard registry) (otherStandard : other.Standard otherRegistry) {failure otherFailure : Failure}
    (failed : call.run.result = .ok (.failed failure)) (otherFailed : other.run.result = .ok (.failed otherFailure))
    (codes : otherFailure.code = failure.code)
    (headers : ∀ decoded otherDecoded, Token.decode settings.maxTokenLength token = .ok decoded →
      Token.decode otherSettings.maxTokenLength otherToken = .ok otherDecoded →
      otherDecoded.header.alg = decoded.header.alg ∧ otherDecoded.header.kid = decoded.header.kid)
    (verdicts : other.Refuted ↔ call.Refuted) : other.run.lines = call.run.lines := by
  obtain ⟨refutedLines, otherLines⟩ := lines_of_failed standard failed
  obtain ⟨refutedToo, otherToo⟩ := lines_of_failed otherStandard otherFailed
  by_cases refuted : call.Refuted
  · obtain ⟨decoded, decodes, lines⟩ := refutedLines refuted
    obtain ⟨otherDecoded, decodesToo, linesToo⟩ := refutedToo (verdicts.2 refuted)
    obtain ⟨algorithms, kids⟩ := headers decoded otherDecoded decodes decodesToo
    rw [lines, linesToo, algorithms, kids, codes]
  · rw [otherLines refuted, otherToo (fun refutedOther => refuted (verdicts.1 refutedOther)), codes]

end Call

open Call

/-- All that the lines of a call tell. An accepted token is told by its issuer and its kid, a failure by its code, and
a signature that does not hold before that by what the header says of algorithm and kid. So nothing else of a token,
of the attempt, of the keys or of the time gets into them, and an accepted token is told of no other. -/
theorem verify_lines (settings : Settings) (token issuer : Argument) (time : Int)
    (call : Call settings token issuer time) (registry : Registry) (standard : call.Standard registry) :
    (∀ verified, call.run.result = .ok (.verified verified) →
      call.run.lines = [acceptedLine verified.issuer verified.kid]) ∧
    (∀ failure, call.run.result = .ok (.failed failure) →
      (call.Refuted → ∃ decoded, Token.decode settings.maxTokenLength token = .ok decoded ∧
        call.run.lines = [refusedLine decoded.header.alg decoded.header.kid, rejectedLine failure.code]) ∧
      (¬call.Refuted → call.run.lines = [rejectedLine failure.code])) ∧
    (∀ failure, call.run.result = .ok (.failed failure) →
      ∀ (otherSettings : Settings) (otherToken otherIssuer : Argument) (otherTime : Int)
        (other : Call otherSettings otherToken otherIssuer otherTime) (otherRegistry : Registry),
        other.Standard otherRegistry →
      ∀ otherFailure, other.run.result = .ok (.failed otherFailure) → otherFailure.code = failure.code →
      (∀ decoded otherDecoded, Token.decode settings.maxTokenLength token = .ok decoded →
        Token.decode otherSettings.maxTokenLength otherToken = .ok otherDecoded →
        otherDecoded.header.alg = decoded.header.alg ∧ otherDecoded.header.kid = decoded.header.kid) →
      (other.Refuted ↔ call.Refuted) → other.run.lines = call.run.lines) ∧
    (∀ outcome, call.run.result = .ok outcome →
      ((∃ issuer kid, acceptedLine issuer kid ∈ call.run.lines) ↔ outcome.isOk = true)) := by
  refine ⟨?_, ?_, ?_, ?_⟩
  · intro verified accepted
    exact lines_of_verified standard accepted
  · intro failure failed
    exact lines_of_failed standard failed
  · intro failure failed otherSettings otherToken otherIssuer otherTime other otherRegistry otherStandard otherFailure
      otherFailed codes headers verdicts
    exact lines_eq_of_failed standard otherStandard failed otherFailed codes headers verdicts
  · intro outcome ended
    exact accepted_iff standard ended

open Statement

def holding (secret : Bytes) : Registry := ⟨[(Bytes.ofString "org-42", ⟨[key "k1" secret], true⟩)]⟩

def tagged : Call sharing.settings taggedCall.token taggedCall.issuer 1500 where
  authenticator := sharing
  request := taggedCall
  resolver := (holding [0x01]).resolver
  intrinsic := (specimen .hs256).intrinsic
  configured := rfl
  shown := rfl
  named := rfl
  timed := rfl
  found := rfl
  supplied := rfl

/-- The specimen with a signature of one octet, which no secret gives it. -/
abbrev untagged (secret : Bytes) :
    Call .widest (.text ((specimen .hs256).withSignature .escaped [0x01])) (.bytes (Bytes.ofString "org-42")) 1500 :=
  specimenCall .standard (holding secret).resolver (specimen .hs256).intrinsic

theorem untagged_standard (secret : Bytes) : (untagged secret).Standard (holding secret) := ⟨rfl, rfl⟩

theorem untagged_reaches (secret : Bytes) : Reaches .widest (holding secret).resolver
    (.text ((specimen .hs256).withSignature .escaped [0x01])) (.bytes (Bytes.ofString "org-42")) 1500
    ⟨(specimen .hs256).decoded .escaped [0x01], (specimen .hs256).claims, .hs256, ⟨Bytes.ofString "org-42", by decide⟩⟩
    (key "k1" secret) where
  vets := (specimen_sound .hs256).vets (List.cons_ne_nil 0x01 [])
    (.text ((specimen .hs256).withSignature .escaped [0x01])) (specimen_short .hs256 (by decide)) specimen_issuer rfl
  started := (by decide : (1000 : Int) ≤ 1500)
  unexpired := (by decide : (1500 : Int) < 2000)
  resolved := rfl

theorem untagged_refuted {secret : Bytes} (given : secret ≠ []) : (untagged secret).Refuted := by
  have suits : (key "k1" secret).Suits .hs256 := Key.admission_ok_iff.1 (admission_key rfl "k1" secret)
  refine ⟨_, _, untagged_reaches secret, ?_⟩
  refine Verifier.standard_ok_iff.2 ⟨suits, _, load?_key "k1" given, ?_⟩
  refine congrArg Except.ok (decide_eq_false ?_)
  intro same
  have long := congrArg List.length same
  rw [Hash.length_hmac] at long
  exact absurd long (by decide)

theorem untagged_failed {secret : Bytes} (given : secret ≠ []) :
    (untagged secret).run.result = .ok (.failed (Failure.ofRejection .badSignature)) := by
  have refused := (refuted_iff (untagged_reaches secret)).1 (untagged_refuted given)
  rw [(untagged secret).result_of_reaches (untagged_reaches secret), remaining, result_checkSignature, refused]
  rfl

/-- The specimen as its issuer signs it, and as two issuers do not. -/
theorem verify_lines_specimen :
    (∃ verified : Verified, tagged.run.lines = [acceptedLine verified.issuer verified.kid]) ∧
    (untagged [0x02]).run.lines = [refusedLine "HS256" "k1", rejectedLine "invalid_signature"] ∧
    (untagged [0x03]).run.lines = (untagged [0x02]).run.lines := by
  have second : ([0x02] : Bytes) ≠ [] := List.cons_ne_nil _ _
  have third : ([0x03] : Bytes) ≠ [] := List.cons_ne_nil _ _
  refine ⟨?_, ?_, ?_⟩
  · obtain ⟨verified, accepted⟩ := sharing_accepts
    have ended : tagged.run.result = .ok (.verified verified) := by
      rw [Call.run, verify]
      exact settle_verified_iff.2 accepted
    exact ⟨verified, (verify_lines _ _ _ _ tagged (holding [0x01]) ⟨rfl, rfl⟩).1 verified ended⟩
  · obtain ⟨refutedLines, -⟩ :=
      (verify_lines _ _ _ _ (untagged [0x02]) _ (untagged_standard _)).2.1 _ (untagged_failed second)
    obtain ⟨decoded, decodes, lines⟩ := refutedLines (untagged_refuted second)
    cases (untagged_reaches [0x02]).vets.decoded.symm.trans decodes
    exact lines
  · refine (verify_lines _ _ _ _ (untagged [0x02]) _ (untagged_standard _)).2.2.1 _ (untagged_failed second) _ _ _ _
      (untagged [0x03]) _ (untagged_standard _) _ (untagged_failed third) rfl ?_ ?_
    · intro decoded otherDecoded decodes decodesToo
      cases decodes.symm.trans decodesToo
      exact ⟨rfl, rfl⟩
    · exact ⟨fun _ => untagged_refuted second, fun _ => untagged_refuted third⟩

end Authenticator

end Credential
