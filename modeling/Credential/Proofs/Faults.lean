import Credential.Proofs.Issuance

/-! What gets past an outcome. The standard verifier turns every key it cannot use into a rejection, but
one: it asks a PSS signature of a modulus that leaves no room for the digest, and that fault stays a fault.
So does that of a token given as a text without octets, which comes before anything is asked. -/

namespace Credential

/-- A key that may be used and can be loaded, but whose modulus is too small for the digest. -/
structure Key.Overflows (key : Key) (algorithm : Algorithm) : Prop where
  pss : algorithm.isPss = true
  admitted : key.admission algorithm = .ok ()
  small : ∃ rsa, Key.load? key.material = some (.rsa rsa) ∧ rsa.size < algorithm.hash.size + 2

namespace Algorithm

theorem check_error_iff {algorithm : Algorithm} {signed signature : Bytes} {loaded : Key.Loaded} {fault : Fault} :
    algorithm.check signed signature loaded = .error fault ↔ fault = .modulusTooSmall ∧ algorithm.isPss = true ∧
      ∃ rsa, loaded = .rsa rsa ∧ rsa.size < algorithm.hash.size + 2 := by
  cases loaded with
  | rsa key =>
    have room : key.holdsPss algorithm.hash = true ↔ algorithm.hash.size + 2 ≤ key.size := decide_eq_true_iff
    simp only [check]
    split
    next pss =>
      split
      next holds =>
        have large := room.1 holds
        constructor
        · intro impossible
          cases impossible
        · intro overflow
          obtain ⟨_, _, _, ⟨rfl⟩, small⟩ := overflow
          exact absurd large (Nat.not_le.2 small)
      next tight =>
        have small := Nat.not_le.1 fun large => tight (room.2 large)
        constructor
        · intro fails
          cases fails
          exact ⟨rfl, pss, key, rfl, small⟩
        · intro overflow
          obtain ⟨rfl, _⟩ := overflow
          rfl
    next other =>
      constructor
      · intro impossible
        cases impossible
      · intro overflow
        obtain ⟨_, pss, _⟩ := overflow
        exact absurd pss other
  | ecdsa key => simp [check]
  | ed25519 point => simp [check]
  | ed448 point => simp [check]
  | secret secret => simp [check]

end Algorithm

namespace Verifier

section Answers

variable {algorithm : Algorithm} {key : Key} {signed signature : Bytes}

theorem result_of_mismatch {cause : Rejection.KeyMismatch} (mismatched : key.admission algorithm = .error cause) :
    (standard algorithm key signed signature).result = .error (.rejected (.keyMismatch cause)) := by
  rw [standard, mismatched]
  rfl

theorem result_of_unusable (admitted : key.admission algorithm = .ok ()) (unusable : Key.load? key.material = none) :
    (standard algorithm key signed signature).result = .error (.rejected (.unusableKey key.kid)) := by
  rw [standard, admitted, unusable]
  rfl

theorem result_of_loaded {loaded : Key.Loaded} (admitted : key.admission algorithm = .ok ())
    (loads : Key.load? key.material = some loaded) :
    (standard algorithm key signed signature).result = algorithm.check signed signature loaded := by
  simp only [standard, admitted, loads, Run.result_bind, Run.result_ofExcept]
  cases algorithm.check signed signature loaded with
  | error fault => rfl
  | ok holds => cases holds <;> rfl

/-- The three ways in which a question can fail to get an answer. -/
theorem standard_error_iff {fault : Fault} :
    (standard algorithm key signed signature).result = .error fault ↔
      (∃ cause, key.admission algorithm = .error cause ∧ fault = .rejected (.keyMismatch cause)) ∨
      (key.admission algorithm = .ok () ∧ Key.load? key.material = none ∧ fault = .rejected (.unusableKey key.kid)) ∨
      (key.Overflows algorithm ∧ fault = .modulusTooSmall) := by
  cases admitted : key.admission algorithm with
  | error cause =>
    rw [result_of_mismatch admitted]
    constructor
    · intro fails
      cases fails
      exact .inl ⟨cause, rfl, rfl⟩
    · intro reason
      rcases reason with ⟨_, ⟨rfl⟩, rfl⟩ | ⟨impossible, _⟩ | ⟨overflows, _⟩
      · rfl
      · cases impossible
      · cases admitted.symm.trans overflows.admitted
  | ok _ =>
    cases loads : Key.load? key.material with
    | none =>
      rw [result_of_unusable admitted loads]
      constructor
      · intro fails
        cases fails
        exact .inr (.inl ⟨rfl, rfl, rfl⟩)
      · intro reason
        rcases reason with ⟨_, impossible, _⟩ | ⟨_, _, rfl⟩ | ⟨overflows, _⟩
        · cases impossible
        · rfl
        · obtain ⟨_, impossible, _⟩ := overflows.small
          cases loads.symm.trans impossible
    | some loaded =>
      rw [result_of_loaded admitted loads, Algorithm.check_error_iff]
      constructor
      · intro overflow
        obtain ⟨rfl, pss, rsa, rfl, small⟩ := overflow
        exact .inr (.inr ⟨⟨pss, admitted, rsa, loads, small⟩, rfl⟩)
      · intro reason
        rcases reason with ⟨_, impossible, _⟩ | ⟨_, impossible, _⟩ | ⟨overflows, rfl⟩
        · cases impossible
        · cases impossible
        · obtain ⟨rsa, found, small⟩ := overflows.small
          cases loads.symm.trans found
          exact ⟨rfl, overflows.pss, rsa, rfl, small⟩

end Answers

end Verifier

namespace Authenticator

open Rejection

/-- After the signature a verification can only be rejected. -/
theorem remaining_fault_iff {verifier : Verifier} {settings : Settings} {vetted : Vetted} {key : Key}
    {intrinsic : Intrinsic} {fault : Fault} (unrejected : ∀ cause, fault ≠ .rejected cause) :
    remaining verifier settings vetted key intrinsic = .error fault ↔ verdict verifier vetted key = .error fault := by
  have later : ∀ {value : Type} {result : Except Rejection value},
      result.mapError Fault.rejected ≠ .error fault := by
    intro value result fails
    obtain ⟨cause, _, same⟩ := Result.mapError_error_iff.1 fails
    exact unrejected cause same
  unfold remaining
  rw [result_checkSignature]
  constructor
  · intro fails
    rcases Result.bind_error_iff.1 fails with refused | ⟨_, _, fails⟩
    · split at refused
      · cases refused
      · exact absurd (Except.error.inj refused).symm (unrejected _)
      next other failed =>
        cases refused
        exact failed
    · rcases Result.bind_error_iff.1 fails with impossible | ⟨_, _, impossible⟩
      · exact absurd impossible later
      · exact absurd impossible later
  · intro failed
    rw [failed]
    rfl

section Published

variable {authenticator : Authenticator} {registry : Registry} {request : Request} {time : Int} {intrinsic : Intrinsic}

theorem settle_fault_iff {settings : Settings} {fault : Fault} :
    (settle (stages .standard settings request registry.resolver time intrinsic)).result = .error fault ↔
      (fault = .modulusTooSmall ∧ ∃ vetted key,
        Reaches settings registry.resolver request.token request.issuer time vetted key ∧
          key.Overflows vetted.algorithm) ∨
      ∃ text, request.token = .text text ∧ ¬text.Paired ∧ fault = .unencodable text.unencodable := by
  rw [settle_error_iff]
  constructor
  · intro fails
    obtain ⟨failed, unrejected⟩ := fails
    rcases stages_split settings request registry.resolver time with ⟨vetted, key, reaches⟩ | ⟨early, stops, stopped⟩
    · rw [reaches.result_stages, remaining_fault_iff unrejected] at failed
      rcases Verifier.standard_error_iff.1 failed with ⟨cause, _, rfl⟩ | ⟨_, _, rfl⟩ | ⟨overflows, rfl⟩
      · exact absurd rfl (unrejected _)
      · exact absurd rfl (unrejected _)
      · exact .inl ⟨rfl, vetted, key, reaches, overflows⟩
    · rw [stopped] at failed
      cases failed
      cases stops with
      | rejected cause => exact absurd rfl (unrejected cause)
      | unencodable given unpaired => exact .inr ⟨_, given, unpaired, rfl⟩
      | unresolved vets started unexpired impossible => cases impossible
  · rintro (⟨rfl, vetted, key, reaches, overflows⟩ | ⟨text, given, unpaired, rfl⟩)
    · have unrejected : ∀ cause, Fault.modulusTooSmall ≠ .rejected cause := by
        intro cause impossible
        cases impossible
      refine ⟨?_, unrejected⟩
      rw [reaches.result_stages, remaining_fault_iff unrejected]
      exact Verifier.standard_error_iff.2 (.inr (.inr ⟨overflows, rfl⟩))
    · refine ⟨?_, ?_⟩
      · rw [result_stages, vet_unencodable given unpaired]
        rfl
      · intro cause impossible
        cases impossible

theorem Reaches.settle_refused {settings : Settings} {resolver : Resolver} {vetted : Vetted} {key : Key}
    (reaches : Reaches settings resolver request.token request.issuer time vetted key) {verifier : Verifier}
    {cause : Rejection} (refused : verdict verifier vetted key = .error (.rejected cause)) :
    (settle (stages verifier settings request resolver time intrinsic)).result =
      .ok (.failed (Failure.ofRejection cause)) := by
  apply settle_rejected
  rw [reaches.result_stages, remaining, result_checkSignature, refused]
  rfl

/-- A verification against published keys ends in an outcome, except where a PSS signature is asked of a
key that overflows, and where the token is a text without octets. Every other key that cannot be used for the
algorithm gives a failure that says so. -/
theorem verify_fault_iff (standard : authenticator.verifier = .standard)
    (found : (request.resolver <|> authenticator.resolver) = some registry.resolver)
    (timed : request.time = some time) (supplied : request.intrinsic = some intrinsic) :
    (∀ fault, (verify authenticator request).result = .error fault ↔
      (fault = .modulusTooSmall ∧ ∃ vetted key,
        Reaches authenticator.settings registry.resolver request.token request.issuer time vetted key ∧
          key.Overflows vetted.algorithm) ∨
      ∃ text, request.token = .text text ∧ ¬text.Paired ∧ fault = .unencodable text.unencodable) ∧
    (∀ vetted key, Reaches authenticator.settings registry.resolver request.token request.issuer time vetted key →
      (∀ cause, key.admission vetted.algorithm = .error cause → ∃ failure,
        (verify authenticator request).result = .ok (.failed failure) ∧ failure.code = "algorithm_key_mismatch") ∧
      (key.admission vetted.algorithm = .ok () → Key.load? key.material = none → ∃ failure,
        (verify authenticator request).result = .ok (.failed failure) ∧ failure.code = "invalid_signature")) := by
  have staged : verify authenticator request =
      settle (stages .standard authenticator.settings request registry.resolver time intrinsic) := by
    rw [verify, execute_given found timed supplied, standard]
  rw [staged]
  refine ⟨fun fault => settle_fault_iff, ?_⟩
  intro vetted key reaches
  constructor
  · intro cause mismatched
    have refused : verdict .standard vetted key = .error (.rejected (.keyMismatch cause)) :=
      Verifier.standard_error_iff.2 (.inl ⟨cause, mismatched, rfl⟩)
    exact ⟨_, reaches.settle_refused refused, rfl⟩
  · intro admitted unusable
    have refused : verdict .standard vetted key = .error (.rejected (.unusableKey key.kid)) :=
      Verifier.standard_error_iff.2 (.inr (.inl ⟨admitted, unusable, rfl⟩))
    exact ⟨_, reaches.settle_refused refused, rfl⟩

end Published

open Statement

/-- A document with a modulus of eight octets. -/
def cramped : Json Text :=
  .object [("keys", .array [.object [("kty", .string "RSA"), ("kid", .string "k1"), ("n", .string "gAAAAAAS1oc"),
    ("e", .string "AQAB")]])]

def crampedKey : Key := ⟨"k1", none, .rsa "gAAAAAAS1oc" "AQAB"⟩

def crampedRegistry : Registry := ⟨[(Bytes.ofString "org-42", ⟨[crampedKey], true⟩)]⟩

theorem load?_crampedKey : Key.load? crampedKey.material = some (.rsa ⟨0x800000000012D687, 65537⟩) := by
  have modulus : Key.octets? "gAAAAAAS1oc" = some [0x80, 0, 0, 0, 0, 0x12, 0xD6, 0x87] := by decide +kernel
  have exponent : Key.octets? "AQAB" = some [1, 0, 1] := by decide +kernel
  have large : Bytes.toNat [0x80, 0, 0, 0, 0, 0x12, 0xD6, 0x87] = 0x800000000012D687 := by decide
  have small : Bytes.toNat [1, 0, 1] = 65537 := by decide
  have made : Signature.RsaKey.make? 0x800000000012D687 65537 = some ⟨0x800000000012D687, 65537⟩ :=
    if_pos (by decide)
  simp only [crampedKey, Key.load?, modulus, exponent, Option.bind_eq_bind, Option.bind_some, large, small, made,
    Option.map_some]

theorem crampedKey_overflows : crampedKey.Overflows .ps256 where
  pss := rfl
  admitted := rfl
  small := ⟨_, load?_crampedKey, by decide⟩

def crampedCall (algorithm : Algorithm) : Request where
  token := .text ((specimen algorithm).withSignature .escaped [0x01])
  issuer := .bytes (Bytes.ofString "org-42")
  intrinsic := some (specimen algorithm).intrinsic
  time := some 1500
  resolver := some crampedRegistry.resolver

theorem crampedCall_reaches (algorithm : Algorithm) : ∃ vetted, vetted.algorithm = algorithm ∧
    Reaches .widest crampedRegistry.resolver (crampedCall algorithm).token (crampedCall algorithm).issuer 1500 vetted
      crampedKey := by
  have vets := (specimen_sound algorithm).vets (List.cons_ne_nil 0x01 [])
    (.text ((specimen algorithm).withSignature .escaped [0x01])) (specimen_short algorithm (by decide))
    specimen_issuer rfl
  have started : ((specimen algorithm).claims.iat : Int) ≤ 1500 := (by decide : (1000 : Int) ≤ 1500)
  have unexpired : (1500 : Int) < (specimen algorithm).claims.exp := (by decide : (1500 : Int) < 2000)
  have resolved : crampedRegistry.resolve (Bytes.ofString "org-42") (Text.ofString "k1") = some crampedKey := by decide
  exact ⟨_, rfl, vets, started, unexpired, congrArg Except.ok resolved⟩

/-- The key is published and may be used, and no outcome tells that its signature cannot be checked. -/
theorem verify_cramped : (KeySet.ofDocument true cramped).result = .ok ⟨[crampedKey], true⟩ ∧
    (verify ⟨.standard, none, .widest⟩ (crampedCall .ps256)).result = .error .modulusTooSmall := by
  refine ⟨rfl, ?_⟩
  obtain ⟨vetted, same, reaches⟩ := crampedCall_reaches .ps256
  exact settle_fault_iff.2 (.inl ⟨rfl, vetted, crampedKey, reaches, same ▸ crampedKey_overflows⟩)

theorem verify_cramped_mismatched : ∃ failure,
    (verify ⟨.standard, none, .widest⟩ (crampedCall .hs256)).result = .ok (.failed failure) ∧
      failure.code = "algorithm_key_mismatch" := by
  obtain ⟨vetted, same, reaches⟩ := crampedCall_reaches .hs256
  have mismatched : crampedKey.admission vetted.algorithm = .error (.family .hs256 "k1" .rsa) := by
    rw [same]
    rfl
  exact ((verify_fault_iff rfl rfl rfl rfl).2 vetted crampedKey reaches).1 _ mismatched

end Authenticator

end Credential
