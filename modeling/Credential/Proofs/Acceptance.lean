import Credential.Proofs.CompactForm
import Credential.Proofs.Stages

/-! Acceptance is the conjunction of all stages: nothing leads to a verified token around any of them,
and together they ask for no more than each of them does. -/

namespace Credential

namespace Token

/-- What is signed and the signature, as they stand in the octets: before and after the last point. -/
def SignedAs (given : Argument) (signed signature : Bytes) : Prop :=
  ∃ third : Bytes, Stands given (signed ++ 0x2E :: third) ∧ 0x2E ∉ third ∧
    Base64Url.decode (third.map fun byte => Char.ofNat byte.toNat) = .ok signature

private theorem last_unique {first second third fourth : Bytes} (clear : 0x2E ∉ second) (clearToo : 0x2E ∉ fourth)
    (same : first ++ 0x2E :: second = third ++ 0x2E :: fourth) : first = third ∧ second = fourth := by
  rcases List.append_eq_append_iff.1 same with ⟨more, rfl, rest⟩ | ⟨more, rfl, rest⟩
  · cases more with
    | nil =>
      simp only [List.nil_append, List.cons.injEq, true_and] at rest
      exact ⟨(List.append_nil first).symm, rest⟩
    | cons byte later =>
      simp only [List.cons_append, List.cons.injEq] at rest
      exact absurd (rest.2 ▸ List.mem_append_right later List.mem_cons_self) clear
  · cases more with
    | nil =>
      simp only [List.nil_append, List.cons.injEq, true_and] at rest
      exact ⟨List.append_nil third, rest.symm⟩
    | cons byte later =>
      simp only [List.cons_append, List.cons.injEq] at rest
      exact absurd (rest.2 ▸ List.mem_append_right later List.mem_cons_self) clearToo

private theorem written_clear (signature : Bytes) :
    0x2E ∉ Bytes.ofString (String.ofList (Base64Url.encode signature)) := by
  have plain := fun c member => (Base64Url.encode_plain signature c member).1
  intro point
  have member := List.mem_map_of_mem (f := fun byte : UInt8 => Char.ofNat byte.toNat) point
  rw [Bytes.chars_ofString plain] at member
  exact (Base64Url.encode_plain signature '.' member).2 rfl

/-- A token that decodes has one last point: what is signed stands before it, and the signature after it. -/
theorem stands_iff {limit : Int} {given : Argument} {token : Token} (decoded : decode limit given = .ok token)
    {signed third : Bytes} :
    Stands given (signed ++ 0x2E :: third) ∧ 0x2E ∉ third ↔ signed = Bytes.ofString token.signingInput ∧
      third = Bytes.ofString (String.ofList (Base64Url.encode token.signature)) := by
  obtain ⟨bytes, header, payload, stands, -, -, -⟩ := decode_ok_iff.1 decoded
  have whole : bytes = Bytes.ofString token.signingInput ++
      0x2E :: Bytes.ofString (String.ofList (Base64Url.encode token.signature)) := by
    rw [decode_rest decoded stands, Bytes.ofString_append, Bytes.ofString_append, List.append_assoc]
    rfl
  constructor
  · intro parts
    obtain ⟨standsToo, clear⟩ := parts
    have same := octets_ok_iff.2 stands
    rw [octets_ok_iff.2 standsToo, whole] at same
    exact last_unique clear (written_clear token.signature) (Except.ok.inj same)
  · intro same
    obtain ⟨rfl, rfl⟩ := same
    exact ⟨whole ▸ stands, written_clear token.signature⟩

theorem signedAs_iff {limit : Int} {given : Argument} {token : Token} (decoded : decode limit given = .ok token)
    {signed signature : Bytes} :
    SignedAs given signed signature ↔ signed = Bytes.ofString token.signingInput ∧ signature = token.signature := by
  obtain ⟨_, _, _, -, -, spells, -⟩ := decode_ok_iff.1 decoded
  have plain := fun c member => (Base64Url.encode_plain token.signature c member).1
  have written := Base64Url.decode_encode spells.signatureGiven
  constructor
  · intro signedAs
    obtain ⟨third, stands, clear, read⟩ := signedAs
    obtain ⟨rfl, rfl⟩ := (stands_iff decoded).1 ⟨stands, clear⟩
    rw [Bytes.chars_ofString plain, written] at read
    exact ⟨rfl, (Except.ok.inj read).symm⟩
  · intro same
    obtain ⟨rfl, rfl⟩ := same
    obtain ⟨stands, clear⟩ := (stands_iff decoded).2 ⟨rfl, rfl⟩
    refine ⟨_, stands, clear, ?_⟩
    rw [Bytes.chars_ofString plain, written]

end Token

namespace Authenticator

theorem remaining_ok_iff {verifier : Verifier} {settings : Settings} {vetted : Vetted} {key : Key}
    {intrinsic : Intrinsic} {verified : Verified} :
    remaining verifier settings vetted key intrinsic = .ok verified ↔
      verdict verifier vetted key = .ok true ∧ vetted.claims.challenge = intrinsic.derive ∧
      ∃ authority binding, Audience.authority vetted.claims.aud = .ok authority ∧
        Binding.ofJti (settings.network.map Int.ofNat) vetted.claims.jti = .ok binding ∧
        verified = proven vetted authority binding intrinsic.purpose := by
  constructor
  · intro accepted
    obtain ⟨_, authentic, accepted⟩ := Result.bind_ok_iff.1 accepted
    obtain ⟨_, bound, accepted⟩ := Result.bind_ok_iff.1 accepted
    exact ⟨checkSignature_ok_iff.1 authentic, (bind_ok_iff.1 (Result.mapError_ok_iff.1 bound)).1,
      facts_ok_iff.1 (Result.mapError_ok_iff.1 accepted)⟩
  · intro reasons
    obtain ⟨authentic, bound, derived⟩ := reasons
    refine Result.bind_ok_iff.2 ⟨(), checkSignature_ok_iff.2 authentic, ?_⟩
    refine Result.bind_ok_iff.2 ⟨_, Result.mapError_ok_iff.2 (bind_ok_iff.2 ⟨bound, rfl⟩), ?_⟩
    exact Result.mapError_ok_iff.2 (facts_ok_iff.2 derived)

theorem stages_ok_iff {verifier : Verifier} {settings : Settings} {request : Request} {resolver : Resolver}
    {time : Int} {intrinsic : Intrinsic} {verified : Verified} :
    (stages verifier settings request resolver time intrinsic).result = .ok verified ↔
      ∃ vetted key, Reaches settings resolver request.token request.issuer time vetted key ∧
        remaining verifier settings vetted key intrinsic = .ok verified := by
  constructor
  · intro accepted
    rcases stages_split settings request resolver time with ⟨vetted, key, reaches⟩ | ⟨fault, -, stopped⟩
    · exact ⟨vetted, key, reaches, (reaches.result_stages verifier intrinsic).symm.trans accepted⟩
    · rw [stopped] at accepted
      cases accepted
  · intro reached
    obtain ⟨vetted, key, reaches, accepted⟩ := reached
    exact (reaches.result_stages verifier intrinsic).trans accepted

theorem execute_ok_iff {authenticator : Authenticator} {request : Request} {verified : Verified} :
    (execute authenticator request).result = .ok verified ↔ ∃ resolver time intrinsic,
      (request.resolver <|> authenticator.resolver) = some resolver ∧ request.time = some time ∧
      request.intrinsic = some intrinsic ∧
      (stages authenticator.verifier authenticator.settings request resolver time intrinsic).result = .ok verified := by
  unfold execute
  split
  next missing => simp [missing]
  next resolver found missing => simp [missing]
  next resolver time found timed missing => simp [missing]
  next resolver time intrinsic found timed supplied => simp [found, timed, supplied]

/-- Every reason there can be to accept a token as proof of the given facts. -/
structure Justifies (verifier : Verifier) (settings : Settings) (resolver : Resolver) (given issuer : Argument)
    (intrinsic : Intrinsic) (time : Int) (token : Token) (claims : Claims) (key : Key) (verified : Verified) :
    Prop where
  decoded : Token.decode settings.maxTokenLength given = .ok token
  claimed : Claims.ofPayload token.payload = .ok claims
  algorithm : verified.algorithm.name = token.header.alg
  allowed : verified.algorithm ∈ settings.allowed
  parsed : Issuer.parse settings.maxIssuerLength issuer = .ok verified.issuer
  issued : verified.issuer.bytes = Bytes.ofString claims.iss
  algAgrees : claims.alg = none ∨ claims.alg = some token.header.alg
  kidAgrees : claims.kid = none ∨ claims.kid = some token.header.kid
  started : (claims.iat : Int) ≤ time
  unexpired : time < claims.exp
  resolved : resolver (Bytes.ofString claims.iss) (Text.ofString token.header.kid) = .ok (some key)
  signed : ∃ signed signature, Token.SignedAs given signed signature ∧
    (verifier verified.algorithm key signed signature).result = .ok true
  challenge : claims.challenge.challenge = intrinsic.derive.challenge
  context : claims.challenge.context = intrinsic.derive.context
  authority : Audience.authority claims.aud = .ok verified.authority
  binding : Binding.ofJti (settings.network.map Int.ofNat) claims.jti = .ok verified.binding
  kid : verified.kid = token.header.kid
  device : verified.device = DeviceId.ofSubject claims.sub
  issuedAt : verified.issuedAt = claims.iat
  expiresAt : verified.expiresAt = claims.exp
  purpose : verified.purpose = intrinsic.purpose

private theorem justifies_iff {verifier : Verifier} {settings : Settings} {resolver : Resolver} {request : Request}
    {intrinsic : Intrinsic} {time : Int} {verified : Verified} :
    (stages verifier settings request resolver time intrinsic).result = .ok verified ↔ ∃ token claims key,
      Justifies verifier settings resolver request.token request.issuer intrinsic time token claims key verified := by
  rw [stages_ok_iff]
  constructor
  · intro reached
    obtain ⟨⟨token, claims, algorithm, issuer⟩, key, ⟨vets, started, unexpired, resolved⟩, accepted⟩ := reached
    obtain ⟨authentic, bound, authority, binding, meant, tied, rfl⟩ := remaining_ok_iff.1 accepted
    have named : issuer.bytes = Bytes.ofString claims.iss := vets.issued
    exact ⟨token, claims, key, {
      decoded := vets.decoded
      claimed := vets.claimed
      algorithm := vets.named
      allowed := vets.allowed
      parsed := vets.parsed
      issued := vets.issued
      algAgrees := vets.algAgrees
      kidAgrees := vets.kidAgrees
      started := started
      unexpired := unexpired
      resolved := named ▸ resolved
      signed := ⟨_, _, (Token.signedAs_iff vets.decoded).2 ⟨rfl, rfl⟩, authentic⟩
      challenge := congrArg ChallengePair.challenge bound
      context := congrArg ChallengePair.context bound
      authority := meant
      binding := tied
      kid := rfl
      device := rfl
      issuedAt := rfl
      expiresAt := rfl
      purpose := rfl }⟩
  · intro justified
    obtain ⟨token, claims, key, reasons⟩ := justified
    obtain ⟨signed, signature, signedAs, authentic⟩ := reasons.signed
    obtain ⟨rfl, rfl⟩ := (Token.signedAs_iff reasons.decoded).1 signedAs
    have vets : Vets settings request.token request.issuer ⟨token, claims, verified.algorithm, verified.issuer⟩ :=
      ⟨reasons.decoded, reasons.claimed, reasons.algorithm, reasons.allowed, reasons.parsed, reasons.issued,
        reasons.algAgrees, reasons.kidAgrees⟩
    refine ⟨_, key, ⟨vets, reasons.started, reasons.unexpired, ?_⟩, remaining_ok_iff.2 ⟨authentic, ?_,
      verified.authority, verified.binding, reasons.authority, reasons.binding, ?_⟩⟩
    · rw [reasons.issued]
      exact reasons.resolved
    · calc claims.challenge = ⟨claims.challenge.challenge, claims.challenge.context⟩ := rfl
        _ = intrinsic.derive := by rw [reasons.challenge, reasons.context]
    · have kid := reasons.kid
      have device := reasons.device
      have issuedAt := reasons.issuedAt
      have expiresAt := reasons.expiresAt
      have purpose := reasons.purpose
      cases verified
      cases kid
      cases device
      cases issuedAt
      cases expiresAt
      cases purpose
      rfl

/-- A verified token comes out exactly when every reason for it is there. -/
theorem execute_accepts_iff (authenticator : Authenticator) (request : Request) (verified : Verified) :
    (execute authenticator request).result = .ok verified ↔ ∃ resolver time intrinsic token claims key,
      (request.resolver <|> authenticator.resolver) = some resolver ∧ request.time = some time ∧
      request.intrinsic = some intrinsic ∧
      Justifies authenticator.verifier authenticator.settings resolver request.token request.issuer intrinsic time
        token claims key verified := by
  rw [execute_ok_iff]
  constructor
  · intro staged
    obtain ⟨resolver, time, intrinsic, found, timed, supplied, accepted⟩ := staged
    obtain ⟨token, claims, key, reasons⟩ := justifies_iff.1 accepted
    exact ⟨resolver, time, intrinsic, token, claims, key, found, timed, supplied, reasons⟩
  · intro justified
    obtain ⟨resolver, time, intrinsic, token, claims, key, found, timed, supplied, reasons⟩ := justified
    exact ⟨resolver, time, intrinsic, found, timed, supplied, justifies_iff.2 ⟨token, claims, key, reasons⟩⟩

end Authenticator

end Credential
