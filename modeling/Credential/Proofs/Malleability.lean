import Credential.Proofs.Admission
import Credential.Proofs.Provenance

/-! A text signed with a shared secret is accepted with one third segment and no other. The keyed digest leaves no
choice of the signature, and the written form leaves none of how the signature is spelled. -/

namespace Credential

namespace Algorithm

theorem family_of_symmetric {algorithm : Algorithm} (symmetric : algorithm.name ∈ ["HS256", "HS384", "HS512"]) :
    algorithm.family = .oct := by
  cases algorithm <;> first | rfl | exact absurd symmetric (by decide)

end Algorithm

/-- A shared secret confirms one signature of a text, and answers no to every other. -/
theorem Verifier.standard_of_symmetric {algorithm : Algorithm} {key : Key} {signed signature : Bytes}
    (symmetric : algorithm.family = .oct) (confirmed : (standard algorithm key signed signature).result = .ok true)
    (other : Bytes) : (standard algorithm key signed other).result = .ok (decide (other = signature)) := by
  obtain ⟨suits, loaded, loads, checked⟩ := standard_ok_iff.1 confirmed
  have family := suits.family.trans symmetric
  cases material : key.material with
  | rsa n e => simp [Key.family, Key.Material.family, material] at family
  | ec crv x y => simp [Key.family, Key.Material.family, material] at family
  | okp crv x => simp [Key.family, Key.Material.family, material] at family
  | oct k =>
    have shared : ∃ secret, loaded = .secret secret := by
      rw [material, Key.load?] at loads
      obtain ⟨secret, -, found⟩ := Option.bind_eq_some_iff.1 loads
      split at found
      · cases found
      · cases found
        exact ⟨secret, rfl⟩
    obtain ⟨secret, rfl⟩ := shared
    have tag : signature = algorithm.hash.hmac secret signed := of_decide_eq_true (Except.ok.inj checked)
    refine standard_ok_iff.2 ⟨suits, _, loads, ?_⟩
    rw [Algorithm.check, ← tag]

namespace Token

variable {limit otherLimit : Int} {given other : Argument} {token twin : Token}

theorem signingText_plain (header payload : Bytes) : ∀ c ∈ signingText header payload, c.toNat < 0x80 :=
  fun c inside => compact_plain header payload [] c (List.mem_append_left _ inside)

/-- What is signed holds the one point that there is before the last, so what follows it in another token holds none. -/
theorem clear_of_decode (decoded : decode limit given = .ok token) (decodedToo : decode otherLimit other = .ok twin)
    {after : Bytes} (stands : Stands other (Bytes.ofString token.signingInput ++ 0x2E :: after)) : 0x2E ∉ after := by
  obtain ⟨_, header, payload, -, -, spells, -⟩ := decode_ok_iff.1 decoded
  obtain ⟨bytes, _, _, standsToo, -, -, whole⟩ := decode_ok_iff.1 decodedToo
  have same := octets_ok_iff.2 standsToo
  rw [octets_ok_iff.2 stands, whole, spells.signed] at same
  have chars := congrArg (List.map fun byte : UInt8 => Char.ofNat byte.toNat) (Except.ok.inj same)
  rw [List.map_append, List.map_cons, Bytes.chars_ofString (signingText_plain header payload),
    Bytes.chars_ofString (compact_plain _ _ _)] at chars
  have parts := congrArg (Text.split '.') chars
  have point : Char.ofNat (0x2E : UInt8).toNat = '.' := rfl
  rw [point, split_signingText, split_compact] at parts
  obtain ⟨-, parts⟩ := List.cons.inj parts
  have rest := congrArg (Text.join '.') (List.cons.inj parts).2
  rw [Text.join_split] at rest
  intro inside
  apply encode_clear twin.signature
  have seen := List.mem_map_of_mem (f := fun byte : UInt8 => Char.ofNat byte.toNat) inside
  rw [rest] at seen
  exact seen

end Token

namespace Authenticator

section Changed

variable {authenticator : Authenticator} {request : Request} {verified : Verified} {token : Token}

theorem family_of_accepted (accepted : (execute authenticator request).result = .ok verified)
    (decoded : Token.decode authenticator.settings.maxTokenLength request.token = .ok token)
    (symmetric : token.header.alg ∈ ["HS256", "HS384", "HS512"]) : verified.algorithm.family = .oct := by
  obtain ⟨vetted, intrinsic, authority, binding, grounds, rfl⟩ := execute_grounds accepted
  cases grounds.vets.decoded.symm.trans decoded
  apply Algorithm.family_of_symmetric
  rw [← grounds.vets.named] at symmetric
  exact symmetric

theorem third_eq_of_accepted {other : Authenticator} {again : Request} {verifiedToo : Verified} {signed third after : Bytes}
    (standard : authenticator.verifier = .standard) (standardToo : other.verifier = .standard)
    (resolvers : (again.resolver <|> other.resolver) = (request.resolver <|> authenticator.resolver))
    (accepted : (execute authenticator request).result = .ok verified)
    (acceptedToo : (execute other again).result = .ok verifiedToo) (symmetric : verified.algorithm.family = .oct)
    (stands : Token.Stands request.token (signed ++ 0x2E :: third)) (last : 0x2E ∉ third)
    (standsToo : Token.Stands again.token (signed ++ 0x2E :: after)) : after = third := by
  obtain ⟨resolver, key, _, signature, found, resolved, -, signedAs, confirmed, -⟩ :=
    consulted_of_accepted standard accepted
  obtain ⟨_, keyToo, _, signatureToo, foundToo, resolvedToo, -, signedToo, confirmedToo, -⟩ :=
    consulted_of_accepted standardToo acceptedToo
  obtain ⟨vetted, _, _, _, grounds, -⟩ := execute_grounds accepted
  obtain ⟨twin, _, _, _, groundsToo, -⟩ := execute_grounds acceptedToo
  have decoded := grounds.vets.decoded
  have decodedToo := groundsToo.vets.decoded
  obtain ⟨rfl, rfl⟩ := (Token.stands_iff decoded).1 ⟨stands, last⟩
  have clear := Token.clear_of_decode decoded decodedToo standsToo
  obtain ⟨same, rfl⟩ := (Token.stands_iff decodedToo).1 ⟨standsToo, clear⟩
  obtain ⟨rfl, rfl⟩ := (Token.signedAs_iff decoded).1 signedAs
  obtain ⟨rfl, rfl⟩ := (Token.signedAs_iff decodedToo).1 signedToo
  rw [← same] at signedToo confirmedToo
  -- the key and the algorithm are facts of what is signed, which the two tokens share
  have facts := verified_eq_of_signed accepted acceptedToo signedAs signedToo
  rw [facts] at confirmedToo resolvedToo
  rw [resolvers, found] at foundToo
  cases foundToo
  cases resolved.symm.trans resolvedToo
  have one := Verifier.standard_of_symmetric symmetric confirmed twin.token.signature
  rw [confirmedToo] at one
  rw [of_decide_eq_true (Except.ok.inj one).symm]

theorem Vets.withToken {settings : Settings} {given issuer other : Argument} {vetted : Vetted} {twin : Token}
    (vets : Vets settings given issuer vetted) (decoded : Token.decode settings.maxTokenLength other = .ok twin)
    (header : vetted.token.header = twin.header) (payload : vetted.token.payload = twin.payload) :
    Vets settings other issuer { vetted with token := twin } where
  decoded := decoded
  claimed := payload ▸ vets.claimed
  named := header ▸ vets.named
  allowed := vets.allowed
  parsed := vets.parsed
  issued := vets.issued
  algAgrees := header ▸ vets.algAgrees
  kidAgrees := header ▸ vets.kidAgrees

theorem rejected_of_changed {signed third after : Bytes} {changed : Argument} (standard : authenticator.verifier = .standard)
    (accepted : (execute authenticator request).result = .ok verified) (symmetric : verified.algorithm.family = .oct)
    (stands : Token.Stands request.token (signed ++ 0x2E :: third)) (last : 0x2E ∉ third)
    (standsToo : Token.Stands changed (signed ++ 0x2E :: after)) (differs : after ≠ third) :
    ∃ cause, (execute authenticator { request with token := changed }).result = .error (.rejected cause) ∧
      (cause = .badSignature ∨ ∃ malformation, cause = .malformed malformation) := by
  obtain ⟨resolver, time, intrinsic, found, timed, supplied, staged⟩ := execute_ok_iff.1 accepted
  obtain ⟨vetted, key, reaches, remains⟩ := stages_ok_iff.1 staged
  obtain ⟨confirmed, -, authority, binding, -, -, rfl⟩ := remaining_ok_iff.1 remains
  obtain ⟨rfl, rfl⟩ := (Token.stands_iff reaches.vets.decoded).1 ⟨stands, last⟩
  have again : execute authenticator { request with token := changed } =
      stages authenticator.verifier authenticator.settings { request with token := changed } resolver time intrinsic :=
    execute_given found timed supplied
  rw [again]
  cases decodedToo : Token.decode authenticator.settings.maxTokenLength changed with
  | error fault =>
    cases fault with
    | malformed malformation =>
      have unread : vet authenticator.settings { request with token := changed } =
          .error (.rejected (.malformed malformation)) :=
        Result.bind_error_iff.2 (.inl (Result.mapError_error_iff.2 ⟨_, decodedToo, rfl⟩))
      refine ⟨_, ?_, .inr ⟨malformation, rfl⟩⟩
      rw [result_stages, unread]
      rfl
    | unencodable place =>
      obtain ⟨text, given, unpaired, -⟩ := Token.decode_unencodable_iff.1 decodedToo
      exact absurd (standsToo.paired text given) unpaired
  | ok twin =>
    have clear := Token.clear_of_decode reaches.vets.decoded decodedToo standsToo
    obtain ⟨same, rfl⟩ := (Token.stands_iff decodedToo).1 ⟨standsToo, clear⟩
    have signedAs := (Token.signedAs_iff reaches.vets.decoded).2 ⟨rfl, rfl⟩
    obtain ⟨header, payload⟩ := Token.decode_agree reaches.vets.decoded decodedToo signedAs
      ((Token.signedAs_iff decodedToo).2 ⟨same, rfl⟩)
    have reachesToo : Reaches authenticator.settings resolver changed request.issuer time
        { vetted with token := twin } key :=
      ⟨reaches.vets.withToken decodedToo header payload, reaches.started, reaches.unexpired, header ▸ reaches.resolved⟩
    have other : twin.signature ≠ vetted.token.signature := by
      intro equal
      apply differs
      rw [equal]
    rw [standard] at confirmed
    have refused : verdict .standard { vetted with token := twin } key = .ok false := by
      have answer := Verifier.standard_of_symmetric symmetric confirmed twin.signature
      rw [decide_eq_false other, same] at answer
      exact answer
    refine ⟨.badSignature, ?_, .inl rfl⟩
    rw [reachesToo.result_stages, standard, remaining, result_checkSignature, refused]
    rfl

/-- A text signed with a shared secret is accepted with one third segment only. Two accepted tokens that begin with it
are the same octets, whatever else differs between the calls but where keys are looked for, and in the same call any
other third segment is refused, as no token or for its signature. -/
theorem execute_third_segment_unique {signed third : Bytes} (standard : authenticator.verifier = .standard)
    (accepted : (execute authenticator request).result = .ok verified)
    (decoded : Token.decode authenticator.settings.maxTokenLength request.token = .ok token)
    (symmetric : token.header.alg ∈ ["HS256", "HS384", "HS512"])
    (stands : Token.Stands request.token (signed ++ 0x2E :: third)) (last : 0x2E ∉ third) :
    (∀ (other : Authenticator) (again : Request) (verifiedToo : Verified) (after : Bytes), other.verifier = .standard →
      (again.resolver <|> other.resolver) = (request.resolver <|> authenticator.resolver) →
      (execute other again).result = .ok verifiedToo → Token.Stands again.token (signed ++ 0x2E :: after) →
      signed ++ 0x2E :: after = signed ++ 0x2E :: third) ∧
    (∀ (changed : Argument) (after : Bytes), Token.Stands changed (signed ++ 0x2E :: after) → after ≠ third →
      ∃ cause, (execute authenticator { request with token := changed }).result = .error (.rejected cause) ∧
        (cause = .badSignature ∨ ∃ malformation, cause = .malformed malformation)) := by
  have family := family_of_accepted accepted decoded symmetric
  constructor
  · intro other again verifiedToo after standardToo resolvers acceptedToo standsToo
    rw [third_eq_of_accepted standard standardToo resolvers accepted acceptedToo family stands last standsToo]
  · intro changed after standsToo differs
    exact rejected_of_changed standard accepted family stands last standsToo differs

end Changed

open Statement

/-- Nothing can be appended to the specimen. -/
theorem execute_third_segment_unique_specimen : (∃ verified, (execute sharing taggedCall).result = .ok verified) ∧
    ∀ more : Bytes, more ≠ [] → ∃ cause, (execute sharing { taggedCall with
      token := .bytes (Bytes.ofString ((specimen .hs256).token .escaped [0x01]) ++ more) }).result =
        .error (.rejected cause) := by
  obtain ⟨verified, accepted⟩ := sharing_accepts
  refine ⟨⟨verified, accepted⟩, ?_⟩
  intro more given
  have decoded := decode_withSignature (specimen_sound .hs256).kid ((specimen .hs256).tag_ne_nil .escaped [0x01])
    (.text ((specimen .hs256).token .escaped [0x01])) specimen_token_short
  obtain ⟨stands, last⟩ := (Token.stands_iff decoded).2 ⟨rfl, rfl⟩
  have unique := execute_third_segment_unique rfl accepted decoded (by decide) stands last
  have whole := (Token.octets_ok_iff.2 (.text ((specimen .hs256).token .escaped [0x01]))).symm.trans
    (Token.octets_ok_iff.2 stands)
  rw [Except.ok.inj whole, List.append_assoc, List.cons_append]
  obtain ⟨cause, rejected, -⟩ := unique.2 _ _ (.bytes _) fun same => given (List.append_right_eq_self.1 same)
  exact ⟨cause, rejected⟩

end Authenticator

end Credential
