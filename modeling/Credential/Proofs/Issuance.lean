import Credential.Proofs.Acceptance
import Credential.Proofs.Audience
import Credential.Proofs.Base64Url.Lenient
import Credential.Proofs.Binding
import Credential.Proofs.KeySet
import Credential.Proofs.RoundTrip
import Credential.Proofs.Settings
import Credential.Proofs.TokenLength

/-! Issuer and verifier agree. What an issuer writes about an attempt decodes to what it meant, the secret it
publishes loads as the secret it signs with, and so a token signed with that secret is accepted. -/

namespace Credential

namespace Statement

/-- What a verifier with these settings asks of a statement, whoever signs it. -/
structure Sound (settings : Settings) (statement : Statement) (authority : String) (binding : Binding) : Prop where
  allowed : statement.algorithm ∈ settings.allowed
  kid : statement.kid ≠ ""
  iss : statement.iss ≠ ""
  issShort : (Bytes.ofString statement.iss).length ≤ settings.maxIssuerLength
  sub : statement.sub ≠ ""
  meant : Audience.authority statement.aud = .ok authority
  lasts : statement.iat < statement.exp
  tied : Binding.ofJti (settings.network.map Int.ofNat) statement.jti = .ok binding

def decoded (statement : Statement) (quoting : Json.Quoting) (signature : Bytes) : Token where
  header := ⟨statement.algorithm.name, statement.kid, none⟩
  payload := statement.payload
  signingInput := statement.signed quoting
  signature := signature

def claims (statement : Statement) : Claims where
  iss := statement.iss
  sub := statement.sub
  aud := statement.aud
  iat := statement.iat
  exp := statement.exp
  jti := statement.jti
  challenge := statement.intrinsic.derive
  alg := none
  kid := none

theorem header_exact (statement : Statement) : (Json.object statement.header).Exact := by
  simp [header, Json.Exact, Json.ExactMembers, Assoc.names]

theorem payload_exact (statement : Statement) : (Json.object statement.payload).Exact := by
  simp [payload, ChallengePair.toClaim, Json.Exact, Json.ExactMembers, Assoc.names]

theorem spells {statement : Statement} {signature : Bytes} (quoting : Json.Quoting) (kid : statement.kid ≠ "")
    (signatureGiven : signature ≠ []) :
    Token.Spells (statement.headerOctets quoting) (statement.payloadOctets quoting)
      (statement.decoded quoting signature) := by
  have named : statement.algorithm.name ≠ "" := by
    cases statement.algorithm <;> decide
  have heads : Token.Heads statement.header ⟨statement.algorithm.name, statement.kid, none⟩ :=
    { alg := rfl, algFilled := named, kid := rfl, kidFilled := kid, typ := .inl rfl }
  exact Token.spells_octets quoting quoting statement.header_exact.legible heads statement.payload_exact signatureGiven

theorem ofPayload_payload {settings : Settings} {statement : Statement} {authority : String} {binding : Binding}
    (sound : Sound settings statement authority binding) :
    Claims.ofPayload statement.payload = .ok statement.claims := by
  have present : Claims.missing? statement.payload = none := rfl
  have iss : Claims.text "iss" (Claims.value "iss" statement.payload) = .ok statement.iss := if_neg sound.iss
  have sub : Claims.text "sub" (Claims.value "sub" statement.payload) = .ok statement.sub := if_neg sound.sub
  have aud : Claims.audience (Claims.value "aud" statement.payload) = .ok statement.aud :=
    if_pos (Audience.hasScheme_of_authority sound.meant)
  have jti : Claims.text "jti" (Claims.value "jti" statement.payload) = .ok statement.jti :=
    if_neg (Binding.jti_ne_empty sound.tied)
  have claimed := statement.intrinsic.ofClaim_derive
  have challenge : Claims.pair (Claims.value "challenge" statement.payload) = .ok statement.intrinsic.derive := by
    have given : Claims.value "challenge" statement.payload = statement.intrinsic.derive.toClaim := rfl
    simp only [given, Claims.pair, claimed]
  simp only [Claims.ofPayload, present]
  refine Result.bind_ok_iff.2 ⟨statement.iss, iss, ?_⟩
  refine Result.bind_ok_iff.2 ⟨statement.sub, sub, ?_⟩
  refine Result.bind_ok_iff.2 ⟨statement.aud, aud, ?_⟩
  refine Result.bind_ok_iff.2 ⟨statement.iat, rfl, ?_⟩
  refine Result.bind_ok_iff.2 ⟨statement.exp, rfl, ?_⟩
  rw [if_neg (Nat.not_le.2 sound.lasts)]
  refine Result.bind_ok_iff.2 ⟨statement.jti, jti, ?_⟩
  refine Result.bind_ok_iff.2 ⟨statement.intrinsic.derive, challenge, ?_⟩
  refine Result.bind_ok_iff.2 ⟨none, rfl, ?_⟩
  exact Result.bind_ok_iff.2 ⟨none, rfl, rfl⟩

variable {settings : Settings} {statement : Statement} {authority : String} {binding : Binding}
  {quoting : Json.Quoting} {signature : Bytes} {given named : Argument} {issuer : Issuer}

theorem decode_withSignature (kid : statement.kid ≠ "") (signatureGiven : signature ≠ [])
    (stands : Token.Stands given (Bytes.ofString (statement.withSignature quoting signature)))
    (short : (Bytes.ofString (statement.withSignature quoting signature)).length ≤ settings.maxTokenLength) :
    Token.decode settings.maxTokenLength given = .ok (statement.decoded quoting signature) :=
  Token.decode_ok_iff.2 ⟨_, _, _, stands, Int.ofNat_le.2 short, spells quoting kid signatureGiven, rfl⟩

/-- Whatever its signature, a sound statement passes all that is asked before the time. -/
theorem Sound.vets (sound : Sound settings statement authority binding) (signatureGiven : signature ≠ [])
    (stands : Token.Stands given (Bytes.ofString (statement.withSignature quoting signature)))
    (short : (Bytes.ofString (statement.withSignature quoting signature)).length ≤ settings.maxTokenLength)
    (form : Issuer.ofAnyForm named = .ok issuer) (issued : issuer.bytes = Bytes.ofString statement.iss) :
    Authenticator.Vets settings given named
      ⟨statement.decoded quoting signature, statement.claims, statement.algorithm, issuer⟩ where
  decoded := decode_withSignature sound.kid signatureGiven stands short
  claimed := ofPayload_payload sound
  named := rfl
  allowed := sound.allowed
  parsed := Issuer.parse_ok_iff.2 ⟨form, by rw [issued]; exact Int.ofNat_le.2 sound.issShort⟩
  issued := issued
  algAgrees := .inl rfl
  kidAgrees := .inl rfl

/-- The key that a published secret amounts to. -/
def key (kid : String) (secret : Bytes) : Key where
  kid := Text.ofString kid
  pin := none
  material := .oct (Text.ofChars (Base64Url.encode secret))

private theorem ofChars_ne_nil {chars : List Char} (given : chars ≠ []) : Text.ofChars chars ≠ [] :=
  fun empty => given (List.map_eq_nil_iff.1 empty)

private theorem ofMembers_record {kid : String} {secret : Bytes} (kidGiven : kid ≠ "") (secretGiven : secret ≠ []) :
    Key.ofMembers (record kid secret) = .ok (key kid secret) := by
  have written : Key.field (record kid secret) "k" = .string (Text.ofChars (Base64Url.encode secret)) := rfl
  have gives : Key.Gives (record kid secret) (key kid secret).material.members :=
    List.forall_mem_singleton.2 ⟨written, ofChars_ne_nil (Base64Url.encode_ne_nil secretGiven)⟩
  have named : (key kid secret).kid ≠ [] := fun empty => kidGiven (Text.ofString_inj.1 empty)
  exact Key.ofMembers_ok_iff.2 ⟨Key.gives_members_iff.2 ⟨rfl, ⟨rfl, named⟩, gives⟩, rfl⟩

theorem ofDocument_document {kid : String} {secret : Bytes} (kidGiven : kid ≠ "") (secretGiven : secret ≠ []) :
    (KeySet.ofDocument true (document kid secret)).result = .ok ⟨[key kid secret], true⟩ := by
  have lists : KeySet.Lists (document kid secret) [.object (record kid secret)] := rfl
  have kept : [Json.object (record kid secret)].filter KeySet.isKept = [.object (record kid secret)] := rfl
  have read : Key.ofRecord (.object (record kid secret)) = .ok (key kid secret) := ofMembers_record kidGiven secretGiven
  rw [KeySet.ofDocument_ok_iff lists, kept]
  exact ⟨_, .cons read .nil, List.nodup_singleton _, rfl⟩

theorem load?_key (kid : String) {secret : Bytes} (secretGiven : secret ≠ []) :
    Key.load? (key kid secret).material = some (.secret secret) := by
  have octets : Key.octets? (Text.ofChars (Base64Url.encode secret)) = some secret := by
    rw [Key.octets?, Text.toString?, Text.chars?_ofChars]
    exact Base64Url.Lenient.decode?_encode secret
  simp only [key, Key.load?, octets, Option.bind_eq_bind, Option.bind_some, if_neg secretGiven]

theorem admission_key {algorithm : Algorithm} (symmetric : algorithm.family = .oct) (kid : String) (secret : Bytes) :
    (key kid secret).admission algorithm = .ok () := by
  have family : ¬(key kid secret).family ≠ algorithm.family := fun other => other symmetric.symm
  rw [Key.admission, if_neg family]
  rfl

theorem verdict_tag {secret : Bytes} (symmetric : statement.algorithm.family = .oct) (secretGiven : secret ≠ []) :
    Authenticator.verdict .standard
      ⟨statement.decoded quoting (statement.tag quoting secret), statement.claims, statement.algorithm, issuer⟩
      (key statement.kid secret) = .ok true := by
  have holds : statement.algorithm.check (Bytes.ofString (statement.signed quoting)) (statement.tag quoting secret)
      (.secret secret) = .ok true := by
    rw [Algorithm.check, tag]
    exact congrArg Except.ok (decide_eq_true rfl)
  simp only [Authenticator.verdict, decoded, Verifier.standard, admission_key symmetric, load?_key _ secretGiven, holds,
    Run.ofExcept_ok_bind]
  rfl

theorem tag_ne_nil (statement : Statement) (quoting : Json.Quoting) (secret : Bytes) :
    statement.tag quoting secret ≠ [] := by
  have long : 0 < (statement.tag quoting secret).length := by
    rw [tag, Hash.length_hmac]
    cases statement.algorithm.hash <;> decide
  exact List.length_pos_iff.1 long

/-- A statement that is sound under the widest settings. -/
def specimen (algorithm : Algorithm) : Statement where
  algorithm := algorithm
  kid := "k1"
  iss := "org-42"
  sub := "device-9"
  aud := "urn:authority:kreivo"
  iat := 1000
  exp := 2000
  jti := String.ofList (Hex32.render (List.replicate 32 0))
  intrinsic := ⟨[0x01], .authenticateSession, by decide, by decide⟩

theorem specimen_sound_under {algorithm : Algorithm} (allowed : algorithm ∈ settings.allowed)
    (roomy : 6 ≤ settings.maxIssuerLength) :
    Sound settings (specimen algorithm) "kreivo" (.methodHash (List.replicate 32 0)) where
  allowed := allowed
  kid := (by decide : "k1" ≠ "")
  iss := (by decide : "org-42" ≠ "")
  issShort := roomy
  sub := (by decide : "device-9" ≠ "")
  meant := (by rfl : Audience.authority "urn:authority:kreivo" = .ok "kreivo")
  lasts := (by decide : 1000 < 2000)
  tied := by
    have hash : Hex32.parse? (specimen algorithm).jti.toList = some (List.replicate 32 0) := by
      rw [specimen, String.toList_ofList]
      exact Hex32.parse?_render rfl
    rw [Binding.ofJti, hash]

theorem specimen_sound (algorithm : Algorithm) :
    Sound .widest (specimen algorithm) "kreivo" (.methodHash (List.replicate 32 0)) :=
  specimen_sound_under algorithm.mem_all (by decide)

theorem specimen_issuer : Issuer.ofAnyForm (.bytes (Bytes.ofString "org-42")) =
    .ok ⟨Bytes.ofString "org-42", by decide⟩ := by
  rw [Issuer.ofAnyForm, Issuer.ofBytes, dif_neg (by decide)]

theorem specimen_short (algorithm : Algorithm) {signature : Bytes} (small : signature.length ≤ 64) :
    (Bytes.ofString ((specimen algorithm).withSignature .escaped signature)).length ≤ Settings.widest.maxTokenLength := by
  have header : ((specimen algorithm).headerOctets .escaped).length ≤ 26 := by
    cases algorithm <;> decide
  have payload : ((specimen algorithm).payloadOctets .escaped).length = 333 := by
    have jti : Text.size (Json.Quoting.escaped.quote (specimen algorithm).jti) = 68 :=
      Hex32.size_quote_render .escaped rfl
    have fixed : Text.size (Json.Quoting.escaped.quote "org-42") + Text.size (Json.Quoting.escaped.quote "device-9") +
        Text.size (Json.Quoting.escaped.quote "urn:authority:kreivo") + Text.size (Json.intText 1000) +
        Text.size (Json.intText 2000) = 48 := by decide
    rw [length_payloadOctets, jti]
    exact congrArg (· + 68 + 217) fixed
  rw [length_withSignature, payload]
  have limit : Settings.widest.maxTokenLength = 1024 := rfl
  omega

/-- A sound statement is accepted in its time by whoever finds a key for it and the signature to hold. -/
theorem Sound.accepted {verifier : Verifier} {key : Key} {time : Int} {own passed : Option Resolver} {resolver : Resolver}
    (sound : Sound settings statement authority binding) (signatureGiven : signature ≠ [])
    (stands : Token.Stands given (Bytes.ofString (statement.withSignature quoting signature)))
    (short : (Bytes.ofString (statement.withSignature quoting signature)).length ≤ settings.maxTokenLength)
    (form : Issuer.ofAnyForm named = .ok issuer) (issued : issuer.bytes = Bytes.ofString statement.iss)
    (started : (statement.iat : Int) ≤ time) (unexpired : time < statement.exp)
    (found : (passed <|> own) = some resolver)
    (resolved : resolver issuer.bytes (Text.ofString statement.kid) = .ok (some key))
    (holds : (verifier statement.algorithm key (Bytes.ofString (statement.signed quoting)) signature).result = .ok true) :
    (Authenticator.execute ⟨verifier, own, settings⟩
      ⟨given, named, some statement.intrinsic, some time, passed⟩).result = .ok (Authenticator.proven
        ⟨statement.decoded quoting signature, statement.claims, statement.algorithm, issuer⟩ authority binding
        statement.intrinsic.purpose) := by
  have vets := sound.vets signatureGiven stands short form issued
  refine Authenticator.execute_ok_iff.2 ⟨resolver, time, statement.intrinsic, found, rfl, rfl, ?_⟩
  refine Authenticator.stages_ok_iff.2 ⟨_, key, ⟨vets, started, unexpired, resolved⟩, ?_⟩
  exact Authenticator.remaining_ok_iff.2 ⟨holds, rfl, authority, binding, sound.meant, sound.tied, rfl⟩

theorem Sound.accepted_shared {secret : Bytes} {time : Int} {own passed : Option Resolver} {resolver : Resolver}
    (sound : Sound settings statement authority binding) (symmetric : statement.algorithm.family = .oct)
    (secretGiven : secret ≠ []) (stands : Token.Stands given (Bytes.ofString (statement.token quoting secret)))
    (short : (Bytes.ofString (statement.token quoting secret)).length ≤ settings.maxTokenLength)
    (form : Issuer.ofAnyForm named = .ok issuer) (issued : issuer.bytes = Bytes.ofString statement.iss)
    (started : (statement.iat : Int) ≤ time) (unexpired : time < statement.exp)
    (found : (passed <|> own) = some resolver)
    (resolved : resolver issuer.bytes (Text.ofString statement.kid) = .ok (some (key statement.kid secret))) :
    (Authenticator.execute ⟨.standard, own, settings⟩
      ⟨given, named, some statement.intrinsic, some time, passed⟩).result = .ok (Authenticator.proven
        ⟨statement.decoded quoting (statement.tag quoting secret), statement.claims, statement.algorithm, issuer⟩
        authority binding statement.intrinsic.purpose) := by
  have holds := @verdict_tag statement quoting issuer secret symmetric secretGiven
  exact sound.accepted (statement.tag_ne_nil quoting secret) stands short form issued started unexpired found resolved
    holds

/-- Whatever an issuer signs with a shared secret, a verifier that was given the secret accepts in its time,
as proof of exactly what was said. -/
theorem execute_token {secret : Bytes} {time : Int} {own passed : Option Resolver}
    (sound : Sound settings statement authority binding) (symmetric : statement.algorithm.family = .oct)
    (secretGiven : secret ≠ [])
    (stands : Token.Stands given (Bytes.ofString (statement.token quoting secret)))
    (short : (Bytes.ofString (statement.token quoting secret)).length ≤ settings.maxTokenLength)
    (form : Issuer.ofAnyForm named = .ok issuer) (issued : issuer.bytes = Bytes.ofString statement.iss)
    (started : (statement.iat : Int) ≤ time) (unexpired : time < statement.exp) :
    ∃ keySet, (KeySet.ofDocument true (document statement.kid secret)).result = .ok keySet ∧
      ∀ registry : Registry, registry.keySetAt? (Bytes.ofString statement.iss) = some keySet →
        (passed <|> own) = some registry.resolver →
        (Authenticator.execute ⟨.standard, own, settings⟩
          ⟨given, named, some statement.intrinsic, some time, passed⟩).result = .ok {
            issuer := issuer
            kid := statement.kid
            algorithm := statement.algorithm
            device := DeviceId.ofSubject statement.sub
            authority := authority
            binding := binding
            issuedAt := statement.iat
            expiresAt := statement.exp
            purpose := statement.intrinsic.purpose } := by
  refine ⟨_, ofDocument_document sound.kid secretGiven, ?_⟩
  intro registry registered found
  have resolved : registry.resolver issuer.bytes (Text.ofString statement.kid) =
      .ok (some (key statement.kid secret)) := by
    have first : KeySet.get? ⟨[key statement.kid secret], true⟩ (Text.ofString statement.kid) =
        some (key statement.kid secret) := by
      simp [KeySet.get?, key]
    rw [Registry.resolver, Registry.resolve, issued, registered, Option.bind_some, first]
  have vets := sound.vets (statement.tag_ne_nil quoting secret) stands short form issued
  refine Authenticator.execute_ok_iff.2 ⟨registry.resolver, time, statement.intrinsic, found, rfl, rfl, ?_⟩
  refine Authenticator.stages_ok_iff.2 ⟨_, _, ⟨vets, started, unexpired, resolved⟩, ?_⟩
  exact Authenticator.remaining_ok_iff.2
    ⟨verdict_tag symmetric secretGiven, rfl, authority, binding, sound.meant, sound.tied, rfl⟩

theorem execute_specimen_token :
    (Authenticator.execute ⟨.standard, some (Registry.mk [(Bytes.ofString "org-42", ⟨[key "k1" [0x01]], true⟩)]).resolver,
        .widest⟩
      ⟨.text ((specimen .hs256).token .escaped [0x01]), .bytes (Bytes.ofString "org-42"),
        some (specimen .hs256).intrinsic, some 1500, none⟩).result = .ok {
          issuer := ⟨Bytes.ofString "org-42", by decide⟩
          kid := "k1"
          algorithm := .hs256
          device := DeviceId.ofSubject "device-9"
          authority := "kreivo"
          binding := .methodHash (List.replicate 32 0)
          issuedAt := 1000
          expiresAt := 2000
          purpose := .authenticateSession } := by
  have size : ((specimen .hs256).tag .escaped [0x01]).length ≤ 64 := by
    rw [tag, Hash.length_hmac]
    decide
  have started : ((specimen .hs256).iat : Int) ≤ 1500 := by decide
  have unexpired : (1500 : Int) < (specimen .hs256).exp := by decide
  obtain ⟨keySet, read, accepts⟩ := execute_token (specimen_sound .hs256) rfl (List.cons_ne_nil 0x01 [])
    (.text ((specimen .hs256).token .escaped [0x01])) (specimen_short .hs256 size) specimen_issuer rfl started
    unexpired
  have same := ofDocument_document (specimen_sound .hs256).kid (List.cons_ne_nil 0x01 [])
  rw [read] at same
  cases same
  exact accepts _ rfl rfl

end Statement

end Credential
