import Credential.Proofs.Acceptance
import Credential.Proofs.Issuance

/-! Verified facts come only from what is signed. What stands before the last point of a token fixes its header
and its payload, and these fix every fact but the purpose. Settings, keys, verifier, clock and the caller's own
name of the issuer decide whether a token is accepted, and nothing of what it then proves. -/

namespace Credential

theorem Base64Url.encode_inj {first second : Bytes} (given : first ≠ []) (givenToo : second ≠ [])
    (same : encode first = encode second) : first = second := by
  have decoded := decode_encode given
  rw [same, decode_encode givenToo] at decoded
  exact (Except.ok.inj decoded).symm

namespace Token

variable {header payload otherHeader otherPayload : Bytes} {token twin : Token}

theorem signingText_inj (same : signingText header payload = signingText otherHeader otherPayload) :
    Base64Url.encode header = Base64Url.encode otherHeader ∧
      Base64Url.encode payload = Base64Url.encode otherPayload := by
  have parts : ∀ first second : Bytes, Text.split '.' (signingText first second) =
      [Base64Url.encode first, Base64Url.encode second] := by
    intro first second
    rw [signingText, Text.split_append (encode_clear first), Text.split_clear (encode_clear second)]
  have both := congrArg (Text.split '.') same
  rw [parts, parts] at both
  obtain ⟨first, rest⟩ := List.cons.inj both
  exact ⟨first, (List.cons.inj rest).1⟩

theorem Spells.agree (one : Spells header payload token) (two : Spells otherHeader otherPayload twin)
    (same : token.signingInput = twin.signingInput) :
    token.header = twin.header ∧ token.payload = twin.payload := by
  rw [one.signed, two.signed] at same
  obtain ⟨headers, payloads⟩ := signingText_inj (String.ofList_injective same)
  obtain rfl := Base64Url.encode_inj one.headerGiven two.headerGiven headers
  obtain rfl := Base64Url.encode_inj one.payloadGiven two.payloadGiven payloads
  obtain ⟨members, read, heads⟩ := one.heads
  obtain ⟨_, readToo, headsToo⟩ := two.heads
  cases read.symm.trans readToo
  have names := headerOf_ok_iff.2 heads
  have claims := one.claims
  rw [headerOf_ok_iff.2 headsToo] at names
  rw [two.claims] at claims
  exact ⟨(Except.ok.inj names).symm, (Except.ok.inj claims).symm⟩

theorem decode_agree {limit otherLimit : Int} {given other : Argument} {signed signature otherSignature : Bytes}
    (read : decode limit given = .ok token) (readToo : decode otherLimit other = .ok twin)
    (signedAs : SignedAs given signed signature) (signedToo : SignedAs other signed otherSignature) :
    token.header = twin.header ∧ token.payload = twin.payload := by
  obtain ⟨same, -⟩ := (signedAs_iff read).1 signedAs
  obtain ⟨sameToo, -⟩ := (signedAs_iff readToo).1 signedToo
  obtain ⟨_, _, _, -, -, spells, -⟩ := decode_ok_iff.1 read
  obtain ⟨_, _, _, -, -, spellsToo, -⟩ := decode_ok_iff.1 readToo
  exact spells.agree spellsToo (Bytes.ofString_inj.1 (same.symm.trans sameToo))

end Token

theorem Statement.signedAs_withSignature {settings : Settings} {statement : Statement} {quoting : Json.Quoting}
    {signature : Bytes} {given : Argument} (kid : statement.kid ≠ "") (signatureGiven : signature ≠ [])
    (stands : Token.Stands given (Bytes.ofString (statement.withSignature quoting signature)))
    (short : (Bytes.ofString (statement.withSignature quoting signature)).length ≤ settings.maxTokenLength) :
    Token.SignedAs given (Bytes.ofString (statement.signed quoting)) signature :=
  (Token.signedAs_iff (decode_withSignature kid signatureGiven stands short)).2 ⟨rfl, rfl⟩

namespace Authenticator

/-- What an accepted call rests on, its key and its clock apart. -/
structure Grounds (authenticator : Authenticator) (request : Request) (vetted : Vetted) (intrinsic : Intrinsic)
    (authority : String) (binding : Binding) : Prop where
  vets : Vets authenticator.settings request.token request.issuer vetted
  supplied : request.intrinsic = some intrinsic
  bound : vetted.claims.challenge = intrinsic.derive
  meant : Audience.authority vetted.claims.aud = .ok authority
  tied : Binding.ofJti (authenticator.settings.network.map Int.ofNat) vetted.claims.jti = .ok binding

theorem execute_grounds {authenticator : Authenticator} {request : Request} {verified : Verified}
    (accepted : (execute authenticator request).result = .ok verified) :
    ∃ vetted intrinsic authority binding, Grounds authenticator request vetted intrinsic authority binding ∧
      verified = proven vetted authority binding intrinsic.purpose := by
  obtain ⟨resolver, time, intrinsic, -, -, supplied, accepted⟩ := execute_ok_iff.1 accepted
  obtain ⟨vetted, key, reaches, accepted⟩ := stages_ok_iff.1 accepted
  obtain ⟨-, bound, authority, binding, meant, tied, same⟩ := remaining_ok_iff.1 accepted
  exact ⟨vetted, intrinsic, authority, binding, ⟨reaches.vets, supplied, bound, meant, tied⟩, same⟩

/-- What is vetted is what the header and the payload say, whatever the settings and whoever asks. -/
theorem Vets.agree {settings otherSettings : Settings} {given other issuer otherIssuer : Argument}
    {vetted twin : Vetted} (one : Vets settings given issuer vetted) (two : Vets otherSettings other otherIssuer twin)
    (header : vetted.token.header = twin.token.header) (payload : vetted.token.payload = twin.token.payload) :
    vetted.claims = twin.claims ∧ vetted.algorithm = twin.algorithm ∧ vetted.issuer = twin.issuer := by
  have claims := one.claimed
  rw [payload, two.claimed] at claims
  have algorithm := Algorithm.ofName?_eq_some.2 one.named
  rw [header, Algorithm.ofName?_eq_some.2 two.named] at algorithm
  have issuer := one.issued
  rw [← Except.ok.inj claims, ← two.issued] at issuer
  refine ⟨(Except.ok.inj claims).symm, (Option.some.inj algorithm).symm, ?_⟩
  cases first : vetted.issuer
  cases second : twin.issuer
  simp only [first, second] at issuer
  cases issuer
  rfl

section

variable {first second : Authenticator} {request again : Request} {verified other : Verified}
  {signed one two : Bytes}

/-- Two accepted calls about the same signed text prove the same, each for its own purpose. -/
theorem verified_eq_of_signed (accepted : (execute first request).result = .ok verified)
    (acceptedToo : (execute second again).result = .ok other) (signedAs : Token.SignedAs request.token signed one)
    (signedToo : Token.SignedAs again.token signed two) : other = { verified with purpose := other.purpose } := by
  obtain ⟨vetted, intrinsic, authority, binding, grounds, rfl⟩ := execute_grounds accepted
  obtain ⟨twin, another, authorityToo, bindingToo, groundsToo, rfl⟩ := execute_grounds acceptedToo
  obtain ⟨header, payload⟩ := Token.decode_agree grounds.vets.decoded groundsToo.vets.decoded signedAs signedToo
  obtain ⟨claims, algorithm, issuer⟩ := grounds.vets.agree groundsToo.vets header payload
  have meant := grounds.meant
  rw [claims, groundsToo.meant] at meant
  cases meant
  have tied := Binding.ofJti_unpinned grounds.tied
  rw [claims, Binding.ofJti_unpinned groundsToo.tied] at tied
  cases tied
  simp only [proven, header, claims, algorithm, issuer]

theorem execute_purpose (accepted : (execute first request).result = .ok verified) :
    request.intrinsic.map Intrinsic.purpose = some verified.purpose := by
  obtain ⟨vetted, intrinsic, authority, binding, grounds, rfl⟩ := execute_grounds accepted
  rw [grounds.supplied]
  rfl

/-- The facts of an accepted token are those of its signed text, for one purpose. -/
theorem execute_facts_of_signed (accepted : (execute first request).result = .ok verified)
    (acceptedToo : (execute second again).result = .ok other) (signedAs : Token.SignedAs request.token signed one)
    (signedToo : Token.SignedAs again.token signed two)
    (purposes : request.intrinsic.map Intrinsic.purpose = again.intrinsic.map Intrinsic.purpose) :
    verified = other := by
  rw [execute_purpose accepted, execute_purpose acceptedToo] at purposes
  have same := verified_eq_of_signed accepted acceptedToo signedAs signedToo
  rw [← Option.some.inj purposes] at same
  exact same.symm

end

open Statement

/-- Settings with no room to spare for the specimen, and for one network. -/
def narrow : Settings where
  maxTokenLength := 1024
  maxIssuerLength := 6
  allowed := [.hs256]
  network := some 42
  timeout := .ofDecimal false 1 0
  tokenRange := Settings.widest.tokenRange
  issuerRange := by decide
  someAllowed := by decide
  networkRange := by decide
  timeoutRange := by decide

def trusting : Authenticator := ⟨.constant (.ok true), none, .widest⟩

def wary (signature : Bytes) : Authenticator where
  verifier := fun _ _ _ given => Run.ofExcept (.ok (given = signature))
  resolver := some fun _ _ => .ok (some (key "k1" signature))
  settings := narrow

/-- The specimen as text, at the first moment of its time. -/
def textCall (signature : Bytes) : Request where
  token := .text ((specimen .hs256).withSignature .escaped signature)
  issuer := .text "org-42"
  intrinsic := some (specimen .hs256).intrinsic
  time := some 1000
  resolver := some fun _ _ => .ok (some (key "k1" [0x00]))

/-- The specimen as octets, at the last moment of its time. -/
def octetCall (signature : Bytes) : Request where
  token := .bytes (Bytes.ofString ((specimen .hs256).withSignature .escaped signature))
  issuer := .issuer ⟨Bytes.ofString "org-42", by decide⟩
  intrinsic := some (specimen .hs256).intrinsic
  time := some 1999
  resolver := none

theorem trusting_accepts {signature : Bytes} (given : signature ≠ []) (small : signature.length ≤ 64) :
    ∃ verified, (execute trusting (textCall signature)).result = .ok verified := by
  have form : Issuer.ofAnyForm (.text "org-42") = .ok ⟨Bytes.ofString "org-42", by decide⟩ :=
    Issuer.ofAnyForm_text (by decide)
  have started : ((specimen .hs256).iat : Int) ≤ 1000 := by decide
  have unexpired : (1000 : Int) < (specimen .hs256).exp := by decide
  exact ⟨_, (specimen_sound .hs256).accepted given (.text _) (specimen_short .hs256 small) form rfl started unexpired
    rfl rfl rfl⟩

theorem wary_accepts {signature : Bytes} (given : signature ≠ []) (small : signature.length ≤ 64) :
    ∃ verified, (execute (wary signature) (octetCall signature)).result = .ok verified := by
  have allowed : Algorithm.hs256 ∈ narrow.allowed := by decide
  have started : ((specimen .hs256).iat : Int) ≤ 1999 := by decide
  have unexpired : (1999 : Int) < (specimen .hs256).exp := by decide
  have holds : (Run.ofExcept (.ok (decide (signature = signature))) : Run Event Fault Bool).result = .ok true := by
    rw [decide_eq_true rfl]
    rfl
  exact ⟨_, (specimen_sound_under allowed (by decide)).accepted given (.bytes _) (specimen_short .hs256 small) rfl rfl
    started unexpired rfl rfl holds⟩

/-- Everything differs about these two calls but what is signed. -/
theorem execute_facts_of_signed_specimen : ∃ verified,
    (execute trusting (textCall [0x01])).result = .ok verified ∧
      (execute (wary [0x02]) (octetCall [0x02])).result = .ok verified := by
  have one : ([0x01] : Bytes) ≠ [] := List.cons_ne_nil _ _
  have two : ([0x02] : Bytes) ≠ [] := List.cons_ne_nil _ _
  obtain ⟨verified, accepted⟩ := trusting_accepts one (by decide)
  obtain ⟨other, acceptedToo⟩ := wary_accepts two (by decide)
  have kid := (specimen_sound .hs256).kid
  have signedAs := signedAs_withSignature kid one (.text _) (specimen_short .hs256 (by decide))
  have signedToo := signedAs_withSignature kid two (.bytes _) (specimen_short .hs256 (by decide))
  have same := execute_facts_of_signed accepted acceptedToo signedAs signedToo rfl
  exact ⟨verified, accepted, same ▸ acceptedToo⟩

end Authenticator

end Credential
