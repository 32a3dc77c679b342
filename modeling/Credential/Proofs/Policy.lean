import Credential.Proofs.FailureCodes
import Credential.Proofs.Provenance

/-! A policy only restricts. Each setting is a bound on the facts of a token or on its length, and nothing else about
a verification depends on it. So of two verifications under different settings that both accept, both tell the same,
and a policy that allows less accepts less. -/

namespace Credential

namespace Settings

structure Narrower (narrow wide : Settings) : Prop where
  tokens : narrow.maxTokenLength ≤ wide.maxTokenLength
  issuers : narrow.maxIssuerLength ≤ wide.maxIssuerLength
  algorithms : narrow.allowed ⊆ wide.allowed
  network : wide.network = narrow.network ∨ wide.network = none

/-- What settings have to say of the facts of a token of some length. Only a session key is on a network. -/
structure Permits (settings : Settings) (length : Nat) (verified : Verified) : Prop where
  short : length ≤ settings.maxTokenLength
  issuerShort : verified.issuer.bytes.length ≤ settings.maxIssuerLength
  allowed : verified.algorithm ∈ settings.allowed
  network : ∀ key number, verified.binding = .sessionKey key → settings.network = some number → number = key.network

theorem Permits.widen {narrow wide : Settings} {length : Nat} {verified : Verified}
    (permits : narrow.Permits length verified) (narrower : narrow.Narrower wide) : wide.Permits length verified where
  short := Nat.le_trans permits.short narrower.tokens
  issuerShort := Nat.le_trans permits.issuerShort narrower.issuers
  allowed := narrower.algorithms permits.allowed
  network := by
    intro key number binding expected
    rcases narrower.network with same | unpinned
    · exact permits.network key number binding (same ▸ expected)
    · rw [unpinned] at expected
      cases expected

end Settings

/-- The limit decides whether octets are read, and not as what. -/
theorem Token.decode_of_short {limit other : Int} {given : Argument} {token : Token} {bytes : Bytes}
    (decoded : decode limit given = .ok token) (stands : Stands given bytes) (short : (bytes.length : Int) ≤ other) :
    decode other given = .ok token := by
  obtain ⟨same, header, payload, standsToo, -, spells, whole⟩ := decode_ok_iff.1 decoded
  cases (octets_ok_iff.2 stands).symm.trans (octets_ok_iff.2 standsToo)
  exact decode_ok_iff.2 ⟨bytes, header, payload, stands, short, spells, whole⟩

theorem Token.decode_unique {limit other : Int} {given : Argument} {token twin : Token}
    (decoded : decode limit given = .ok token) (decodedToo : decode other given = .ok twin) : token = twin := by
  obtain ⟨_, _, _, stands, short, -, -⟩ := decode_ok_iff.1 decodedToo
  exact Except.ok.inj ((decode_of_short decoded stands short).symm.trans decodedToo)

namespace Authenticator

theorem Vets.eq {settings otherSettings : Settings} {given issuer otherIssuer : Argument} {vetted twin : Vetted}
    (one : Vets settings given issuer vetted) (two : Vets otherSettings given otherIssuer twin) : vetted = twin := by
  have token := Token.decode_unique one.decoded two.decoded
  obtain ⟨claims, algorithm, issuer⟩ := one.agree two (congrArg _ token) (congrArg _ token)
  cases vetted
  cases twin
  cases token
  cases claims
  cases algorithm
  cases issuer
  rfl

def under (authenticator : Authenticator) (settings : Settings) : Authenticator := { authenticator with settings }

section Filter

variable {authenticator : Authenticator} {request : Request} {verified other : Verified} {bytes : Bytes}

theorem permits_of_accepted (accepted : (execute authenticator request).result = .ok verified)
    (stands : Token.Stands request.token bytes) : authenticator.settings.Permits bytes.length verified := by
  obtain ⟨vetted, intrinsic, authority, binding, grounds, rfl⟩ := execute_grounds accepted
  obtain ⟨_, _, _, standsToo, short, -, -⟩ := Token.decode_ok_iff.1 grounds.vets.decoded
  cases (Token.octets_ok_iff.2 stands).symm.trans (Token.octets_ok_iff.2 standsToo)
  refine ⟨Int.ofNat_le.1 short, Int.ofNat_le.1 (Issuer.parse_ok_iff.1 grounds.vets.parsed).2, grounds.vets.allowed, ?_⟩
  intro key number bound pinned
  have fits := (Binding.ofJti_ok_iff.1 grounds.tied).2 (Int.ofNat number) (Option.mem_map_of_mem Int.ofNat pinned)
  obtain rfl : binding = .sessionKey key := bound
  exact Int.ofNat_inj.1 (Eq.symm fits)

theorem accepted_of_permits {settings : Settings} (accepted : (execute authenticator request).result = .ok verified)
    (stands : Token.Stands request.token bytes) (permits : settings.Permits bytes.length verified) :
    (execute (authenticator.under settings) request).result = .ok verified := by
  obtain ⟨resolver, time, intrinsic, found, timed, supplied, staged⟩ := execute_ok_iff.1 accepted
  obtain ⟨vetted, key, reaches, remains⟩ := stages_ok_iff.1 staged
  obtain ⟨confirmed, bound, authority, binding, meant, tied, rfl⟩ := remaining_ok_iff.1 remains
  have vets : Vets settings request.token request.issuer vetted := {
    decoded := Token.decode_of_short reaches.vets.decoded stands (Int.ofNat_le.2 permits.short)
    claimed := reaches.vets.claimed
    named := reaches.vets.named
    allowed := permits.allowed
    parsed := Issuer.parse_ok_iff.2 ⟨(Issuer.parse_ok_iff.1 reaches.vets.parsed).1, Int.ofNat_le.2 permits.issuerShort⟩
    issued := reaches.vets.issued
    algAgrees := reaches.vets.algAgrees
    kidAgrees := reaches.vets.kidAgrees }
  have tiedToo : Binding.ofJti (settings.network.map Int.ofNat) vetted.claims.jti = .ok binding := by
    refine Binding.ofJti_ok_iff.2 ⟨(Binding.ofJti_ok_iff.1 tied).1, ?_⟩
    intro expected pinned
    obtain ⟨number, own, rfl⟩ := Option.map_eq_some_iff.1 pinned
    cases binding with
    | methodHash bytes => trivial
    | sessionKey key => exact congrArg Int.ofNat (permits.network key number rfl own).symm
  refine execute_ok_iff.2 ⟨resolver, time, intrinsic, found, timed, supplied, ?_⟩
  refine stages_ok_iff.2 ⟨vetted, key, ⟨vets, reaches.started, reaches.unexpired, reaches.resolved⟩, ?_⟩
  exact remaining_ok_iff.2 ⟨confirmed, bound, authority, binding, meant, tiedToo, rfl⟩

/-- Under other settings an accepted call is accepted or rejected. It does not fault, and comes to no other facts. -/
theorem accepted_or_rejected (accepted : (execute authenticator request).result = .ok verified) (settings : Settings) :
    (execute (authenticator.under settings) request).result = .ok verified ∨
      ∃ cause, (execute (authenticator.under settings) request).result = .error (.rejected cause) := by
  obtain ⟨resolver, time, intrinsic, found, timed, supplied, staged⟩ := execute_ok_iff.1 accepted
  obtain ⟨vetted, key, reaches, remains⟩ := stages_ok_iff.1 staged
  obtain ⟨confirmed, bound, authority, binding, meant, tied, rfl⟩ := remaining_ok_iff.1 remains
  have again : execute (authenticator.under settings) request =
      stages authenticator.verifier settings request resolver time intrinsic := execute_given found timed supplied
  rw [again]
  rcases stages_split settings request resolver time with ⟨twin, keyToo, reachesToo⟩ | ⟨fault, stops, stopped⟩
  · obtain rfl := reaches.vets.eq reachesToo.vets
    cases reaches.resolved.symm.trans reachesToo.resolved
    rw [reachesToo.result_stages, remaining_of_bound confirmed bound]
    cases derived : facts settings vetted intrinsic with
    | error cause => exact .inr ⟨cause, rfl⟩
    | ok derivedFacts =>
      obtain ⟨_, _, meantToo, tiedToo, rfl⟩ := facts_ok_iff.1 derived
      cases meant.symm.trans meantToo
      cases (Binding.ofJti_unpinned tied).symm.trans (Binding.ofJti_unpinned tiedToo)
      exact .inl rfl
  · cases stops with
    | rejected cause => exact .inr ⟨cause, stopped _ _⟩
    | unencodable given unpaired => exact absurd (reaches.vets.paired _ given) unpaired
    | unresolved vetsToo started unexpired failed =>
      obtain rfl := reaches.vets.eq vetsToo
      cases reaches.resolved.symm.trans failed

theorem execute_under_iff {settings : Settings} (accepted : (execute authenticator request).result = .ok verified)
    (stands : Token.Stands request.token bytes) :
    (execute (authenticator.under settings) request).result = .ok other ↔
      other = verified ∧ settings.Permits bytes.length verified := by
  constructor
  · intro acceptedToo
    have same : other = verified := by
      rcases accepted_or_rejected accepted settings with again | ⟨cause, rejected⟩
      · exact Except.ok.inj (acceptedToo.symm.trans again)
      · cases acceptedToo.symm.trans rejected
    exact ⟨same, same ▸ permits_of_accepted acceptedToo stands⟩
  · intro permitted
    obtain ⟨rfl, permits⟩ := permitted
    exact accepted_of_permits accepted stands permits

/-- Settings that allow less accept less, and what they do accept is what would be accepted anyway, told in the same
words. What they no longer accept is rejected, and only for its length, its issuer's, its algorithm or its network. -/
theorem execute_narrower {narrow wide : Settings} (narrower : narrow.Narrower wide) (authenticator : Authenticator)
    (request : Request) :
    (∀ verified, (execute (authenticator.under narrow) request).result = .ok verified →
      (execute (authenticator.under wide) request).result = .ok verified) ∧
    (∀ verified bytes, (execute (authenticator.under wide) request).result = .ok verified →
      Token.Stands request.token bytes →
      (∀ other, (execute (authenticator.under narrow) request).result = .ok other ↔
        other = verified ∧ narrow.Permits bytes.length verified) ∧
      (¬narrow.Permits bytes.length verified →
        ∃ cause, (execute (authenticator.under narrow) request).result = .error (.rejected cause))) := by
  constructor
  · intro verified accepted
    obtain ⟨vetted, _, _, _, grounds, -⟩ := execute_grounds accepted
    obtain ⟨bytes, _, _, stands, -⟩ := Token.decode_ok_iff.1 grounds.vets.decoded
    have permits := permits_of_accepted accepted stands
    show (execute ((authenticator.under narrow).under wide) request).result = .ok verified
    exact accepted_of_permits accepted stands (permits.widen narrower)
  · intro verified bytes accepted stands
    have narrowed := accepted_or_rejected accepted narrow
    refine ⟨?_, ?_⟩
    · intro other
      show (execute ((authenticator.under wide).under narrow) request).result = .ok other ↔ _
      exact execute_under_iff accepted stands
    · intro unpermitted
      rcases narrowed with again | rejected
      · exact absurd (permits_of_accepted again stands) unpermitted
      · exact rejected

end Filter

open Statement

/-- Settings with no room for the name of the specimen's issuer. -/
def curt : Settings := { narrow with maxIssuerLength := 5, issuerRange := by decide }

theorem narrow_narrower : narrow.Narrower .widest where
  tokens := Nat.le_refl _
  issuers := by decide
  algorithms := fun algorithm _ => algorithm.mem_all
  network := .inr rfl

theorem curt_narrower : curt.Narrower .widest where
  tokens := Nat.le_refl _
  issuers := by decide
  algorithms := fun algorithm _ => algorithm.mem_all
  network := .inr rfl

/-- The specimen under settings that just permit it, and under settings that just do not. -/
theorem execute_narrower_specimen :
    (∃ verified, (execute (trusting.under narrow) (textCall [0x01])).result = .ok verified ∧
      (execute (trusting.under .widest) (textCall [0x01])).result = .ok verified) ∧
    ∃ cause, (execute (trusting.under curt) (textCall [0x01])).result = .error (.rejected cause) := by
  have form : Issuer.ofAnyForm (.text "org-42") = .ok ⟨Bytes.ofString "org-42", by decide⟩ :=
    Issuer.ofAnyForm_text (by decide)
  have started : ((specimen .hs256).iat : Int) ≤ 1000 := by decide
  have unexpired : (1000 : Int) < (specimen .hs256).exp := by decide
  have allowed : Algorithm.hs256 ∈ narrow.allowed := by decide
  have accepted := (specimen_sound_under allowed (by decide)).accepted (List.cons_ne_nil 0x01 []) (.text _)
    (specimen_short .hs256 (by decide)) form rfl started unexpired
    (rfl : ((textCall [0x01]).resolver <|> trusting.resolver) = _) rfl (rfl : (trusting.verifier _ _ _ _).result = _)
  have widened := (execute_narrower narrow_narrower trusting (textCall [0x01])).1 _ accepted
  refine ⟨⟨_, accepted, widened⟩, ?_⟩
  apply ((execute_narrower curt_narrower trusting (textCall [0x01])).2 _ _ widened (.text _)).2
  intro permits
  exact absurd permits.issuerShort (by decide)

end Authenticator

end Credential
