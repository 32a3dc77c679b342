import Credential.Proofs.Provenance

/-! A token is good for one attempt. Whoever gets the same token accepted for two attempts holds two inputs of
the digest that it does not tell apart, and both stand in the derivation of those attempts. -/

namespace Credential

namespace Intrinsic

structure Collide (first second : Bytes) : Prop where
  distinct : first ≠ second
  same : digest first = digest second

theorem contextInput_inj {first second : Purpose} (same : contextInput first = contextInput second) :
    first = second := by
  have names := Bytes.ofString_inj.1 (List.append_cancel_left same)
  cases first <;> cases second <;> first | rfl | exact absurd names (by decide)

/-- Every digest has one length, so no value can begin where another's context ends. -/
theorem challengeInput_inj {first second : Intrinsic} (same : first.challengeInput = second.challengeInput) :
    digest (contextInput first.purpose) = digest (contextInput second.purpose) ∧ first.value = second.value := by
  have lengths : (digest (contextInput first.purpose)).length = (digest (contextInput second.purpose)).length := by
    rw [length_digest, length_digest]
  unfold challengeInput at same
  rw [List.append_assoc, List.append_assoc] at same
  exact List.append_inj (List.append_cancel_left same) lengths

theorem eq_or_collide_of_derive_eq {first second : Intrinsic} (same : first.derive = second.derive) :
    (first.value = second.value ∧ first.purpose = second.purpose) ∨
      Collide (contextInput first.purpose) (contextInput second.purpose) ∨
      Collide first.challengeInput second.challengeInput := by
  unfold derive at same
  obtain ⟨challenges, contexts⟩ := ChallengePair.mk.inj same
  by_cases purposes : first.purpose = second.purpose
  · by_cases values : first.value = second.value
    · exact .inl ⟨values, purposes⟩
    · exact .inr (.inr ⟨fun inputs => values (challengeInput_inj inputs).2, challenges⟩)
  · exact .inr (.inl ⟨fun inputs => purposes (contextInput_inj inputs), contexts⟩)

end Intrinsic

theorem Token.SignedAs.transfer {given other : Argument} {signed signature : Bytes}
    (signedAs : SignedAs given signed signature) (same : octets given = octets other) :
    SignedAs other signed signature := by
  obtain ⟨third, stands, clear, read⟩ := signedAs
  refine ⟨third, octets_ok_iff.1 ?_, clear, read⟩
  rw [← same]
  exact octets_ok_iff.2 stands

namespace Authenticator

variable {first second : Authenticator} {request again : Request} {verified other : Verified}
  {intrinsic another : Intrinsic}

/-- A token that is accepted for two attempts claims the one pair that both derive. -/
theorem derive_eq_of_accepted {signed one two : Bytes} (accepted : (execute first request).result = .ok verified)
    (acceptedToo : (execute second again).result = .ok other) (signedAs : Token.SignedAs request.token signed one)
    (signedToo : Token.SignedAs again.token signed two) (supplied : request.intrinsic = some intrinsic)
    (suppliedToo : again.intrinsic = some another) : intrinsic.derive = another.derive := by
  obtain ⟨vetted, _, _, _, grounds, -⟩ := execute_grounds accepted
  obtain ⟨twin, _, _, _, groundsToo, -⟩ := execute_grounds acceptedToo
  cases supplied.symm.trans grounds.supplied
  cases suppliedToo.symm.trans groundsToo.supplied
  obtain ⟨header, payload⟩ := Token.decode_agree grounds.vets.decoded groundsToo.vets.decoded signedAs signedToo
  obtain ⟨claims, -⟩ := grounds.vets.agree groundsToo.vets header payload
  calc intrinsic.derive = vetted.claims.challenge := grounds.bound.symm
    _ = twin.claims.challenge := by rw [claims]
    _ = another.derive := groundsToo.bound

/-- No token is accepted for two attempts unless the digest collides on what the attempts are derived from. -/
theorem execute_replay_collides (accepted : (execute first request).result = .ok verified)
    (acceptedToo : (execute second again).result = .ok other)
    (same : Token.octets request.token = Token.octets again.token) (supplied : request.intrinsic = some intrinsic)
    (suppliedToo : again.intrinsic = some another) :
    (intrinsic.value = another.value ∧ intrinsic.purpose = another.purpose) ∨
      Intrinsic.Collide (Intrinsic.contextInput intrinsic.purpose) (Intrinsic.contextInput another.purpose) ∨
      Intrinsic.Collide intrinsic.challengeInput another.challengeInput := by
  obtain ⟨vetted, _, _, _, grounds, -⟩ := execute_grounds accepted
  have signedAs := (Token.signedAs_iff grounds.vets.decoded).2 ⟨rfl, rfl⟩
  exact Intrinsic.eq_or_collide_of_derive_eq
    (derive_eq_of_accepted accepted acceptedToo signedAs (signedAs.transfer same) supplied suppliedToo)

/-- The same octets, handed over in two forms and accepted on different terms, for one attempt. -/
theorem execute_replay_specimen : (∃ verified, (execute trusting (textCall [0x01])).result = .ok verified) ∧
    (∃ other, (execute (wary [0x01]) (octetCall [0x01])).result = .ok other) ∧
    ∃ intrinsic another, (textCall [0x01]).intrinsic = some intrinsic ∧ (octetCall [0x01]).intrinsic = some another ∧
      ((intrinsic.value = another.value ∧ intrinsic.purpose = another.purpose) ∨
        Intrinsic.Collide (Intrinsic.contextInput intrinsic.purpose) (Intrinsic.contextInput another.purpose) ∨
        Intrinsic.Collide intrinsic.challengeInput another.challengeInput) := by
  have given : ([0x01] : Bytes) ≠ [] := List.cons_ne_nil _ _
  obtain ⟨verified, accepted⟩ := trusting_accepts given (by decide)
  obtain ⟨other, acceptedToo⟩ := wary_accepts given (by decide)
  have same : Token.octets (textCall [0x01]).token = Token.octets (octetCall [0x01]).token :=
    (Token.octets_ok_iff.2 (.text _)).trans (Token.octets_ok_iff.2 (.bytes _)).symm
  exact ⟨⟨verified, accepted⟩, ⟨other, acceptedToo⟩, _, _, rfl, rfl,
    execute_replay_collides accepted acceptedToo same rfl rfl⟩

end Authenticator

end Credential
