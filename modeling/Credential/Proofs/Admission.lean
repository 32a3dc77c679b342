import Credential.Proofs.Faults
import Credential.Proofs.InformationFlow

/-! Which key may be used with which algorithm. The header of a token names its algorithm, and whoever made the
token wrote the header, so the key has to say what it is good for. Its family, its curve and its pin decide, before
anything is made of its other members, and whatever was signed. -/

namespace Credential

/-- No curve is shared. -/
theorem Algorithm.eq_of_mem_curves {first second : Algorithm} {crv : String} (one : crv ∈ first.curves)
    (two : crv ∈ second.curves) : first = second := by
  cases first <;> simp only [curves, List.mem_cons, List.not_mem_nil, or_false] at one
  all_goals cases second <;> grind [curves]

namespace Key

theorem Material.curve?_isSome_iff {material : Material} :
    material.curve?.isSome = true ↔ material.family = .ec ∨ material.family = .okp := by
  cases material <;> simp [curve?, family]

theorem family_eq (key : Key) : key.family = key.material.family := rfl

/-- A key that may be used with an algorithm. Not every key is on a curve, and not every key is pinned. -/
structure Suits (key : Key) (algorithm : Algorithm) : Prop where
  family : key.family = algorithm.family
  curve : ∀ crv, key.material.curve? = some crv → crv ∈ algorithm.curves.map Text.ofString
  pin : ∀ pin, key.pin = some pin → pin = Text.ofString algorithm.name

theorem admission_ok_iff {key : Key} {algorithm : Algorithm} :
    key.admission algorithm = .ok () ↔ key.Suits algorithm := by
  unfold admission
  constructor
  · intro admitted
    split at admitted
    · cases admitted
    next family =>
      split at admitted
      · cases admitted
      next curve =>
        split at admitted
        · cases admitted
        next pin =>
          refine ⟨Decidable.not_not.1 family, ?_, ?_⟩
          · intro crv found
            apply Decidable.not_not.1
            intro foreign
            rw [found, Option.filter_some, if_pos (decide_eq_true foreign)] at curve
            cases curve
          · intro pinned found
            apply Decidable.not_not.1
            intro other
            rw [found, Option.filter_some, if_pos (decide_eq_true other)] at pin
            cases pin
  · intro suits
    have curve : key.material.curve?.filter (fun crv => crv ∉ algorithm.curves.map Text.ofString) = none := by
      apply Option.filter_eq_none_iff.2
      intro crv found foreign
      exact of_decide_eq_true foreign (suits.curve crv found)
    have pin : key.pin.filter (· ≠ Text.ofString algorithm.name) = none := by
      apply Option.filter_eq_none_iff.2
      intro pinned found other
      exact of_decide_eq_true other (suits.pin pinned found)
    rw [if_neg (Decidable.not_not.2 suits.family), curve, pin]

namespace Suits

variable {key : Key} {first second : Algorithm}

/-- A key on a curve is for the one algorithm of that curve, and other keys for those of their family. -/
theorem interchangeable (one : key.Suits first) (two : key.Suits second) :
    (first.family = .rsa ∧ second.family = .rsa) ∨ (first.family = .oct ∧ second.family = .oct) ∨ first = second := by
  have families := one.family.symm.trans two.family
  cases found : key.material.curve? with
  | none =>
    have bare : ¬(key.family = .ec ∨ key.family = .okp) := by
      rw [family_eq, ← Material.curve?_isSome_iff, found]
      exact Bool.false_ne_true
    rw [← two.family, ← one.family]
    cases family : key.family with
    | rsa => exact .inl ⟨rfl, rfl⟩
    | ec => exact absurd (.inl family) bare
    | okp => exact absurd (.inr family) bare
    | oct => exact .inr (.inl ⟨rfl, rfl⟩)
  | some crv =>
    obtain ⟨name, own, spelled⟩ := List.mem_map.1 (one.curve crv found)
    obtain ⟨other, foreign, spelledToo⟩ := List.mem_map.1 (two.curve crv found)
    obtain rfl := Text.ofString_inj.1 (spelled.trans spelledToo.symm)
    exact .inr (.inr (Algorithm.eq_of_mem_curves own foreign))

end Suits

theorem not_suits_iff {key : Key} {algorithm : Algorithm} :
    ¬key.Suits algorithm ↔ key.family ≠ algorithm.family ∨
      ((algorithm.family = .ec ∨ algorithm.family = .okp) ∧
        ∀ crv ∈ algorithm.curves, key.material.curve? ≠ some (Text.ofString crv)) ∨
      ∃ pin, key.pin = some pin ∧ pin ≠ Text.ofString algorithm.name := by
  constructor
  · intro unsuited
    by_cases family : key.family = algorithm.family
    · by_cases pins : ∀ pin, key.pin = some pin → pin = Text.ofString algorithm.name
      · refine .inr (.inl ?_)
        have uncurved : ¬∀ crv, key.material.curve? = some crv → crv ∈ algorithm.curves.map Text.ofString :=
          fun curve => unsuited ⟨family, curve, pins⟩
        simp only [Classical.not_forall] at uncurved
        obtain ⟨crv, found, foreign⟩ := uncurved
        constructor
        · rw [← family, family_eq, ← Material.curve?_isSome_iff, found]
          rfl
        · intro name listed same
          cases found.symm.trans same
          exact foreign (List.mem_map_of_mem listed)
      · simp only [Classical.not_forall] at pins
        obtain ⟨pin, pinned, other⟩ := pins
        exact .inr (.inr ⟨pin, pinned, other⟩)
    · exact .inl family
  · rintro (family | ⟨curved, foreign⟩ | ⟨pin, pinned, other⟩) suits
    · exact family suits.family
    · rw [← suits.family, family_eq, ← Material.curve?_isSome_iff] at curved
      obtain ⟨crv, found⟩ := Option.isSome_iff_exists.1 curved
      obtain ⟨name, listed, same⟩ := List.mem_map.1 (suits.curve crv found)
      apply foreign name listed
      rw [found, same]
    · exact other (suits.pin pin pinned)

end Key

namespace Verifier

variable {algorithm : Algorithm} {key : Key} {signed signature : Bytes}

def Mismatches (algorithm : Algorithm) (key : Key) (signed signature : Bytes) : Prop :=
  ∃ cause, (standard algorithm key signed signature).result = .error (.rejected cause) ∧
    cause.kind = .algorithmKeyMismatch

theorem mismatches_iff : Mismatches algorithm key signed signature ↔ ¬key.Suits algorithm := by
  rw [← Key.admission_ok_iff]
  constructor
  · intro mismatches
    obtain ⟨cause, failed, kind⟩ := mismatches
    rcases standard_error_iff.1 failed with ⟨reason, refused, -⟩ | ⟨-, -, same⟩ | ⟨-, impossible⟩
    · rw [refused]
      exact fun admitted => by cases admitted
    · cases same
      cases kind
    · cases impossible
  · intro unsuited
    cases refused : key.admission algorithm with
    | ok _ => exact absurd refused unsuited
    | error reason => exact ⟨_, standard_error_iff.2 (.inl ⟨reason, refused, rfl⟩), rfl⟩

theorem standard_ok_iff {holds : Bool} : (standard algorithm key signed signature).result = .ok holds ↔
    key.Suits algorithm ∧ ∃ loaded, Key.load? key.material = some loaded ∧
      algorithm.check signed signature loaded = .ok holds := by
  rw [← Key.admission_ok_iff]
  cases admitted : key.admission algorithm with
  | error cause => simp [result_of_mismatch admitted]
  | ok _ =>
    cases loads : Key.load? key.material with
    | none => simp [result_of_unusable admitted loads]
    | some loaded => simp [result_of_loaded admitted loads]

theorem journal_of_confirmed (confirmed : (standard algorithm key signed signature).result = .ok true) :
    (standard algorithm key signed signature).journal = [] := by
  obtain ⟨suits, loaded, loads, checked⟩ := standard_ok_iff.1 confirmed
  simp only [standard, Key.admission_ok_iff.2 suits, loads, checked, Run.ofExcept_ok_bind]
  rfl

end Verifier

namespace Authenticator

section Checked

variable {verifier : Verifier} {settings : Settings} {vetted : Vetted} {key : Key} {intrinsic : Intrinsic}
  {verified : Verified}

theorem journal_checkSignature (confirmed : verdict verifier vetted key = .ok true) :
    (checkSignature verifier vetted key).journal =
      .consulted vetted.algorithm key (Bytes.ofString vetted.token.signingInput) vetted.token.signature ::
        (verifier vetted.algorithm key (Bytes.ofString vetted.token.signingInput) vetted.token.signature).journal := by
  have asked := Run.bind_ok (fun holds => if holds then pure () else Run.fail (.rejected .badSignature)) confirmed
  unfold checkSignature
  rw [Run.bind_ok _ (Run.result_note _), asked]
  simp [Run.note]

theorem journal_authenticate (remains : remaining verifier settings vetted key intrinsic = .ok verified) :
    (authenticate verifier settings vetted key intrinsic).journal =
      (checkSignature verifier vetted key).journal ++ [.accepted verified.issuer verified.kid] := by
  obtain ⟨_, checked, remains⟩ := Result.bind_ok_iff.1 remains
  obtain ⟨derived, bound, derivation⟩ := Result.bind_ok_iff.1 remains
  rw [authenticate, Run.bind_ok _ checked, Result.mapError_ok_iff.1 bound, step_ok,
    Result.mapError_ok_iff.1 derivation, step_ok]
  rfl

theorem consulted_of_accepted {authenticator : Authenticator} {request : Request}
    (standard : authenticator.verifier = .standard) (accepted : (execute authenticator request).result = .ok verified) :
    ∃ resolver key signed signature, (request.resolver <|> authenticator.resolver) = some resolver ∧
      resolver verified.issuer.bytes (Text.ofString verified.kid) = .ok (some key) ∧ key.Suits verified.algorithm ∧
      Token.SignedAs request.token signed signature ∧
      (Verifier.standard verified.algorithm key signed signature).result = .ok true ∧
      (execute authenticator request).journal =
        [.consulted verified.algorithm key signed signature, .accepted verified.issuer verified.kid] := by
  obtain ⟨resolver, time, intrinsic, found, timed, supplied, staged⟩ := execute_ok_iff.1 accepted
  rw [standard] at staged
  obtain ⟨vetted, key, reaches, remains⟩ := stages_ok_iff.1 staged
  have admitted := screen_ok_iff.2 ⟨reaches.vets, reaches.started, reaches.unexpired⟩
  have resolved := keyOf_ok_iff.2 reaches.resolved
  have noted : (execute authenticator request).journal =
      (authenticate .standard authenticator.settings vetted key intrinsic).journal := by
    rw [execute_given found timed supplied, standard, stages_eq, admitted]
    simp only [resolved]
  have journal := journal_authenticate remains
  obtain ⟨confirmed, -, authority, binding, -, -, rfl⟩ := remaining_ok_iff.1 remains
  rw [journal_checkSignature confirmed, Verifier.journal_of_confirmed confirmed] at journal
  exact ⟨resolver, key, _, _, found, reaches.resolved, (Verifier.standard_ok_iff.1 confirmed).1,
    (Token.signedAs_iff reaches.vets.decoded).2 ⟨rfl, rfl⟩, confirmed, noted.trans journal⟩

end Checked

/-- A key is refused for its family, its curve or its pin, and for nothing else, whatever its other members, the text
and the signature are. So the algorithms that one key is good for are interchangeable, a pinned key is good for one
at most, and whatever is accepted was checked under a key that suits its algorithm. -/
theorem key_decides_algorithm :
    (∀ (algorithm : Algorithm) (key : Key) (signed signature : Bytes),
      Verifier.Mismatches algorithm key signed signature ↔ key.family ≠ algorithm.family ∨
        ((algorithm.family = .ec ∨ algorithm.family = .okp) ∧
          ∀ crv ∈ algorithm.curves, key.material.curve? ≠ some (Text.ofString crv)) ∨
        ∃ pin, key.pin = some pin ∧ pin ≠ Text.ofString algorithm.name) ∧
    (∀ (algorithm : Algorithm) (key other : Key) (signed signature otherSigned otherSignature : Bytes),
      other.family = key.family → other.material.curve? = key.material.curve? → other.pin = key.pin →
      (Verifier.Mismatches algorithm other otherSigned otherSignature ↔
        Verifier.Mismatches algorithm key signed signature)) ∧
    (∀ (first second : Algorithm) (key : Key) (signed signature otherSigned otherSignature : Bytes),
      ¬Verifier.Mismatches first key signed signature → ¬Verifier.Mismatches second key otherSigned otherSignature →
      (first.family = .rsa ∧ second.family = .rsa) ∨ (first.family = .oct ∧ second.family = .oct) ∨ first = second) ∧
    (∀ (algorithm : Algorithm) (key : Key) (pin : Text) (signed signature : Bytes), key.pin = some pin →
      ¬Verifier.Mismatches algorithm key signed signature → pin = Text.ofString algorithm.name) ∧
    (∀ (authenticator : Authenticator) (request : Request) (verified : Verified), authenticator.verifier = .standard →
      (execute authenticator request).result = .ok verified →
      ∃ resolver key signed signature, (request.resolver <|> authenticator.resolver) = some resolver ∧
        resolver verified.issuer.bytes (Text.ofString verified.kid) = .ok (some key) ∧ key.Suits verified.algorithm ∧
        Token.SignedAs request.token signed signature ∧
        (Verifier.standard verified.algorithm key signed signature).result = .ok true ∧
        (execute authenticator request).journal =
          [.consulted verified.algorithm key signed signature, .accepted verified.issuer verified.kid]) := by
  refine ⟨?_, ?_, ?_, ?_, ?_⟩
  · intro algorithm key signed signature
    rw [Verifier.mismatches_iff, Key.not_suits_iff]
  · intro algorithm key other signed signature otherSigned otherSignature family curve pin
    rw [Verifier.mismatches_iff, Verifier.mismatches_iff, Key.not_suits_iff, Key.not_suits_iff, family, curve, pin]
  · intro first second key signed signature otherSigned otherSignature one two
    rw [Verifier.mismatches_iff, Classical.not_not] at one two
    exact one.interchangeable two
  · intro algorithm key pin signed signature pinned admitted
    rw [Verifier.mismatches_iff, Classical.not_not] at admitted
    exact admitted.pin pin pinned
  · intro authenticator request verified standard accepted
    exact consulted_of_accepted standard accepted

open Statement

def sharing : Authenticator where
  verifier := .standard
  resolver := some (Registry.mk [(Bytes.ofString "org-42", ⟨[key "k1" [0x01]], true⟩)]).resolver
  settings := .widest

def taggedCall : Request where
  token := .text ((specimen .hs256).token .escaped [0x01])
  issuer := .bytes (Bytes.ofString "org-42")
  intrinsic := some (specimen .hs256).intrinsic
  time := some 1500
  resolver := none

theorem specimen_token_short :
    (Bytes.ofString ((specimen .hs256).token .escaped [0x01])).length ≤ Settings.widest.maxTokenLength := by
  apply specimen_short .hs256
  rw [tag, Hash.length_hmac]
  decide

theorem sharing_accepts : ∃ verified, (execute sharing taggedCall).result = .ok verified := by
  have started : ((specimen .hs256).iat : Int) ≤ 1500 := by decide
  have unexpired : (1500 : Int) < (specimen .hs256).exp := by decide
  have found : (taggedCall.resolver <|> sharing.resolver) =
      some (Registry.mk [(Bytes.ofString "org-42", ⟨[key "k1" [0x01]], true⟩)]).resolver := rfl
  have resolved : (Registry.mk [(Bytes.ofString "org-42", ⟨[key "k1" [0x01]], true⟩)]).resolve
      (Bytes.ofString "org-42") (Text.ofString "k1") = some (key "k1" [0x01]) := by decide
  exact ⟨_, (specimen_sound .hs256).accepted_shared rfl (List.cons_ne_nil 0x01 [])
    (.text ((specimen .hs256).token .escaped [0x01])) specimen_token_short specimen_issuer rfl started unexpired found
    (congrArg Except.ok resolved)⟩

/-- A published modulus is no shared secret, and a shared secret is what the specimen is checked under. -/
theorem key_decides_algorithm_specimen :
    (∀ signed signature, Verifier.Mismatches .hs256 crampedKey signed signature) ∧
    ∃ verified key signed signature, (execute sharing taggedCall).result = .ok verified ∧
      key.Suits verified.algorithm ∧ (execute sharing taggedCall).journal =
        [.consulted verified.algorithm key signed signature, .accepted verified.issuer verified.kid] := by
  constructor
  · intro signed signature
    exact (key_decides_algorithm.1 .hs256 crampedKey signed signature).2 (.inl (by decide))
  · obtain ⟨verified, accepted⟩ := sharing_accepts
    obtain ⟨_, key, signed, signature, -, -, suits, -, -, journal⟩ :=
      key_decides_algorithm.2.2.2.2 sharing taggedCall verified rfl accepted
    exact ⟨verified, key, signed, signature, accepted, suits, journal⟩

end Authenticator

end Credential
