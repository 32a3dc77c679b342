import Credential.Binding
import Credential.Proofs.Addresses
import Credential.Proofs.Hex32

/-! What a `jti` stands for. A hash starts with a zero, which is no symbol of an address, so no text has both forms and
it does not matter which is looked for first. The network expected is asked of an address alone. -/

namespace Credential

open Rejection

/-- What has the form of a hash holds a symbol that no address has. -/
theorem Hex32.Spelled.refused {text : String} (spelled : Spelled text.toList) : Ss58.Refused text .notBase58 := by
  obtain ⟨symbols, written, -⟩ := spelled
  exact .notBase58 (.inr ⟨'0', written ▸ List.mem_cons_self, by decide⟩)

theorem Hex32.parse?_eq_none_iff {text : List Char} : parse? text = none ↔ ¬Spelled text := by
  rw [spelled_iff, not_exists]
  exact Option.eq_none_iff_forall_ne_some

namespace Binding

/-- What a text stands for: the hash it spells, or the key whose address it is. -/
inductive Denotes (jti : String) : Binding → Prop
  | methodHash {bytes : Bytes} (spelled : Hex32.Spelled jti.toList)
      (written : Hex32.render bytes = jti.toList.map Char.toLower) : Denotes jti (.methodHash bytes)
  | sessionKey {key : SessionKey} (own : key.address = jti) (addressed : Ss58.Addressed key) :
      Denotes jti (.sessionKey key)

def Sized : Binding → Prop
  | .methodHash bytes => bytes.length = 32
  | .sessionKey key => key.publicKey.length = 32 ∧ key.network < 16384

def On (expected : Int) : Binding → Prop
  | .methodHash _ => True
  | .sessionKey key => (key.network : Int) = expected

/-- The other order: an address is looked for first. -/
def addressFirst (jti : String) : Except ClaimFault Binding :=
  match Ss58.decode jti with
  | .ok key => .ok (.sessionKey key)
  | .error cause =>
    match Hex32.parse? jti.toList with
    | some bytes => .ok (.methodHash bytes)
    | none => .error (.unknownBinding cause)

section Denotes

variable {jti : String} {binding : Binding} {network : Option Int}

theorem ofJti_of_parsed {bytes : Bytes} (parsed : Hex32.parse? jti.toList = some bytes) :
    ofJti network jti = .ok (.methodHash bytes) := by
  rw [ofJti, parsed]

theorem ofJti_of_unspelled (unspelled : ¬Hex32.Spelled jti.toList) :
    ofJti none jti = ((Ss58.decode jti).map sessionKey).mapError .unknownBinding := by
  rw [ofJti, Hex32.parse?_eq_none_iff.2 unspelled]
  cases Ss58.decode jti with
  | error cause => rfl
  | ok key => rfl

theorem ofJti_none_iff : ofJti none jti = .ok binding ↔ Denotes jti binding := by
  by_cases spelled : Hex32.Spelled jti.toList
  · obtain ⟨bytes, parsed⟩ := Hex32.spelled_iff.1 spelled
    have written := (Hex32.parse?_eq_some_iff.1 parsed).2
    rw [ofJti_of_parsed parsed, Except.ok.injEq]
    constructor
    · rintro rfl
      exact .methodHash spelled written
    · intro denotes
      cases denotes with
      | methodHash _ writtenToo =>
        cases parsed.symm.trans (Hex32.parse?_eq_some_iff.2 ⟨spelled, writtenToo⟩)
        rfl
      | sessionKey own addressed =>
        have decoded := Ss58.decode_ok_iff.2 ⟨own, addressed⟩
        rw [spelled.refused.decode] at decoded
        cases decoded
  · rw [ofJti_of_unspelled spelled]
    constructor
    · intro tied
      cases decoded : Ss58.decode jti with
      | error cause =>
        rw [decoded] at tied
        cases tied
      | ok key =>
        rw [decoded] at tied
        cases tied
        obtain ⟨own, addressed⟩ := Ss58.decode_ok_iff.1 decoded
        exact .sessionKey own addressed
    · intro denotes
      cases denotes with
      | methodHash spelledToo => exact absurd spelledToo spelled
      | sessionKey own addressed =>
        rw [Ss58.decode_ok_iff.2 ⟨own, addressed⟩]
        rfl

theorem ofJti_ok_iff : ofJti network jti = .ok binding ↔
    ofJti none jti = .ok binding ∧ ∀ expected ∈ network, binding.On expected := by
  unfold ofJti
  cases Hex32.parse? jti.toList with
  | some bytes =>
    constructor
    · intro hashed
      cases hashed
      exact ⟨rfl, fun _ _ => trivial⟩
    · exact fun parts => parts.1
  | none =>
    cases Ss58.decode jti with
    | error cause => simp
    | ok key =>
      have unopposed : network.filter (· ≠ (key.network : Int)) = none ↔
          ∀ expected ∈ network, (sessionKey key).On expected := by
        rw [Option.filter_eq_none_iff]
        apply forall₂_congr
        intro expected _
        rw [decide_eq_true_eq, not_not, eq_comm, On]
      constructor
      · intro tied
        dsimp only at tied
        split at tied
        · cases tied
        next fits =>
          cases tied
          exact ⟨rfl, unopposed.1 fits⟩
      · rintro ⟨same, fits⟩
        cases same
        simp only [unopposed.2 fits]

/-- A network is only ever a reason to refuse an address. -/
theorem ofJti_unpinned (tied : ofJti network jti = .ok binding) : ofJti none jti = .ok binding := (ofJti_ok_iff.1 tied).1

theorem jti_ne_empty (tied : ofJti network jti = .ok binding) : jti ≠ "" := by
  rintro rfl
  cases ofJti_none_iff.1 (ofJti_unpinned tied) with
  | methodHash spelled =>
    obtain ⟨symbols, written, -⟩ := spelled
    cases written
  | sessionKey own addressed =>
    have refused : Ss58.Refused "" .notBase58 := .notBase58 (.inl rfl)
    have decoded := Ss58.decode_ok_iff.2 ⟨own, addressed⟩
    rw [refused.decode] at decoded
    cases decoded

theorem ofJti_error {fault : ClaimFault} (refused : ofJti network jti = .error fault) : fault.claim = "jti" := by
  unfold ofJti at refused
  split at refused
  · cases refused
  · split at refused
    · cases refused
      rfl
    · split at refused
      · cases refused
        rfl
      · cases refused

theorem Denotes.sized (denotes : Denotes jti binding) : binding.Sized := by
  cases denotes with
  | methodHash spelled written => exact spelled.length_eq written
  | sessionKey own addressed =>
    obtain ⟨sized, within, -⟩ := Ss58.addressed_iff.1 addressed
    exact ⟨sized, within⟩

theorem exists_denotes_iff :
    (∃ binding, Denotes jti binding) ↔ Hex32.Spelled jti.toList ∨ ∃ key, Ss58.decode jti = .ok key := by
  constructor
  · rintro ⟨binding, denotes⟩
    cases denotes with
    | methodHash spelled => exact .inl spelled
    | sessionKey own addressed => exact .inr ⟨_, Ss58.decode_ok_iff.2 ⟨own, addressed⟩⟩
  · rintro (spelled | ⟨key, decoded⟩)
    · obtain ⟨bytes, parsed⟩ := Hex32.spelled_iff.1 spelled
      exact ⟨_, .methodHash spelled (Hex32.parse?_eq_some_iff.1 parsed).2⟩
    · obtain ⟨own, addressed⟩ := Ss58.decode_ok_iff.1 decoded
      exact ⟨_, .sessionKey own addressed⟩

theorem ofJti_eq_addressFirst (jti : String) : ofJti none jti = addressFirst jti := by
  by_cases spelled : Hex32.Spelled jti.toList
  · obtain ⟨bytes, parsed⟩ := Hex32.spelled_iff.1 spelled
    rw [ofJti_of_parsed parsed, addressFirst, spelled.refused.decode]
    simp only [parsed]
  · rw [ofJti_of_unspelled spelled, addressFirst]
    cases Ss58.decode jti with
    | ok key => rfl
    | error cause =>
      simp only [Hex32.parse?_eq_none_iff.2 spelled]
      rfl

theorem ofJti_eq_iff {other : String} (spelled : Hex32.Spelled jti.toList) (spelledToo : Hex32.Spelled other.toList) :
    ofJti none jti = ofJti none other ↔ jti.toList.map Char.toLower = other.toList.map Char.toLower := by
  obtain ⟨bytes, parsed⟩ := Hex32.spelled_iff.1 spelled
  obtain ⟨octets, parsedToo⟩ := Hex32.spelled_iff.1 spelledToo
  have written := (Hex32.parse?_eq_some_iff.1 parsed).2
  have writtenToo := (Hex32.parse?_eq_some_iff.1 parsedToo).2
  rw [ofJti_of_parsed parsed, ofJti_of_parsed parsedToo]
  constructor
  · intro same
    cases same
    rw [← written, ← writtenToo]
  · intro same
    have parsedAlike := Hex32.parse?_eq_some_iff.2 ⟨spelledToo, written.trans same⟩
    cases parsedAlike.symm.trans parsedToo
    rfl

end Denotes

/-- A text stands for a hash, for a session key, or for nothing, whichever is looked for first. A network expected
refuses the keys on other networks and nothing else, each failure is one of the `jti`, and of a hash the letter case
does not count. -/
theorem ofJti_partition (jti : String) :
    (¬(Hex32.Spelled jti.toList ∧ ∃ key, Ss58.decode jti = .ok key) ∧ ofJti none jti = addressFirst jti) ∧
    ((∃ binding, ofJti none jti = .ok binding) ↔ Hex32.Spelled jti.toList ∨ ∃ key, Ss58.decode jti = .ok key) ∧
    (∀ binding, ofJti none jti = .ok binding ↔ Denotes jti binding) ∧
    (∀ binding, Denotes jti binding → binding.Sized) ∧
    (∀ expected binding, ofJti (some expected) jti = .ok binding ↔
      ofJti none jti = .ok binding ∧ binding.On expected) ∧
    (∀ network fault, ofJti network jti = .error fault →
      (Rejection.invalidClaim fault).kind = .invalidClaim ∧ (Rejection.invalidClaim fault).claim? = some "jti") ∧
    ∀ other, Hex32.Spelled jti.toList → Hex32.Spelled other.toList →
      (ofJti none jti = ofJti none other ↔ jti.toList.map Char.toLower = other.toList.map Char.toLower) := by
  refine ⟨⟨?_, ofJti_eq_addressFirst jti⟩, ?_, fun _ => ofJti_none_iff, fun _ => Denotes.sized, ?_, ?_, ?_⟩
  · rintro ⟨spelled, key, decoded⟩
    rw [spelled.refused.decode] at decoded
    cases decoded
  · simp only [ofJti_none_iff]
    exact exists_denotes_iff
  · intro expected binding
    rw [ofJti_ok_iff]
    simp
  · intro network fault refused
    exact ⟨rfl, congrArg some (ofJti_error refused)⟩
  · intro other
    exact ofJti_eq_iff

/-- A hash in two letter cases, and an address where its network is expected and where another is. -/
theorem ofJti_partition_specimen :
    ofJti none (String.ofList ('0' :: 'x' :: List.replicate 64 'A')) =
      ofJti none (String.ofList ('0' :: 'x' :: List.replicate 64 'a')) ∧
    ofJti (some 42) Ss58.plain = .ok (.sessionKey ⟨Ss58.plain, Ss58.specimen, 42⟩) ∧
    ∃ fault, ofJti (some 0) Ss58.plain = .error fault ∧ (Rejection.invalidClaim fault).kind = .invalidClaim ∧
      (Rejection.invalidClaim fault).claim? = some "jti" := by
  have spelled : ∀ c, Hex.isDigit c = true →
      Hex32.Spelled (String.ofList ('0' :: 'x' :: List.replicate 64 c)).toList := by
    intro c digit
    rw [String.toList_ofList]
    refine ⟨_, rfl, List.length_replicate, ?_⟩
    intro other member
    rw [List.eq_of_mem_replicate member]
    exact digit
  obtain ⟨-, -, -, -, -, -, cased⟩ := ofJti_partition (String.ofList ('0' :: 'x' :: List.replicate 64 'A'))
  obtain ⟨-, -, denotes, -, pinned, failed, -⟩ := ofJti_partition Ss58.plain
  obtain ⟨own, addressed⟩ := Ss58.decode_ok_iff.1 Ss58.decode_plain
  have tied := (denotes _).2 (.sessionKey own addressed)
  refine ⟨(cased _ (spelled 'A' rfl) (spelled 'a' rfl)).2 (by simp), (pinned 42 _).2 ⟨tied, rfl⟩, ?_⟩
  cases elsewhere : ofJti (some 0) Ss58.plain with
  | error fault => exact ⟨fault, rfl, failed _ _ elsewhere⟩
  | ok binding =>
    obtain ⟨tiedToo, fits⟩ := (pinned 0 binding).1 elsewhere
    cases tied.symm.trans tiedToo
    cases fits

end Binding

end Credential
