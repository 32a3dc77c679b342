import Credential.Proofs.InformationFlow
import Credential.Proofs.Provenance
import Credential.Proofs.Snapshots

/-! What a change of the registry changes. Of all updates of a registry only the last that concerns the issuer of
a call counts, and of that only the key it has for the token. Without such a key no token of the issuer is
accepted any more, and every call that would have failed before a key was looked up fails as it did. -/

namespace Credential

namespace Registry

variable {registry updated : Registry}

/-- The last of the updates about an issuer, whichever form it is given in. -/
def lastFor? (updates : List Update) (given : Argument) : Option Update :=
  (updates.filter (·.issuer.octets? = given.octets?)).getLast?

theorem lastFor?_append (updates : List Update) (update : Update) (given : Argument) :
    lastFor? (updates ++ [update]) given =
      if update.issuer.octets? = given.octets? then some update else lastFor? updates given := by
  by_cases same : update.issuer.octets? = given.octets? <;> simp [lastFor?, List.filter_append, same]

def Update.key? (update : Update) (kid : Text) : Option Key := update.keySet?.bind (·.get? kid)

def Update.Withholds (update : Update) (kid : Text) : Prop :=
  match update with
  | .put _ keySet => keySet.enabled = false ∨ ∀ key ∈ keySet.keys, key.kid ≠ kid
  | .erase _ => True

theorem Update.Withholds.key? {update : Update} {kid : Text} (withholds : update.Withholds kid) : update.key? kid = none := by
  cases update with
  | put given keySet => exact KeySet.get?_eq_none_iff.2 withholds
  | erase given => rfl

theorem resolve_apply {update : Update} (done : registry.apply update = .ok updated) (name : Bytes) (kid : Text) :
    updated.resolve name kid =
      if update.issuer.octets? = some name then update.key? kid else registry.resolve name kid := by
  obtain ⟨written, writes, rfl⟩ := apply_ok_iff.1 done
  obtain ⟨own, named, rfl⟩ := Option.map_eq_some_iff.1 writes
  obtain ⟨octets, -⟩ := Argument.name?_some_iff.1 named
  rw [resolve, keySetAt?_write, octets]
  by_cases same : own = name
  · rw [if_pos same, if_pos (congrArg some same)]
    rfl
  · rw [if_neg same, if_neg fun other => same (Option.some.inj other)]
    rfl

theorem resolve_applyAll {updates : List Update} (done : registry.applyAll updates = .ok updated) {given : Argument}
    {name : Bytes} (named : given.octets? = some name) (kid : Text) :
    updated.resolve name kid =
      match lastFor? updates given with
      | some update => update.key? kid
      | none => registry.resolve name kid := by
  induction updates using List.reverseRecOn generalizing updated with
  | nil =>
    cases done
    rfl
  | append_singleton updates update ih =>
    rw [applyAll, List.foldlM_append] at done
    obtain ⟨before, earlier, done⟩ := Result.bind_ok_iff.1 done
    obtain ⟨after, done, same⟩ := Result.bind_ok_iff.1 done
    cases same
    rw [resolve_apply done, lastFor?_append, named, ih earlier]
    split
    · rfl
    · rfl

end Registry

namespace Authenticator

open Rejection

/-- A verification with a registry in place of whatever was given for one. -/
def against (authenticator : Authenticator) (request : Request) (registry : Registry) : Run Event Fault Outcome :=
  verify authenticator { request with resolver := some registry.resolver }

variable {authenticator : Authenticator} {request : Request} {registry updated : Registry}

def callAgainst (authenticator : Authenticator) (request : Request) (registry : Registry) {time : Int}
    {intrinsic : Intrinsic} (timed : request.time = some time) (supplied : request.intrinsic = some intrinsic) :
    Call authenticator.settings request.token request.issuer time where
  authenticator := authenticator
  request := { request with resolver := some registry.resolver }
  resolver := registry.resolver
  intrinsic := intrinsic
  configured := rfl
  shown := rfl
  named := rfl
  timed := timed
  found := rfl
  supplied := supplied

/-- A call with all its parts, for a token that is well-formed and in its time, comes as far as its key. -/
structure Admits (authenticator : Authenticator) (request : Request) (vetted : Vetted) : Prop where
  vets : Vets authenticator.settings request.token request.issuer vetted
  timely : ∃ time, request.time = some time ∧ (vetted.claims.iat : Int) ≤ time ∧ time < vetted.claims.exp
  supplied : request.intrinsic.isSome

theorem against_of_unadmitted (unadmitted : ∀ vetted, ¬Admits authenticator request vetted) (first second : Registry) :
    against authenticator request first = against authenticator request second := by
  cases timed : request.time with
  | none =>
    unfold against verify execute
    rw [timed]
    rfl
  | some time =>
    cases supplied : request.intrinsic with
    | none =>
      unfold against verify execute
      rw [timed, supplied]
      rfl
    | some intrinsic =>
      cases screened : screen authenticator.settings request.token request.issuer time with
      | error fault =>
        have ends := Call.run_of_screen_error screened (callAgainst authenticator request first timed supplied)
        exact ends.trans (Call.run_of_screen_error screened (callAgainst authenticator request second timed supplied)).symm
      | ok vetted =>
        obtain ⟨vets, timely⟩ := screen_ok_iff.1 screened
        exact absurd ⟨vets, ⟨time, timed, timely⟩, Option.isSome_of_eq_some supplied⟩ (unadmitted vetted)

theorem Vets.octets {settings : Settings} {token issuer : Argument} {vetted : Vetted}
    (vets : Vets settings token issuer vetted) : issuer.octets? = some vetted.issuer.bytes :=
  Issuer.ofAnyForm_ok_iff.1 (Issuer.parse_ok_iff.1 vets.parsed).1

namespace Admits

variable {vetted : Vetted}

theorem against_eq (admits : Admits authenticator request vetted) {first second : Registry}
    (same : first.resolve vetted.issuer.bytes (Text.ofString vetted.token.header.kid) =
      second.resolve vetted.issuer.bytes (Text.ofString vetted.token.header.kid)) :
    against authenticator request first = against authenticator request second := by
  obtain ⟨time, timed, timely⟩ := admits.timely
  obtain ⟨intrinsic, supplied⟩ := Option.isSome_iff_exists.1 admits.supplied
  have screened := screen_ok_iff.2 ⟨admits.vets, timely⟩
  have one := Call.run_eq (callAgainst authenticator request first timed supplied)
  have two := Call.run_eq (callAgainst authenticator request second timed supplied)
  rw [screened] at one two
  refine one.trans (Eq.trans ?_ two.symm)
  have keys : keyOf first.resolver vetted = keyOf second.resolver vetted := by
    unfold keyOf Registry.resolver
    rw [same]
  simp only [callAgainst, keys]
  rfl

theorem against_keyless (admits : Admits authenticator request vetted)
    (keyless : registry.resolve vetted.issuer.bytes (Text.ofString vetted.token.header.kid) = none) :
    against authenticator request registry =
      Call.refusal (.unknownKey vetted.token.header.kid vetted.issuer) := by
  obtain ⟨time, timed, timely⟩ := admits.timely
  obtain ⟨intrinsic, supplied⟩ := Option.isSome_iff_exists.1 admits.supplied
  have missing : keyOf registry.resolver vetted =
      .error (.rejected (.unknownKey vetted.token.header.kid vetted.issuer)) :=
    keyOf_error_iff.2 (.inr ⟨congrArg Except.ok keyless, rfl⟩)
  exact Call.run_of_keyOf_error (screen_ok_iff.2 ⟨admits.vets, timely⟩)
    (callAgainst authenticator request registry timed supplied) missing

end Admits

theorem admits_of_accepted {verified : Verified}
    (accepted : (against authenticator request registry).result = .ok (.verified verified)) :
    ∃ vetted, Admits authenticator request vetted := by
  obtain ⟨_, time, intrinsic, -, timed, supplied, accepted⟩ := execute_ok_iff.1 (settle_verified_iff.1 accepted)
  obtain ⟨vetted, key, reaches, -⟩ := stages_ok_iff.1 accepted
  exact ⟨vetted, reaches.vets, ⟨time, timed, reaches.started, reaches.unexpired⟩, Option.isSome_of_eq_some supplied⟩

/-- Two registries that have the same key for a call end it alike. A call that comes to no key ends alike anyway. -/
theorem against_congr {first second : Registry} (same : ∀ vetted, Admits authenticator request vetted →
      first.resolve vetted.issuer.bytes (Text.ofString vetted.token.header.kid) =
        second.resolve vetted.issuer.bytes (Text.ofString vetted.token.header.kid)) :
    against authenticator request first = against authenticator request second := by
  by_cases admitted : ∃ vetted, Admits authenticator request vetted
  · obtain ⟨vetted, admits⟩ := admitted
    exact admits.against_eq (same vetted admits)
  · exact against_of_unadmitted (fun vetted admits => admitted ⟨vetted, admits⟩) first second

theorem not_accepted_of_keyless (keyless : ∀ vetted, Admits authenticator request vetted →
      registry.resolve vetted.issuer.bytes (Text.ofString vetted.token.header.kid) = none) (verified : Verified) :
    (against authenticator request registry).result ≠ .ok (.verified verified) := by
  intro accepted
  obtain ⟨vetted, admits⟩ := admits_of_accepted accepted
  rw [admits.against_keyless (keyless vetted admits)] at accepted
  cases accepted

/-- After any updates a call ends, down to its journal, as it did before, unless one of them is about its issuer. Of
those the last decides: if it leaves the key that there was, the call ends as before, and if it leaves none, the call
is refused for want of a key, or fails as before if it does not come so far. -/
theorem against_updates {updates : List Registry.Update} (done : registry.applyAll updates = .ok updated) :
    match Registry.lastFor? updates request.issuer with
    | none => against authenticator request updated = against authenticator request registry
    | some update =>
      ((∀ token, Token.decode authenticator.settings.maxTokenLength request.token = .ok token →
          ∀ name, request.issuer.octets? = some name →
          update.key? (Text.ofString token.header.kid) = registry.resolve name (Text.ofString token.header.kid)) →
        against authenticator request updated = against authenticator request registry) ∧
      ((∀ token, Token.decode authenticator.settings.maxTokenLength request.token = .ok token →
          update.Withholds (Text.ofString token.header.kid)) →
        (∀ verified, (against authenticator request updated).result ≠ .ok (.verified verified)) ∧
        (∀ vetted, Admits authenticator request vetted → ∃ failure, failure.code = "unknown_key" ∧
          (against authenticator request updated).result = .ok (.failed failure)) ∧
        ((∀ vetted, ¬Admits authenticator request vetted) →
          against authenticator request updated = against authenticator request registry)) := by
  have resolved : ∀ vetted, Admits authenticator request vetted → ∀ kid,
      updated.resolve vetted.issuer.bytes kid = match Registry.lastFor? updates request.issuer with
        | some update => update.key? kid
        | none => registry.resolve vetted.issuer.bytes kid :=
    fun vetted admits kid => Registry.resolve_applyAll done admits.vets.octets kid
  cases last : Registry.lastFor? updates request.issuer with
  | none =>
    simp only [last] at resolved
    apply against_congr
    intro vetted admits
    exact resolved vetted admits _
  | some update =>
    simp only [last] at resolved
    refine ⟨?_, ?_⟩
    · intro kept
      apply against_congr
      intro vetted admits
      rw [resolved vetted admits]
      exact kept vetted.token admits.vets.decoded _ admits.vets.octets
    · intro withholds
      have keyless : ∀ vetted, Admits authenticator request vetted →
          updated.resolve vetted.issuer.bytes (Text.ofString vetted.token.header.kid) = none := by
        intro vetted admits
        rw [resolved vetted admits]
        exact (withholds vetted.token admits.vets.decoded).key?
      refine ⟨not_accepted_of_keyless keyless, ?_, fun unadmitted => against_of_unadmitted unadmitted updated registry⟩
      intro vetted admits
      rw [admits.against_keyless (keyless vetted admits)]
      exact ⟨_, rfl, rfl⟩

open Statement

def small : Registry := ⟨[(Bytes.ofString "org-42", ⟨[key "k1" [0x02]], true⟩)]⟩

/-- The key of old stands beside another one. -/
def rotated : KeySet := ⟨[key "k2" [0x03], key "k1" [0x02]], true⟩

/-- The issuer is removed, comes back, and has company. -/
def rotation : List Registry.Update :=
  [.erase (.text "org-42"), .put (.text "org-42") rotated, .put (.text "org-43") ⟨[], true⟩]

/-- It still has its keys, but in a set that is disabled. -/
def suspension : List Registry.Update :=
  rotation ++ [.put (.bytes (Bytes.ofString "org-42")) { rotated with enabled := false }]

theorem against_updates_specimen : ∃ after suspended,
    small.applyAll rotation = .ok after ∧ small.applyAll suspension = .ok suspended ∧
      against trusting (textCall [0x01]) after = against trusting (textCall [0x01]) small ∧
      ∃ failure, failure.code = "unknown_key" ∧
        (against trusting (textCall [0x01]) suspended).result = .ok (.failed failure) := by
  have form : Issuer.ofAnyForm (.text "org-42") = .ok ⟨Bytes.ofString "org-42", by decide⟩ :=
    Issuer.ofAnyForm_text (by decide)
  have vets := (specimen_sound .hs256).vets (List.cons_ne_nil 0x01 []) (.text _) (specimen_short .hs256 (by decide)) form
    rfl
  have admits : Admits trusting (textCall [0x01]) _ := ⟨vets, ⟨1000, rfl, by decide, by decide⟩, rfl⟩
  have kid : ∀ token, Token.decode trusting.settings.maxTokenLength (textCall [0x01]).token = .ok token →
      token.header.kid = "k1" := by
    intro token decoded
    cases vets.decoded.symm.trans decoded
    rfl
  refine ⟨_, _, rfl, rfl, ?_, ?_⟩
  · have kept := (@against_updates trusting (textCall [0x01]) small _ rotation rfl).1
    apply kept
    intro token decoded name named
    cases named
    rw [kid token decoded]
    have left : (Registry.Update.put (.text "org-42") rotated).key? (Text.ofString "k1") = some (key "k1" [0x02]) := rfl
    exact left.trans rfl
  · have withheld := (@against_updates trusting (textCall [0x01]) small _ suspension rfl).2 fun _ _ => .inl rfl
    exact withheld.2.1 _ admits

end Authenticator

end Credential
