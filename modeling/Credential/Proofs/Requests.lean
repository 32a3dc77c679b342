import Credential.Proofs.KeySet
import Credential.Proofs.Loading

/-! What a load asks for, and how it ends. One request decides a load, two a load by way of a configuration, and the
second is made only for an address that the answer to the first has named. However a request goes wrong, in the
connection, in the status or in the body, it ends as a fault of the key source. -/

namespace Credential

/-- What a client takes a body that is not JSON for. -/
def Client.blames : Client → Text → KeySource.Fault
  | .blocking, address => .unreachable address
  | .concurrent, address => .notJson address

namespace KeySource

/-- Why a client is shown no document at an address. -/
inductive Withheld (client : Client) (web : Web) (address : Text) : Fault → Prop
  | unanswered (silent : web address = none) : Withheld client web address (.unreachable address)
  | refused {response : Response} (answered : web address = some response)
      (refused : client.accepts response.status = false) : Withheld client web address (.unreachable address)
  | unreadable {response : Response} (answered : web address = some response)
      (accepted : client.accepts response.status = true) (unreadable : response.unreadable = true) :
      Withheld client web address (.notJson address)
  | garbled {response : Response} (answered : web address = some response)
      (accepted : client.accepts response.status = true) (readable : response.unreadable = false)
      (garbled : body? response = none) : Withheld client web address (client.blames address)

def Fails (client : Client) (web : Web) (enabled : Bool) (address : Text) (fault : Fault) : Prop :=
  Withheld client web address fault ∨ ∃ document cause, Shows client web address document ∧
    (KeySet.ofJson enabled document).result = .error cause ∧ fault = .keys cause

def Names (configuration : Json Text) (keysAddress : Text) : Prop :=
  configuration.member? (Text.ofString "jwks_uri") = some (.string keysAddress) ∧ keysAddress ≠ []

variable {source : KeySource} {web : Web} {address keysAddress : Text} {enabled : Bool} {fault : Fault}
  {configuration : Json Text}

theorem Withheld.fetch (withheld : Withheld source.client web address fault) :
    (source.fetch web address).result = .error fault := by
  unfold KeySource.fetch
  rw [Run.result_bind, Run.result_note]
  cases withheld with
  | unanswered silent => simp only [silent]; rfl
  | refused answered refused => simp only [answered, refused]; rfl
  | unreadable answered accepted unreadable => simp only [answered, accepted, unreadable]; rfl
  | garbled answered accepted readable garbled =>
    simp only [answered, accepted, readable, garbled]
    cases source.client <;> rfl

theorem shown_or_withheld (client : Client) (web : Web) (address : Text) :
    (∃ document, Shows client web address document) ∨ ∃ fault, Withheld client web address fault := by
  cases answered : web address with
  | none => exact .inr ⟨_, .unanswered answered⟩
  | some response =>
    cases accepted : client.accepts response.status with
    | false => exact .inr ⟨_, .refused answered accepted⟩
    | true =>
      cases readable : response.unreadable with
      | true => exact .inr ⟨_, .unreadable answered accepted readable⟩
      | false =>
        cases read : body? response with
        | none => exact .inr ⟨_, .garbled answered accepted readable read⟩
        | some document => exact .inl ⟨document, response, answered, accepted, readable, read⟩

theorem fetch_error_iff :
    (source.fetch web address).result = .error fault ↔ Withheld source.client web address fault := by
  refine ⟨?_, Withheld.fetch⟩
  intro failed
  rcases shown_or_withheld source.client web address with ⟨document, shown⟩ | ⟨other, withheld⟩
  · cases failed.symm.trans (fetch_ok_iff.2 shown)
  · cases failed.symm.trans withheld.fetch
    exact withheld

theorem result_load (source : KeySource) (web : Web) (enabled : Bool) (address : Text) :
    (source.load web enabled address).result = (do
      let document ← (source.fetch web address).result
      (KeySet.ofJson enabled document).result.mapError .keys) := by
  simp only [load, Run.result_bind, Run.result_note, Run.result_pure]
  apply congrArg
  funext document
  unfold Run.mapFault
  cases (KeySet.ofJson enabled document).result <;> rfl

theorem load_error_iff :
    (source.load web enabled address).result = .error fault ↔ Fails source.client web enabled address fault := by
  simp only [result_load, Result.bind_error_iff, fetch_error_iff, fetch_ok_iff, Result.mapError_error_iff, Fails,
    exists_and_left]

theorem keysAddress?_eq_some_iff : keysAddress? configuration = some keysAddress ↔ Names configuration keysAddress := by
  unfold keysAddress? Names
  split
  next members =>
    have given : Json.string keysAddress ≠ .null := nofun
    rw [Key.filled?_eq_some_iff, Key.field_eq_iff given]
    rfl
  next other =>
    refine ⟨nofun, ?_⟩
    intro ⟨named, _⟩
    unfold Json.member? at named
    split at named
    next members => exact absurd rfl (other members)
    next => cases named

theorem result_loadFromConfiguration (source : KeySource) (web : Web) (enabled : Bool) (address : Text) :
    (source.loadFromConfiguration web enabled address).result = (do
      let configuration ← (source.fetch web address).result
      match keysAddress? configuration with
      | none => .error (.noKeysAddress address)
      | some keysAddress => (source.load web enabled keysAddress).result) := by
  unfold loadFromConfiguration
  rw [Run.result_bind]
  apply congrArg
  funext configuration
  cases keysAddress? configuration <;> rfl

def Unnamed (client : Client) (web : Web) (address : Text) : Prop :=
  ∀ configuration keysAddress, Shows client web address configuration → ¬Names configuration keysAddress

theorem Unnamed.keysAddress? (unnamed : Unnamed source.client web address)
    (shown : Shows source.client web address configuration) : KeySource.keysAddress? configuration = none := by
  apply Option.eq_none_iff_forall_ne_some.2
  intro keysAddress named
  exact unnamed configuration keysAddress shown (keysAddress?_eq_some_iff.1 named)

theorem requests_unnamed (unnamed : Unnamed source.client web address) (enabled : Bool) :
    (source.loadFromConfiguration web enabled address).requests = [(address, source.timeout)] := by
  unfold loadFromConfiguration
  rw [Run.requests_bind, requests_fetch]
  split
  next configuration fetched =>
    rw [unnamed.keysAddress? (fetch_ok_iff.1 fetched)]
    rfl
  · rfl

theorem result_unnamed (unnamed : Unnamed source.client web address) (enabled : Bool) :
    ∃ fault, (source.loadFromConfiguration web enabled address).result = .error fault ∧
      (Withheld source.client web address fault ∨ fault = .noKeysAddress address) := by
  rw [result_loadFromConfiguration]
  rcases shown_or_withheld source.client web address with ⟨configuration, shown⟩ | ⟨fault, withheld⟩
  · refine ⟨.noKeysAddress address, ?_, .inr rfl⟩
    simp only [fetch_ok_iff.2 shown, Bind.bind, Except.bind, unnamed.keysAddress? shown]
  · refine ⟨fault, ?_, .inl withheld⟩
    rw [withheld.fetch]
    rfl

theorem result_named (shown : Shows source.client web address configuration) (named : Names configuration keysAddress)
    (enabled : Bool) :
    (source.loadFromConfiguration web enabled address).result = (source.load web enabled keysAddress).result := by
  simp only [result_loadFromConfiguration, fetch_ok_iff.2 shown, Bind.bind, Except.bind,
    keysAddress?_eq_some_iff.2 named]

theorem timed_follow (source : KeySource) (route : Route) (web : Web) (enabled : Bool) (address : Text) :
    ∀ request ∈ (source.follow route web enabled address).requests, request.2 = source.timeout := by
  have once : ∀ place : Text, ∀ request ∈ [(place, source.timeout)], request.2 = source.timeout := by
    intro place request member
    rw [List.mem_singleton.1 member]
  cases route with
  | direct =>
    unfold follow
    rw [requests_load]
    exact once address
  | discovery =>
    unfold follow
    by_cases unnamed : Unnamed source.client web address
    · rw [requests_unnamed unnamed]
      exact once address
    · unfold Unnamed at unnamed
      simp only [not_forall, not_not] at unnamed
      obtain ⟨configuration, keysAddress, shown, named⟩ := unnamed
      rw [requests_loadFromConfiguration shown (keysAddress?_eq_some_iff.2 named), List.forall_mem_cons]
      exact ⟨rfl, once keysAddress⟩

/-- A load is one request and what it shows read as a key set. By way of a configuration there is a second request just
if an object was shown that names the address of the keys, and from there on it is the load of that address. Else it
ends with the first request, and whatever goes wrong, in either, is a fault of the source. -/
theorem load_in_two_requests (source : KeySource) (web : Web) (enabled : Bool) (address : Text) :
    (source.load web enabled address).requests = [(address, source.timeout)] ∧
    (∀ keySet, (source.load web enabled address).result = .ok keySet ↔ ∃ document,
      Shows source.client web address document ∧ (KeySet.ofJson enabled document).result = .ok keySet) ∧
    (∀ fault, (source.load web enabled address).result = .error fault ↔
      Fails source.client web enabled address fault) ∧
    (Unnamed source.client web address →
      (source.loadFromConfiguration web enabled address).requests = [(address, source.timeout)] ∧
      ∃ fault, (source.loadFromConfiguration web enabled address).result = .error fault ∧
        (Withheld source.client web address fault ∨ fault = .noKeysAddress address)) ∧
    (∀ configuration keysAddress, Shows source.client web address configuration → Names configuration keysAddress →
      (source.loadFromConfiguration web enabled address).requests =
        [(address, source.timeout), (keysAddress, source.timeout)] ∧
      (source.loadFromConfiguration web enabled address).result = (source.load web enabled keysAddress).result) ∧
    ∀ client settings route, ∀ request ∈ ((ofSettings client settings).follow route web enabled address).requests,
      request.2 = settings.timeout := by
  refine ⟨requests_load source web enabled address, fun _ => load_ok_iff, fun _ => load_error_iff, ?_, ?_, ?_⟩
  · intro unnamed
    exact ⟨requests_unnamed unnamed enabled, result_unnamed unnamed enabled⟩
  · intro configuration keysAddress shown named
    refine ⟨?_, result_named shown named enabled⟩
    exact requests_loadFromConfiguration shown (keysAddress?_eq_some_iff.2 named)
  · intro client settings route
    exact timed_follow (ofSettings client settings) route web enabled address

def place : Text := Text.ofString "/c"

/-- Every address answers with a configuration that names this one. -/
def circular : Web := fun _ => some ⟨200, Bytes.ofString "\x7b\"jwks_uri\":\"/c\"\x7d", false⟩

/-- A configuration that names itself is asked for twice, and one that is not there once. -/
theorem load_in_two_requests_specimen :
    (loadFromConfiguration ⟨.concurrent, defaultTimeout⟩ circular true place).requests =
      [(place, defaultTimeout), (place, defaultTimeout)] ∧
    (loadFromConfiguration ⟨.concurrent, defaultTimeout⟩ circular true place).result = .error (.keys .badShape) ∧
    (loadFromConfiguration ⟨.blocking, defaultTimeout⟩ (fun _ => none) true place).requests =
      [(place, defaultTimeout)] := by
  obtain ⟨-, -, fails, -, named, -⟩ := load_in_two_requests ⟨.concurrent, defaultTimeout⟩ circular true place
  obtain ⟨-, -, -, unnamed, -⟩ := load_in_two_requests ⟨.blocking, defaultTimeout⟩ (fun _ => none) true place
  have shown : Shows .concurrent circular place (.object [(Text.ofString "jwks_uri", .string place)]) :=
    ⟨_, rfl, rfl, rfl, rfl⟩
  have names : Names (.object [(Text.ofString "jwks_uri", .string place)]) place := ⟨rfl, nofun⟩
  have failed := (fails (.keys .badShape)).2 (.inr ⟨_, .badShape, shown, rfl, rfl⟩)
  obtain ⟨twice, same⟩ := named _ _ shown names
  have silent : Unnamed .blocking (fun _ => none) place := by
    intro configuration keysAddress ⟨response, answered, _⟩
    cases answered
  exact ⟨twice, same.trans failed, (unnamed silent).1⟩

end KeySource

end Credential
