import Credential.KeySource
import Credential.Proofs.Result

/-! Two clients, one key set. What a load gives is what its document holds, and which document that is depends on the
client in one respect: which responses it takes for documents. The concurrent client takes those of success alone, the
blocking client all that are not failures, so they part on a status that is neither. -/

namespace Credential

def Event.request? : Event → Option (Text × Binary64)
  | .requested address timeout => some (address, timeout)
  | _ => none

namespace Result

/-- Both give the same, or both fail, with whatever cause. -/
inductive Agree {fault other value : Type} : Except fault value → Except other value → Prop
  | ok (found : value) : Agree (.ok found) (.ok found)
  | error (cause : fault) (reported : other) : Agree (.error cause) (.error reported)

theorem agree_iff {fault other value : Type} {one : Except fault value} {two : Except other value} :
    Agree one two ↔ ∀ found, one = .ok found ↔ two = .ok found := by
  constructor
  · intro agree found
    cases agree <;> simp
  · intro same
    cases one with
    | ok found =>
      rw [(same found).1 rfl]
      exact .ok found
    | error cause =>
      cases two with
      | ok found => cases (same found).2 rfl
      | error reported => exact .error cause reported

end Result

namespace Run

variable {event fault other value next : Type}

def requests (run : Run Event fault value) : List (Text × Binary64) := run.journal.filterMap Event.request?

theorem requests_bind (run : Run Event fault value) (following : value → Run Event fault next) :
    (run >>= following).requests = run.requests ++ match run.result with
      | .ok found => (following found).requests
      | .error _ => [] := by
  unfold requests
  cases found : run.result with
  | ok value =>
    rw [bind_ok following found]
    exact List.filterMap_append
  | error cause =>
    rw [bind_error following found]
    exact (List.append_nil _).symm

theorem requests_bind_nil {run : Run Event fault value} {following : value → Run Event fault next}
    (silent : run.requests = []) (later : ∀ found, (following found).requests = []) :
    (run >>= following).requests = [] := by
  rw [requests_bind, silent, List.nil_append]
  split
  · exact later _
  · rfl

theorem result_mapFault_ok_iff {change : fault → other} {run : Run event fault value} {found : value} :
    (mapFault change run).result = .ok found ↔ run.result = .ok found := by
  unfold mapFault
  cases run.result <;> simp

end Run

namespace KeySet

theorem requests_readKeys (records : List (Json Text)) : (readKeys records).requests = [] := by
  induction records with
  | nil => rfl
  | cons record rest ih =>
    unfold readKeys
    split
    · apply Run.requests_bind_nil rfl
      intro key
      apply Run.requests_bind_nil ih
      intro keys
      rfl
    · refine Run.requests_bind_nil ?_ fun _ => ih
      cases record <;> rfl

theorem requests_ofDocument (enabled : Bool) (document : Json Text) : (ofDocument enabled document).requests = [] := by
  unfold ofDocument
  split
  · split
    · exact Run.requests_bind_nil (requests_readKeys _) fun _ => rfl
    · rfl
  · rfl

theorem requests_ofJson (enabled : Bool) (document : Json Text) : (ofJson enabled document).requests = [] := by
  unfold ofJson
  split
  · unfold ofText
    split
    · exact requests_ofDocument enabled _
    · rfl
  · exact requests_ofDocument enabled _

end KeySet

def Response.Succeeds (response : Response) : Prop := 200 ≤ response.status ∧ response.status < 300

def Web.Succeeds (web : Web) (address : Text) : Prop := ∃ response, web address = some response ∧ response.Succeeds

/-- Every response tells success from failure: none redirects, informs or has a status beyond the standard ones. -/
def Web.Decisive (web : Web) : Prop :=
  ∀ address response, web address = some response → response.Succeeds ∨ 400 ≤ response.status ∧ response.status < 600

namespace Client

variable {response : Response}

theorem accepts_concurrent_iff : accepts .concurrent response.status = true ↔ response.Succeeds := by
  simp [accepts, Response.Succeeds]

theorem accepts_blocking_iff :
    accepts .blocking response.status = true ↔ ¬(400 ≤ response.status ∧ response.status < 600) := by
  simp only [accepts, Bool.not_eq_true', Bool.and_eq_false_iff, decide_eq_false_iff_not]
  omega

theorem blocking_accepts (succeeds : response.Succeeds) : accepts .blocking response.status = true := by
  apply accepts_blocking_iff.2
  intro failure
  exact absurd (Int.lt_of_lt_of_le succeeds.2 (by decide)) (Int.not_lt.2 failure.1)

end Client

namespace KeySource

/-- The client is shown a document at an address: there is a response that it accepts and that is JSON. -/
def Shows (client : Client) (web : Web) (address : Text) (document : Json Text) : Prop :=
  ∃ response, web address = some response ∧ client.accepts response.status = true ∧ response.unreadable = false ∧
    body? response = some document

variable {source : KeySource} {web : Web} {address : Text} {enabled : Bool} {document : Json Text} {keySet : KeySet}

theorem requests_fetch (source : KeySource) (web : Web) (address : Text) :
    (source.fetch web address).requests = [(address, source.timeout)] := by
  unfold fetch
  rw [Run.requests_bind]
  have answer : ∀ run : Run Event Fault (Json Text), run.requests = [] →
      (Run.note (.requested address source.timeout) : Run Event Fault Unit).requests ++ run.requests =
        [(address, source.timeout)] := by
    intro run silent
    rw [silent]
    rfl
  apply answer
  split
  · rfl
  · split
    · rfl
    · split
      · rfl
      · split
        · rfl
        · rfl

theorem fetch_ok_iff :
    (source.fetch web address).result = .ok document ↔ Shows source.client web address document := by
  unfold fetch Shows
  rw [Run.result_bind, Run.result_note]
  cases web address with
  | none => simp [Bind.bind, Except.bind]
  | some response =>
    cases accepted : source.client.accepts response.status with
    | false => simp [Bind.bind, Except.bind, accepted]
    | true =>
      cases unreadable : response.unreadable with
      | true => simp [Bind.bind, Except.bind, accepted, unreadable]
      | false =>
        cases read : body? response with
        | none => simp [Bind.bind, Except.bind, accepted, unreadable, read]
        | some body => simp [Bind.bind, Except.bind, accepted, unreadable, read]

theorem load_ok_iff : (source.load web enabled address).result = .ok keySet ↔
    ∃ document, Shows source.client web address document ∧ (KeySet.ofJson enabled document).result = .ok keySet := by
  unfold load
  rw [Run.result_bind, Result.bind_ok_iff]
  simp only [fetch_ok_iff, Run.result_bind, Run.result_note, Run.result_pure, Result.bind_ok_iff,
    Run.result_mapFault_ok_iff]
  constructor
  · intro loaded
    obtain ⟨document, shown, found, read, _, -, same⟩ := loaded
    cases same
    exact ⟨document, shown, read⟩
  · intro parts
    obtain ⟨document, shown, read⟩ := parts
    exact ⟨document, shown, keySet, read, (), trivial, rfl⟩

theorem requests_load (source : KeySource) (web : Web) (enabled : Bool) (address : Text) :
    (source.load web enabled address).requests = [(address, source.timeout)] := by
  unfold load
  rw [Run.requests_bind, requests_fetch]
  split
  next document fetched =>
    have silent : (Run.mapFault Fault.keys (KeySet.ofJson enabled document)).requests = [] :=
      KeySet.requests_ofJson enabled document
    exact congrArg ([(address, source.timeout)] ++ ·) (Run.requests_bind_nil silent fun _ => rfl)
  · rfl

theorem loadFromConfiguration_ok_iff : (source.loadFromConfiguration web enabled address).result = .ok keySet ↔
    ∃ configuration keysAddress, Shows source.client web address configuration ∧
      keysAddress? configuration = some keysAddress ∧ (source.load web enabled keysAddress).result = .ok keySet := by
  unfold loadFromConfiguration
  rw [Run.result_bind, Result.bind_ok_iff]
  constructor
  · intro loaded
    obtain ⟨configuration, fetched, loaded⟩ := loaded
    split at loaded
    · cases loaded
    next keysAddress named => exact ⟨configuration, keysAddress, fetch_ok_iff.1 fetched, named, loaded⟩
  · intro parts
    obtain ⟨configuration, keysAddress, shown, named, loaded⟩ := parts
    refine ⟨configuration, fetch_ok_iff.2 shown, ?_⟩
    simp only [named]
    exact loaded

theorem requests_loadFromConfiguration {configuration : Json Text} {keysAddress : Text}
    (shown : Shows source.client web address configuration) (named : keysAddress? configuration = some keysAddress) :
    (source.loadFromConfiguration web enabled address).requests =
      [(address, source.timeout), (keysAddress, source.timeout)] := by
  unfold loadFromConfiguration
  rw [Run.requests_bind, requests_fetch, fetch_ok_iff.2 shown]
  simp only [named, requests_load]
  rfl

/-- What the concurrent client is shown, the blocking one is too; the status alone decides the converse. -/
theorem shows_concurrent_iff :
    Shows .concurrent web address document ↔ Shows .blocking web address document ∧ web.Succeeds address := by
  constructor
  · intro shown
    obtain ⟨response, answered, accepted, readable, read⟩ := shown
    have succeeds := Client.accepts_concurrent_iff.1 accepted
    exact ⟨⟨response, answered, Client.blocking_accepts succeeds, readable, read⟩, response, answered, succeeds⟩
  · intro parts
    obtain ⟨⟨response, answered, -, readable, read⟩, other, same, succeeds⟩ := parts
    cases answered.symm.trans same
    exact ⟨response, answered, Client.accepts_concurrent_iff.2 succeeds, readable, read⟩

/-- Where the key set is named: by its own address, or in a configuration at the address. -/
inductive Route where
  | direct
  | discovery

def follow (source : KeySource) (route : Route) (web : Web) (enabled : Bool) (address : Text) : Run Event Fault KeySet :=
  match route with
  | .direct => source.load web enabled address
  | .discovery => source.loadFromConfiguration web enabled address

variable {route : Route} {patience other : Binary64}

def Granted (web : Web) (run : Run Event Fault KeySet) : Prop := ∀ request ∈ run.requests, web.Succeeds request.1

theorem load_concurrent_ok_iff : (load ⟨.concurrent, other⟩ web enabled address).result = .ok keySet ↔
    (load ⟨.blocking, patience⟩ web enabled address).result = .ok keySet ∧ web.Succeeds address := by
  simp only [load_ok_iff, shows_concurrent_iff]
  constructor
  · intro loaded
    obtain ⟨document, ⟨shown, succeeds⟩, read⟩ := loaded
    exact ⟨⟨document, shown, read⟩, succeeds⟩
  · intro parts
    obtain ⟨⟨document, shown, read⟩, succeeds⟩ := parts
    exact ⟨document, ⟨shown, succeeds⟩, read⟩

theorem granted_load_iff : Granted web (source.load web enabled address) ↔ web.Succeeds address := by
  unfold Granted
  rw [requests_load]
  exact List.forall_mem_singleton

theorem granted_loadFromConfiguration_iff {configuration : Json Text} {keysAddress : Text}
    (shown : Shows source.client web address configuration) (named : keysAddress? configuration = some keysAddress) :
    Granted web (source.loadFromConfiguration web enabled address) ↔
      web.Succeeds address ∧ web.Succeeds keysAddress := by
  unfold Granted
  rw [requests_loadFromConfiguration shown named, List.forall_mem_cons, List.forall_mem_singleton]

theorem loadFromConfiguration_concurrent_ok_iff :
    (loadFromConfiguration ⟨.concurrent, other⟩ web enabled address).result = .ok keySet ↔
      (loadFromConfiguration ⟨.blocking, patience⟩ web enabled address).result = .ok keySet ∧
        Granted web (loadFromConfiguration ⟨.blocking, patience⟩ web enabled address) := by
  constructor
  · intro loaded
    obtain ⟨configuration, keysAddress, shown, named, loaded⟩ := loadFromConfiguration_ok_iff.1 loaded
    obtain ⟨shown, found⟩ := shows_concurrent_iff.1 shown
    obtain ⟨loaded, succeeds⟩ : (load ⟨.blocking, patience⟩ web enabled keysAddress).result = .ok keySet ∧
        web.Succeeds keysAddress := load_concurrent_ok_iff.1 loaded
    exact ⟨loadFromConfiguration_ok_iff.2 ⟨configuration, keysAddress, shown, named, loaded⟩,
      (granted_loadFromConfiguration_iff shown named).2 ⟨found, succeeds⟩⟩
  · intro parts
    obtain ⟨loaded, granted⟩ := parts
    obtain ⟨configuration, keysAddress, shown, named, loaded⟩ := loadFromConfiguration_ok_iff.1 loaded
    obtain ⟨found, succeeds⟩ := (granted_loadFromConfiguration_iff shown named).1 granted
    refine loadFromConfiguration_ok_iff.2 ⟨configuration, keysAddress, shows_concurrent_iff.2 ⟨shown, found⟩, named, ?_⟩
    exact load_concurrent_ok_iff.2 ⟨loaded, succeeds⟩

theorem follow_concurrent_ok_iff : (follow ⟨.concurrent, other⟩ route web enabled address).result = .ok keySet ↔
    (follow ⟨.blocking, patience⟩ route web enabled address).result = .ok keySet ∧
      Granted web (follow ⟨.blocking, patience⟩ route web enabled address) := by
  cases route with
  | direct =>
    unfold follow
    rw [granted_load_iff]
    exact load_concurrent_ok_iff
  | discovery => exact loadFromConfiguration_concurrent_ok_iff

theorem succeeds_of_shows (decisive : web.Decisive) (shown : Shows .blocking web address document) :
    web.Succeeds address := by
  obtain ⟨response, answered, accepted, -, -⟩ := shown
  rcases decisive address response answered with succeeds | failure
  · exact ⟨response, answered, succeeds⟩
  · exact absurd failure (Client.accepts_blocking_iff.1 accepted)

theorem granted_of_decisive (decisive : web.Decisive)
    (loaded : (follow ⟨.blocking, patience⟩ route web enabled address).result = .ok keySet) :
    Granted web (follow ⟨.blocking, patience⟩ route web enabled address) := by
  cases route with
  | direct =>
    obtain ⟨document, shown, -⟩ := load_ok_iff.1 loaded
    exact granted_load_iff.2 (succeeds_of_shows decisive shown)
  | discovery =>
    obtain ⟨configuration, keysAddress, shown, named, loaded⟩ := loadFromConfiguration_ok_iff.1 loaded
    obtain ⟨document, served, -⟩ := load_ok_iff.1 loaded
    exact (granted_loadFromConfiguration_iff shown named).2
      ⟨succeeds_of_shows decisive shown, succeeds_of_shows decisive served⟩

/-- The concurrent client loads what the blocking one does where each of the requests was answered with success. So the
two agree wherever every response tells success from failure, and on no load that a response in between was part of. -/
theorem clients_agree_iff (route : Route) (web : Web) (enabled : Bool) (address : Text) (patience other : Binary64) :
    (∀ keySet, (follow ⟨.concurrent, other⟩ route web enabled address).result = .ok keySet ↔
      (follow ⟨.blocking, patience⟩ route web enabled address).result = .ok keySet ∧
        Granted web (follow ⟨.blocking, patience⟩ route web enabled address)) ∧
    (Result.Agree (follow ⟨.blocking, patience⟩ route web enabled address).result
        (follow ⟨.concurrent, other⟩ route web enabled address).result ↔
      ∀ keySet, (follow ⟨.blocking, patience⟩ route web enabled address).result = .ok keySet →
        Granted web (follow ⟨.blocking, patience⟩ route web enabled address)) ∧
    (web.Decisive → Result.Agree (follow ⟨.blocking, patience⟩ route web enabled address).result
      (follow ⟨.concurrent, other⟩ route web enabled address).result) := by
  have agree : Result.Agree (follow ⟨.blocking, patience⟩ route web enabled address).result
      (follow ⟨.concurrent, other⟩ route web enabled address).result ↔
      ∀ keySet, (follow ⟨.blocking, patience⟩ route web enabled address).result = .ok keySet →
        Granted web (follow ⟨.blocking, patience⟩ route web enabled address) := by
    rw [Result.agree_iff]
    constructor
    · intro same keySet loaded
      exact (follow_concurrent_ok_iff.1 ((same keySet).1 loaded)).2
    · intro granted keySet
      constructor
      · intro loaded
        exact follow_concurrent_ok_iff.2 ⟨loaded, granted keySet loaded⟩
      · intro loaded
        exact (follow_concurrent_ok_iff.1 loaded).1
  refine ⟨fun _ => follow_concurrent_ok_iff, agree, ?_⟩
  intro decisive
  exact agree.2 fun _ loaded => granted_of_decisive decisive loaded

/-- An empty key set under a status that is neither of success nor of failure. -/
def elsewhere : Web := fun _ => some ⟨300, Bytes.ofString "\x7b\"keys\":[]\x7d", false⟩

theorem clients_disagree :
    (follow ⟨.blocking, defaultTimeout⟩ .direct elsewhere true "https://issuer.example/jwks.json").result =
      .ok (KeySet.mk [] true) ∧
    (follow ⟨.concurrent, defaultTimeout⟩ .direct elsewhere true "https://issuer.example/jwks.json").result =
      .error (.unreachable "https://issuer.example/jwks.json") ∧
    ¬Result.Agree
      (follow ⟨.blocking, defaultTimeout⟩ .direct elsewhere true "https://issuer.example/jwks.json").result
      (follow ⟨.concurrent, defaultTimeout⟩ .direct elsewhere true "https://issuer.example/jwks.json").result := by
  have loaded : (follow ⟨.blocking, defaultTimeout⟩ .direct elsewhere true "https://issuer.example/jwks.json").result =
      .ok (KeySet.mk [] true) := by rfl
  have refused :
      (follow ⟨.concurrent, defaultTimeout⟩ .direct elsewhere true "https://issuer.example/jwks.json").result =
        .error (.unreachable "https://issuer.example/jwks.json") := by rfl
  refine ⟨loaded, refused, ?_⟩
  rw [loaded, refused]
  intro agree
  cases agree

end KeySource

end Credential
