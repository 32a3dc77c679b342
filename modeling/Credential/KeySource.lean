import Credential.KeySet
import Credential.Settings

/-! Key sets fetched over HTTP. Two kinds of client differ in the statuses they take for failures and
in how they report a body that is not JSON; every failure is a fault of the key source all the same.
Nothing is kept: every load is a request. A body is read without limits on depth or digits, and no fault
is for these. -/

namespace Credential

structure Response where
  status : Int
  body : Bytes
  /-- The body cannot be read at all, whatever it holds. -/
  unreadable : Bool

/-- The response of each address; none is a failed connection. -/
abbrev Web := Text → Option Response

inductive Client where
  | blocking
  | concurrent
deriving DecidableEq

def Client.accepts : Client → Int → Bool
  | .blocking, status => !(400 ≤ status && status < 600)
  | .concurrent, status => 200 ≤ status && status < 300

/-- Closing a source closes the client it made itself, and leaves one it was given. -/
def Client.closedWith (ownsClient : Bool) : Bool := ownsClient

structure KeySource where
  client : Client
  timeout : Binary64

namespace KeySource

inductive Fault where
  | unreachable (address : Text)
  | notJson (address : Text)
  | noKeysAddress (address : Text)
  | keys (cause : KeySet.Fault)

/-- What a client says about a failure is not repeated: a star stands for it. -/
def Fault.message : Fault → Text
  | .unreachable address => "Failed to fetch " ++ address ++ ": *"
  | .notJson address => "Response from " ++ address ++ " is not JSON: *"
  | .noKeysAddress address => "OpenID configuration at " ++ address ++ " has no 'jwks_uri'"
  | .keys cause => cause.message

def ofSettings (client : Client) (settings : Settings) : KeySource := ⟨client, settings.timeout⟩

def defaultTimeout : Binary64 := .ofDecimal false 10 0

def body? (response : Response) : Option (Json Text) := do
  let text ← Json.Encoding.decode? response.body
  (Json.read .plain text).toOption

/-- A blocking client takes a body that is not JSON for a failed fetch. -/
def fetch (source : KeySource) (web : Web) (address : Text) : Run Event Fault (Json Text) := do
  Run.note (.requested address source.timeout)
  match web address with
  | none => Run.fail (.unreachable address)
  | some response =>
    if !source.client.accepts response.status then Run.fail (.unreachable address)
    else if response.unreadable then Run.fail (.notJson address)
    else match body? response with
      | some body => pure body
      | none => Run.fail (match source.client with
        | .blocking => .unreachable address
        | .concurrent => .notJson address)

def load (source : KeySource) (web : Web) (enabled : Bool) (address : Text) : Run Event Fault KeySet := do
  let body ← source.fetch web address
  let keySet ← Run.mapFault .keys (KeySet.ofJson enabled body)
  Run.note (.keysLoaded keySet.size address)
  pure keySet

/-- The address of the key set that a configuration names. -/
def keysAddress? : Json Text → Option Text
  | .object members => Key.filled? (Key.field members "jwks_uri")
  | _ => none

def loadFromConfiguration (source : KeySource) (web : Web) (enabled : Bool) (address : Text) :
    Run Event Fault KeySet := do
  let configuration ← source.fetch web address
  match keysAddress? configuration with
  | none => Run.fail (.noKeysAddress address)
  | some keysAddress => source.load web enabled keysAddress

end KeySource

end Credential
