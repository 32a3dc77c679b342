import Credential.Event
import Credential.Json.Encoding
import Credential.Json.Reading

/-! The keys one issuer publishes, in document order. A disabled set resolves no key at all. A document
is read without limits on depth or digits, so none of the faults is for these. -/

namespace Credential

structure KeySet where
  keys : List Key
  enabled : Bool
deriving DecidableEq

namespace KeySet

inductive Fault where
  | notJson
  | badShape
  | badKey (cause : Key.Fault)
  | duplicateKid (kid : Text)

/-- Where a text breaks the rules of JSON is not said: a star stands for it. -/
def Fault.message : Fault → Text
  | .notJson => "JWKS document is not valid JSON: *"
  | .badShape => "JWKS document must be an object with a 'keys' list"
  | .badKey cause => cause.message
  | .duplicateKid kid => "Duplicate kid " ++ kid.quoted ++ " in key set"

/-- No two keys of one kid. -/
def ofKeys (keys : List Key) (enabled : Bool) : Except Fault KeySet :=
  match Assoc.repeated? [] (keys.map (·.kid)) with
  | some kid => .error (.duplicateKid kid)
  | none => .ok ⟨keys, enabled⟩

/-- An object is for signatures unless its `use` says otherwise. -/
def isKept : Json Text → Bool
  | .object record =>
    match Key.field record "use" with
    | .null => true
    | .string use => use = Text.ofString "sig"
    | _ => false
  | _ => true

def skipNote : Json Text → Event
  | .object record => .keySkipped (Key.field record "kid") (Key.field record "use")
  | record => .keySkipped .null record

def readKeys : List (Json Text) → Run Event Fault (List Key)
  | [] => pure []
  | record :: rest =>
    if isKept record then do
      let key ← Run.mapFault .badKey (Run.ofExcept (Key.ofRecord record))
      let keys ← readKeys rest
      pure (key :: keys)
    else do
      Run.note (skipNote record)
      readKeys rest

def ofDocument (enabled : Bool) (document : Json Text) : Run Event Fault KeySet :=
  match document with
  | .object members =>
    match Key.field members "keys" with
    | .array records => do
      let keys ← readKeys records
      Run.ofExcept (ofKeys keys enabled)
    | _ => Run.fail .badShape
  | _ => Run.fail .badShape

def ofText (enabled : Bool) (text : Text) : Run Event Fault KeySet :=
  match Json.read .plain text with
  | .ok document => ofDocument enabled document
  | .error _ => Run.fail .notJson

def ofBytes (enabled : Bool) (bytes : Bytes) : Run Event Fault KeySet :=
  match Json.Encoding.decode? bytes with
  | some text => ofText enabled text
  | none => Run.fail .notJson

/-- A document that is a JSON string is read once more, as the text it holds. -/
def ofJson (enabled : Bool) : Json Text → Run Event Fault KeySet
  | .string text => ofText enabled text
  | document => ofDocument enabled document

def get? (keySet : KeySet) (kid : Text) : Option Key :=
  if keySet.enabled then keySet.keys.find? (·.kid = kid) else none

def size (keySet : KeySet) : Nat := keySet.keys.length

end KeySet

end Credential
