import Credential.KeySet

/-! A snapshot of the issuers known and their key sets. Every change gives a new snapshot; an
issuer whose set is replaced keeps its place, one that is removed and added again goes last. -/

namespace Credential

structure Registry where
  entries : Assoc Bytes KeySet
deriving DecidableEq

namespace Registry

/-- The octets an issuer is registered under, whatever form it is given in. -/
def nameOf (given : Argument) : Except Issuer.Fault Bytes := do
  .ok (← Issuer.parse Issuer.lengthLimit given).bytes

def ofPairs (pairs : List (Argument × KeySet)) : Except Issuer.Fault Registry := do
  let named ← pairs.mapM fun (given, keySet) => do .ok (← nameOf given, keySet)
  .ok ⟨Assoc.ofList named⟩

inductive DocumentFault where
  | keys (cause : KeySet.Fault)
  | issuer (cause : Issuer.Fault)

/-- Whether two names are given in the same form and with the same octets. -/
def sameName : Argument → Argument → Bool
  | .text first, .text second => first = second
  | .bytes first, .bytes second => first = second
  | .issuer first, .issuer second => first = second
  | _, _ => false

/-- Of several entries under the same name only the last counts, in the place of the first. -/
def putEntry {value : Type} (entry : Argument × value) : List (Argument × value) → List (Argument × value)
  | [] => [entry]
  | old :: rest =>
    if sameName old.1 entry.1 then (old.1, entry.2) :: rest else old :: putEntry entry rest

/-- What a mapping holds of the entries it is made of. -/
def distinct {value : Type} (entries : List (Argument × value)) : List (Argument × value) :=
  entries.foldl (fun kept entry => putEntry entry kept) []

def readDocuments : List (Argument × Json Text) → Run Event KeySet.Fault (List (Argument × KeySet))
  | [] => pure []
  | (name, document) :: rest => do
    let keySet ← KeySet.ofJson true document
    let keySets ← readDocuments rest
    pure ((name, keySet) :: keySets)

/-- All documents are read before any name is. -/
def ofDocuments (documents : List (Argument × Json Text)) : Run Event DocumentFault Registry := do
  let keySets ← Run.mapFault .keys (readDocuments (distinct documents))
  Run.mapFault .issuer (Run.ofExcept (ofPairs keySets))

def keySetAt? (registry : Registry) (name : Bytes) : Option KeySet := Assoc.get? name registry.entries

def resolve (registry : Registry) (issuer : Bytes) (kid : Text) : Option Key :=
  (registry.keySetAt? issuer).bind (·.get? kid)

def keySet? (registry : Registry) (given : Argument) : Except Issuer.Fault (Option KeySet) := do
  .ok (registry.keySetAt? (← nameOf given))

def withKeySet (registry : Registry) (given : Argument) (keySet : KeySet) : Except Issuer.Fault Registry := do
  .ok ⟨Assoc.put (← nameOf given) keySet registry.entries⟩

def withoutIssuer (registry : Registry) (given : Argument) : Except Issuer.Fault Registry := do
  .ok ⟨Assoc.erase (← nameOf given) registry.entries⟩

def issuers (registry : Registry) : List Bytes := Assoc.names registry.entries

/-- What is no issuer name is not contained. -/
def contains (registry : Registry) (given : Argument) : Bool :=
  match nameOf given with
  | .ok name => (registry.keySetAt? name).isSome
  | .error _ => false

end Registry

end Credential
