import Credential.Assoc
import Credential.Number.Binary64
import Credential.Text

/-! JSON values with exact numbers. The type of strings is a parameter: what a document says may
hold unpaired surrogates (`Json Text`), what a token says may not (`Json String`). An object keeps
its members in order. -/

namespace Credential

inductive Json (text : Type) where
  | null
  | bool (value : Bool)
  | int (value : Int)
  | real (value : Binary64)
  | string (value : text)
  | array (items : List (Json text))
  | object (members : List (text × Json text))

namespace Json

variable {text other : Type}

mutual

/-- Every string and member name through a partial conversion. -/
def mapText? (convert : text → Option other) : Json text → Option (Json other)
  | .null => some .null
  | .bool value => some (.bool value)
  | .int value => some (.int value)
  | .real value => some (.real value)
  | .string value => (convert value).map .string
  | .array items => (mapItems? convert items).map .array
  | .object members => (mapMembers? convert members).map .object

def mapItems? (convert : text → Option other) : List (Json text) → Option (List (Json other))
  | [] => some []
  | item :: rest => do
    let item ← mapText? convert item
    let rest ← mapItems? convert rest
    some (item :: rest)

def mapMembers? (convert : text → Option other) :
    List (text × Json text) → Option (List (other × Json other))
  | [] => some []
  | (name, value) :: rest => do
    let name ← convert name
    let value ← mapText? convert value
    let rest ← mapMembers? convert rest
    some ((name, value) :: rest)

end

/-- The same value with strings of characters alone, unless a surrogate stands unpaired. -/
def toStrings? : Json Text → Option (Json String) := mapText? Text.toString?

def member? [DecidableEq text] (name : text) : Json text → Option (Json text)
  | .object members => Assoc.get? name members
  | _ => none

def string? : Json text → Option text
  | .string value => some value
  | _ => none

end Json

end Credential
