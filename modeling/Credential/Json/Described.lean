import Credential.Json
import Credential.Number.Shortest
import Credential.Text.Quoted

/-! How messages show a JSON value: strings quoted, the three constants as `None`, `True` and
`False`, and containers in brackets with their members in order. -/

namespace Credential.Json

mutual

def describe : Json Text → Text
  | .null => "None"
  | .bool true => "True"
  | .bool false => "False"
  | .int value => toString value
  | .real value => Text.ofChars value.text
  | .string value => value.quoted
  | .array [] => "[]"
  | .array (item :: rest) => "[" ++ describe item ++ describeItems rest
  | .object [] => "\x7b\x7d"
  | .object ((name, value) :: rest) =>
    "\x7b" ++ name.quoted ++ ": " ++ describe value ++ describeMembers rest

def describeItems : List (Json Text) → Text
  | [] => "]"
  | item :: rest => ", " ++ describe item ++ describeItems rest

def describeMembers : List (Text × Json Text) → Text
  | [] => "\x7d"
  | (name, value) :: rest => ", " ++ name.quoted ++ ": " ++ describe value ++ describeMembers rest

end

mutual

/-- Every string of a value as text. -/
def toText : Json String → Json Text
  | .null => .null
  | .bool value => .bool value
  | .int value => .int value
  | .real value => .real value
  | .string value => .string value
  | .array items => .array (itemsToText items)
  | .object members => .object (membersToText members)

def itemsToText : List (Json String) → List (Json Text)
  | [] => []
  | item :: rest => toText item :: itemsToText rest

def membersToText : List (String × Json String) → List (Text × Json Text)
  | [] => []
  | (name, value) :: rest => (Text.ofString name, toText value) :: membersToText rest

end

end Credential.Json
