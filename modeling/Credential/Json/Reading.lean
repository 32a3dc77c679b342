import Credential.Json.Lexeme

/-! Reading a JSON text, lexeme by lexeme, with the open containers on a stack. A reading decides
two things of its own: what the members of a closed object amount to, and whether a number that
is not finite may stand. Because it decides while reading, the first fault in the text is reported.

A text may be nested to any depth, and a number may have any count of digits. A reader with limits on
these has faults of its own for what goes beyond them, and they are left out here. -/

namespace Credential.Json

inductive Fault where
  | repeatedMember (name : Text)
  | nonFinite (name : Constant)
  | broken
deriving DecidableEq

structure Reading where
  object : List (Text × Json Text) → Except Fault (List (Text × Json Text))
  constant : Constant → Except Fault Binary64

namespace Reading

/-- The last of several members of one name counts. -/
def plain : Reading where
  object members := .ok (Assoc.ofList members)
  constant name := .ok name.value

/-- One meaning only: no name twice in an object, and no number but the finite ones. -/
def strict : Reading where
  object members :=
    match Assoc.repeated? [] (Assoc.names members) with
    | some name => .error (.repeatedMember name)
    | none => .ok members
  constant name := .error (.nonFinite name)

/-- Keeps every member as it stands in the text. -/
def verbatim : Reading where
  object members := .ok members
  constant name := .ok name.value

end Reading

/-- An open container with what it holds so far, last first. -/
inductive Frame where
  | array (items : List (Json Text))
  | member (members : List (Text × Json Text)) (name : Text)

inductive State where
  | value (outer : List Frame)
  | arrayStart (outer : List Frame)
  | afterItem (items : List (Json Text)) (outer : List Frame)
  | objectStart (outer : List Frame)
  | memberName (members : List (Text × Json Text)) (outer : List Frame)
  | afterName (members : List (Text × Json Text)) (name : Text) (outer : List Frame)
  | afterMember (members : List (Text × Json Text)) (outer : List Frame)
  | done (value : Json Text)

def deliver (value : Json Text) : List Frame → State
  | [] => .done value
  | .array items :: outer => .afterItem (value :: items) outer
  | .member members name :: outer => .afterMember ((name, value) :: members) outer

variable (reading : Reading)

def beginValue (outer : List Frame) : Lexeme Text → Except Fault State
  | .null => .ok (deliver .null outer)
  | .bool value => .ok (deliver (.bool value) outer)
  | .int value => .ok (deliver (.int value) outer)
  | .real value => .ok (deliver (.real value) outer)
  | .string value => .ok (deliver (.string value) outer)
  | .constant name => do
    let value ← reading.constant name
    .ok (deliver (.real value) outer)
  | .openArray => .ok (.arrayStart outer)
  | .openObject => .ok (.objectStart outer)
  | _ => .error .broken

def closeObject (members : List (Text × Json Text)) (outer : List Frame) : Except Fault State := do
  let members ← reading.object members.reverse
  .ok (deliver (.object members) outer)

def step : State → Lexeme Text → Except Fault State
  | .value outer, lexeme => beginValue reading outer lexeme
  | .arrayStart outer, .closeArray => .ok (deliver (.array []) outer)
  | .arrayStart outer, lexeme => beginValue reading (.array [] :: outer) lexeme
  | .afterItem items outer, .comma => .ok (.value (.array items :: outer))
  | .afterItem items outer, .closeArray => .ok (deliver (.array items.reverse) outer)
  | .objectStart outer, .closeObject => closeObject reading [] outer
  | .objectStart outer, .string name => .ok (.afterName [] name outer)
  | .memberName members outer, .string name => .ok (.afterName members name outer)
  | .afterName members name outer, .colon => .ok (.value (.member members name :: outer))
  | .afterMember members outer, .comma => .ok (.memberName members outer)
  | .afterMember members outer, .closeObject => closeObject reading members outer
  | _, _ => .error .broken

def finish : State → Except Fault (Json Text)
  | .done value => .ok value
  | _ => .error .broken

def readLexemes (lexemes : List (Lexeme Text)) : Except Fault (Json Text) := do
  finish (← lexemes.foldlM (step reading) (.value []))

def read (source : Text) : Except Fault (Json Text) := readLexemes reading (Lexeme.ofText source)

end Credential.Json
