import Credential.Assoc
import Credential.Number.Written
import Credential.Settings
import Credential.Text.Split

/-! Settings from environment variables. Each variable is read on its own; one that is unset or blank
leaves the initial value. Names and texts are of characters: a text with an unpaired surrogate is outside
of this. -/

namespace Credential.Settings

open Text

abbrev Environment := List (String × String)

namespace Environment

/-- Why the text of a variable is not a value. -/
inductive ValueFault where
  | notInteger (text : String)
  | notReal (text : String)
  | unknownAlgorithm (cause : Algorithm.UnknownName)
deriving DecidableEq

/-- A text that is no integer is shown up to 200 characters, quotes and escapes included. -/
def ValueFault.message : ValueFault → Text
  | .notInteger text => "invalid literal for int() with base 10: " ++ (quoted text).take 200
  | .notReal text => "could not convert string to float: " ++ quoted text
  | .unknownAlgorithm cause => cause.message

inductive Fault where
  | badVariable (name raw : String) (cause : ValueFault)
  | badSettings (cause : Settings.Fault)
deriving DecidableEq

def Fault.message : Fault → Text
  | .badVariable name raw cause =>
    ("Invalid " ++ name ++ ": ") ++ quoted raw ++ " (" ++ cause.message ++ ")"
  | .badSettings cause => "Invalid pass_jwt settings: " ++ cause.message

def integer (text : List Char) : Except ValueFault Int :=
  match Number.integer? text with
  | some value => .ok value
  | none => .error (.notInteger (String.ofList text))

def real (text : List Char) : Except ValueFault Binary64 :=
  match Number.real? text with
  | some value => .ok value
  | none => .error (.notReal (String.ofList text))

/-- Names between commas; blank ones are passed over. -/
def algorithms (text : List Char) : Except ValueFault (List Algorithm) :=
  (((split ',' text).map trim).filter (· ≠ [])).mapM fun name =>
    match Algorithm.ofName (String.ofList name) with
    | .ok algorithm => .ok algorithm
    | .error cause => .error (.unknownAlgorithm cause)

def entry? {α : Type} (environment : Environment) (name : String)
    (parse : List Char → Except ValueFault α) : Except Fault (Option α) :=
  match Assoc.get? name environment with
  | none => .ok none
  | some raw =>
    let text := trim raw.toList
    if text = [] then .ok none
    else match parse text with
      | .ok value => .ok (some value)
      | .error cause => .error (.badVariable name raw cause)

def draft (environment : Environment) : Except Fault Draft := do
  let length ← entry? environment "PASS_JWT_MAX_TOKEN_LENGTH" integer
  let allowed ← entry? environment "PASS_JWT_ALLOWED_ALGORITHMS" algorithms
  let network ← entry? environment "PASS_JWT_SS58_PREFIX" integer
  let timeout ← entry? environment "PASS_JWT_HTTP_TIMEOUT" real
  let initial := Draft.initial
  .ok { initial with
    maxTokenLength := length.getD initial.maxTokenLength
    allowed := allowed.getD initial.allowed
    network := network
    timeout := timeout.getD initial.timeout }

def settings (environment : Environment) : Except Fault Settings := do
  match ofDraft (← draft environment) with
  | .ok settings => .ok settings
  | .error cause => .error (.badSettings cause)

end Environment

end Credential.Settings
