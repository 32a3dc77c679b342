import Credential.Json.Described
import Credential.Text.Encoding
import Credential.Text.Utf8

/-! Issuers are named by octets, and by at least one. A caller may give the name as text, as octets
or as an issuer. -/

namespace Credential

structure Issuer where
  bytes : Bytes
  nonempty : bytes ≠ []
deriving DecidableEq

/-- A value as a caller hands it over, before anything is known about its kind. -/
inductive Argument where
  | text (value : Text)
  | bytes (value : Bytes)
  /-- Octets that may change. -/
  | buffer (value : Bytes)
  | issuer (value : Issuer)
  /-- Of any other kind, of which no more than the name is ever told. -/
  | other (kind : String)

def Argument.kind : Argument → String
  | .text _ => "str"
  | .bytes _ => "bytes"
  | .buffer _ => "bytearray"
  | .issuer _ => "IssuerId"
  | .other kind => kind

namespace Issuer

inductive Fault where
  | notBytes
  | empty
  | unsupported (kind : String)
  | unencodable (cause : Text.Unencodable)
  | tooLong (length : Nat) (limit : Int)
deriving DecidableEq

def Fault.message : Fault → Text
  | .notBytes => "Issuer id must be bytes"
  | .empty => "Issuer id must not be empty"
  | .unsupported kind => "Unsupported issuer id type: " ++ kind
  | .unencodable cause => cause.message
  | .tooLong length limit =>
    ("Issuer id is " ++ toString length ++ " bytes, maximum is " ++ toString limit : String)

def lengthLimit : Nat := 256

def ofBytes (bytes : Bytes) : Except Fault Issuer :=
  if empty : bytes = [] then .error .empty else .ok ⟨bytes, empty⟩

/-- Octets only. -/
def ofArgument : Argument → Except Fault Issuer
  | .bytes value => ofBytes value
  | _ => .error .notBytes

def ofAnyForm : Argument → Except Fault Issuer
  | .issuer value => .ok value
  | .text value => do ofBytes (← value.encode.mapError .unencodable)
  | .bytes value => ofBytes value
  | .buffer value => ofBytes value
  | given => .error (.unsupported given.kind)

def parse (limit : Int) (given : Argument) : Except Fault Issuer := do
  let issuer ← ofAnyForm given
  if limit < issuer.bytes.length then .error (.tooLong issuer.bytes.length limit) else .ok issuer

def text (issuer : Issuer) : Text := Text.ofChars (Text.Utf8.display issuer.bytes)

end Issuer

end Credential
