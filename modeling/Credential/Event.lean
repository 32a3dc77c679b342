import Credential.Issuer
import Credential.Key
import Credential.Number.Binary64
import Credential.Run

/-! What a journal notes. Some events have a log line; a check put to a signature verifier and a
request for a document have none. -/

namespace Credential

inductive Event where
  | keySkipped (kid use : Json Text)
  | keysLoaded (count : Nat) (address : Text)
  | requested (address : Text) (timeout : Binary64)
  | consulted (algorithm : Algorithm) (key : Key) (signed signature : Bytes)
  | signatureRefused (algorithm : Algorithm) (kid : Text)
  | accepted (issuer : Issuer) (kid : String)
  | rejected (code : String)

namespace Event

def line? : Event → Option Text
  | .keySkipped kid use => some ("Skipping key " ++ kid.describe ++ " with use=" ++ use.describe)
  | .keysLoaded count address => some (("Loaded " ++ toString count ++ " keys from " : String) ++ address)
  | .signatureRefused algorithm kid =>
    some ((algorithm.name ++ " signature does not match key ") ++ kid.quoted)
  | .accepted issuer kid =>
    some ("Token verified for issuer=" ++ issuer.text ++ " kid=" ++ kid)
  | .rejected code => some ("Token rejected: " ++ code : String)
  | _ => none

end Event

namespace Run

variable {fault value : Type}

def lines (run : Run Event fault value) : List Text := run.journal.filterMap Event.line?

end Run

end Credential
