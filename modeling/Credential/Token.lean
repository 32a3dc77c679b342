import Credential.Base64Url
import Credential.Rejection
import Credential.Text.Split

/-! The compact form of a token: a header, a payload and a signature, each in base64url, with points
between them. Decoding checks no signature. What is signed is the text before the last point as it
was received, never a text written anew. -/

namespace Credential

open Rejection

structure Header where
  alg : String
  kid : String
  typ : Option String
deriving DecidableEq

structure Token where
  header : Header
  payload : List (String × Json String)
  signingInput : String
  signature : Bytes

namespace Token

def lengthLimit : Nat := 1024

/-- Why nothing is decoded: what is given is no token, or a text that has no octets to look at. -/
inductive Fault where
  | malformed (cause : Malformation)
  | unencodable (cause : Text.Unencodable)
deriving DecidableEq

def octets : Argument → Except Fault Bytes
  | .text value => value.encode.mapError .unencodable
  | .bytes value => .ok value
  | .buffer value => .ok value
  | given => .error (.malformed (.unsupported given.kind))

def segment (part : Part) (text : List Char) : Except Malformation Bytes :=
  match Base64Url.decode text with
  | .ok bytes => .ok bytes
  | .error .notBase64 => .error (.notBase64 part)
  | .error .notCanonical => .error (.notCanonical part)

/-- An object of one meaning: no member twice, finite numbers as written, no unpaired surrogate. -/
def parseObject (part : Part) (bytes : Bytes) : Except Malformation (List (String × Json String)) :=
  match bytes.toString? with
  | none => .error (.notJson part .broken)
  | some text =>
    match Json.read .strict (Text.ofString text) with
    | .error cause => .error (.notJson part cause)
    | .ok value =>
      match value.toStrings? with
      | none => .error (.unpairedSurrogate part)
      | some (.object members) => .ok members
      | some _ => .error (.notObject part)

def filled? (members : List (String × Json String)) (name : String) : Option String :=
  match Assoc.get? name members with
  | some (.string value) => if value = "" then none else some value
  | _ => none

def headerType (members : List (String × Json String)) : Except Malformation (Option String) :=
  match Assoc.get? "typ" members with
  | none => .ok none
  | some .null => .ok none
  | some (.string value) => .ok (some value)
  | some _ => .error .typeNotString

def headerOf (members : List (String × Json String)) : Except Malformation Header :=
  match filled? members "alg" with
  | none => .error .noAlgorithm
  | some alg =>
    match filled? members "kid" with
    | none => .error .noKid
    | some kid => do .ok ⟨alg, kid, ← headerType members⟩

def ofSegments : List (List Char) → Except Malformation Token
  | [first, second, third] => do
    let header ← headerOf (← parseObject .header (← segment .header first))
    let payload ← parseObject .payload (← segment .payload second)
    let signature ← segment .signature third
    .ok ⟨header, payload, String.ofList (first ++ '.' :: second), signature⟩
  | segments => .error (.segmentCount segments.length)

def ofBytes (limit : Int) (bytes : Bytes) : Except Malformation Token :=
  if limit < bytes.length then .error (.tooLong bytes.length limit)
  else if bytes.any (0x80 ≤ ·) then .error .notAscii
  else ofSegments (Text.split '.' (bytes.map fun byte => Char.ofNat byte.toNat))

def decode (limit : Int) (given : Argument) : Except Fault Token := do
  (ofBytes limit (← octets given)).mapError .malformed

end Token

end Credential
