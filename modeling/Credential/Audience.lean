import Credential.Audience.Host
import Credential.Text.Quoted

/-! Who a token is meant for. An audience is a URI; its authority is the id of an authority URN,
or the host of a URI that has one. An audience is a text of characters; one with an unpaired surrogate
is outside of this. -/

namespace Credential.Audience

open Text

inductive Fault where
  | notUri (audience : String)
  | notAuthorityUrn (audience : String)
  | malformedAuthority (audience : String)
  | noHost (audience : String)
  | noAuthority (audience : String)
deriving DecidableEq

def Fault.message : Fault → Text
  | .notUri audience => "Audience " ++ quoted audience ++ " is not a URI"
  | .notAuthorityUrn audience => "Audience " ++ quoted audience ++ " is not an authority URN"
  | .malformedAuthority audience => "Audience " ++ quoted audience ++ " has a malformed authority"
  | .noHost audience => "Audience " ++ quoted audience ++ " has no host"
  | .noAuthority audience => "Audience " ++ quoted audience ++ " has no authority component"

def isLetter (c : Char) : Bool := ('A' ≤ c && c ≤ 'Z') || ('a' ≤ c && c ≤ 'z')

def isSchemeChar (c : Char) : Bool := isLetter c || c.isDigit || c = '+' || c = '.' || c = '-'

/-- A scheme is a letter and scheme characters, and a colon ends it. -/
def splitScheme? (text : List Char) : Option (List Char × List Char) :=
  match text with
  | [] => none
  | first :: _ =>
    match cut ':' text with
    | (scheme, some rest) =>
      if isLetter first && scheme.all isSchemeChar then some (scheme, rest) else none
    | _ => none

def hasScheme (text : List Char) : Bool := (splitScheme? text).isSome

/-- The space, the ASCII controls and the delete character. -/
def isForbidden (c : Char) : Bool := c.toNat ≤ 0x20 || c.toNat = 0x7F

/-- Letters that fold to an ASCII letter: dotted and dotless i, long s, and the Kelvin sign. -/
def fold (c : Char) : Char :=
  if c.toNat = 0x130 ∨ c.toNat = 0x131 then 'i'
  else if c.toNat = 0x17F then 's'
  else if c.toNat = 0x212A then 'k'
  else c.toLower

def isIdChar (c : Char) : Bool :=
  let c := fold c
  ('a' ≤ c && c ≤ 'z') || c.isDigit || c = '.' || c = '_' || c = '~' || c = '-'

/-- The id after `authority:`, which is read in any letter case. -/
def urnId? (rest : List Char) : Option (List Char) :=
  match cut ':' rest with
  | (word, some id) =>
    if word.map fold = "authority".toList && !id.isEmpty && id.all isIdChar then some id else none
  | _ => none

def authority (audience : String) : Except Fault String :=
  let text := audience.toList
  match splitScheme? text with
  | none => .error (.notUri audience)
  | some (scheme, rest) =>
    if text.any isForbidden then .error (.notUri audience)
    else if scheme.map Char.toLower = "urn".toList then
      match urnId? rest with
      | some id => .ok (String.ofList id)
      | none => .error (.notAuthorityUrn audience)
    else match rest with
      | '/' :: '/' :: hierarchy =>
        let location := location hierarchy
        if !isWellFormed location then .error (.malformedAuthority audience)
        else if host location = [] then .error (.noHost audience)
        else .ok (String.ofList (host location))
      | _ => .error (.noAuthority audience)

end Credential.Audience
