import Credential.Hex
import Credential.Text.Digit
import Credential.Text.LetterCase
import Credential.Text.Split

/-! The host of a URI. The network location ends at the first `/`, `?` or `#`; its host follows
the last `@` and ends at the first `:`, unless it stands in brackets. -/

namespace Credential.Audience

open Text

def isOctet (part : List Char) : Bool :=
  !part.isEmpty && part.all Char.isDigit && part.length ≤ 3 && (part.head? ≠ some '0' || part = ['0']) &&
    decimalValue part ≤ 255

def isIpv4 (text : List Char) : Bool :=
  let parts := split '.' text
  parts.length = 4 && parts.all isOctet

def isGroup (part : List Char) : Bool := !part.isEmpty && part.length ≤ 4 && part.all Hex.isDigit

/-- The groups on one side of a double colon; the outer end of an empty side is empty too. -/
def side (groups : List (List Char)) : List (List Char) := if groups = [[]] then [] else groups

/-- An IPv4 address in the last place stands for two groups. -/
def ipv6Groups? (text : List Char) : Option (List (List Char)) :=
  let parts := split ':' text
  if parts.length < 3 then none
  else match parts.getLast? with
    | some last =>
      if last.contains '.' then
        if isIpv4 last then some (parts.dropLast ++ [['0'], ['0']]) else none
      else some parts
    | none => none

/-- Eight groups, or fewer around one double colon. -/
def isIpv6 (text : List Char) : Bool :=
  match ipv6Groups? text with
  | none => false
  | some groups =>
    let inner := groups.tail.dropLast
    if inner.contains [] then
      let place := inner.idxOf [] + 1
      let before := side (groups.take place)
      let after := side (groups.drop (place + 1))
      before.all isGroup && after.all isGroup && before.length + after.length ≤ 7
    else groups.length = 8 && groups.all isGroup

/-- An address may be followed by `%` and a zone, which holds no further `%`. -/
def isScopedIpv6 (text : List Char) : Bool :=
  match cut '%' text with
  | (address, none) => isIpv6 address
  | (address, some zone) => !zone.isEmpty && !zone.contains '%' && isIpv6 address

/-- A future form of address: `v`, hexadecimal digits, a point, and anything. -/
def isFutureAddress (text : List Char) : Bool :=
  match text with
  | 'v' :: rest =>
    match cut '.' rest with
    | (version, some address) => !version.isEmpty && version.all Hex.isDigit && !address.isEmpty
    | _ => false
  | _ => false

def isBracketedHost (text : List Char) : Bool :=
  if text.head? = some 'v' then isFutureAddress text else isScopedIpv6 text

/-- Nothing may stand before the bracket, and only a port after it. -/
def bracketsHold (location : List Char) : Bool :=
  let place := afterLast '@' location
  match cut '[' place with
  | (before, some bracketed) =>
    let (host, port) := cut ']' bracketed
    before.isEmpty && (port.getD []).head?.all (· = ':') && isBracketedHost host
  | (_, none) => isBracketedHost (cut ':' place).1

/-- Characters whose compatibility form holds one of `/ ? # @ :`, so that they could pass for a
separator. -/
def disguised : List Nat := [
  0x2047, 0x2048, 0x2049, 0x2100, 0x2101, 0x2105, 0x2106, 0x2A74, 0xFE13, 0xFE16, 0xFE55, 0xFE56,
  0xFE5F, 0xFE6B, 0xFF03, 0xFF0F, 0xFF1A, 0xFF1F, 0xFF20]

def isWellFormed (location : List Char) : Bool :=
  location.contains '[' == location.contains ']' &&
    (!location.contains '[' || bracketsHold location) &&
    location.all fun c => !disguised.contains c.toNat

/-- A zone keeps its case, all before it is lowered. -/
def lowerHost (host : List Char) : List Char :=
  match cut '%' host with
  | (name, none) => lower name
  | (name, some zone) => lower name ++ '%' :: zone

def host (location : List Char) : List Char :=
  let place := afterLast '@' location
  lowerHost (match cut '[' place with
    | (_, some bracketed) => (cut ']' bracketed).1
    | (_, none) => (cut ':' place).1)

/-- The network location of what follows the two slashes. -/
def location (text : List Char) : List Char :=
  text.takeWhile fun c => !(c = '/' || c = '?' || c = '#')

end Credential.Audience
