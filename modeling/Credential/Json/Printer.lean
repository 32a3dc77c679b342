import Credential.Hex
import Credential.Json.Lexeme
import Credential.Number.Shortest
import Credential.Text.Quoted

/-! Compact JSON text: the lexemes of a value one after another, nothing between them. Strings
are written in one of two ways, with every character beyond visible ASCII as an escape, or with
only quotes, backslashes and control characters escaped. -/

namespace Credential.Json

variable {text : Type}

mutual

def lexemes : Json text → List (Lexeme text)
  | .null => [.null]
  | .bool value => [.bool value]
  | .int value => [.int value]
  | .real value => [.real value]
  | .string value => [.string value]
  | .array [] => [.openArray, .closeArray]
  | .array (item :: rest) => .openArray :: lexemes item ++ laterItems rest
  | .object [] => [.openObject, .closeObject]
  | .object ((name, value) :: rest) =>
    .openObject :: .string name :: .colon :: lexemes value ++ laterMembers rest

def laterItems : List (Json text) → List (Lexeme text)
  | [] => [.closeArray]
  | item :: rest => .comma :: lexemes item ++ laterItems rest

def laterMembers : List (text × Json text) → List (Lexeme text)
  | [] => [.closeObject]
  | (name, value) :: rest => .comma :: .string name :: .colon :: lexemes value ++ laterMembers rest

end

def unitEscape (unit : Nat) : List Char := '\\' :: 'u' :: Hex.digits 4 unit

def shortEscape : Char → Option Char
  | '"' => some '"'
  | '\\' => some '\\'
  | '\x08' => some 'b'
  | '\x0c' => some 'f'
  | '\n' => some 'n'
  | '\r' => some 'r'
  | '\t' => some 't'
  | _ => none

def escapedPoint (point : CodePoint) : List Char :=
  match point.char?.bind shortEscape with
  | some mark => ['\\', mark]
  | none =>
    match point with
    | .char c =>
      if 0x20 ≤ c.toNat ∧ c.toNat < 0x7F then [c]
      else point.units16.flatMap unitEscape
    | .surrogate _ => point.units16.flatMap unitEscape

/-- A string in quotes, visible ASCII alone. -/
def escaped (value : Text) : List Char := '"' :: value.flatMap escapedPoint ++ ['"']

def rawChar (c : Char) : List Char :=
  match shortEscape c with
  | some mark => ['\\', mark]
  | none => if c.toNat < 0x20 then unitEscape c.toNat else [c]

/-- A string in quotes, every character beyond ASCII as it is. -/
def raw (value : String) : List Char := '"' :: value.toList.flatMap rawChar ++ ['"']

def intText (value : Int) : List Char :=
  if value < 0 then '-' :: Nat.toDigits 10 value.natAbs else Nat.toDigits 10 value.natAbs

def realText : Binary64 → List Char
  | .nan => Constant.nan.name.toList
  | .infinity false => Constant.infinity.name.toList
  | .infinity true => Constant.negativeInfinity.name.toList
  | value => value.text

def Lexeme.spell (quote : text → List Char) : Lexeme text → List Char
  | .openArray => ['[']
  | .closeArray => [']']
  | .openObject => ['\x7b']
  | .closeObject => ['\x7d']
  | .comma => [',']
  | .colon => [':']
  | .null => "null".toList
  | .bool true => "true".toList
  | .bool false => "false".toList
  | .int value => intText value
  | .real value => realText value
  | .constant name => name.name.toList
  | .string value => quote value
  | .junk => []

def render (quote : text → List Char) (value : Json text) : List Char :=
  value.lexemes.flatMap (Lexeme.spell quote)

end Credential.Json
