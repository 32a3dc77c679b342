import Credential.Number.Binary64
import Credential.Text.Blank
import Credential.Text.Digit

/-! Numbers as people write them into settings: blanks around, a sign, digits of any script, and
single underscores between digits. -/

namespace Credential.Number

open Text

def plainDigit (c : Char) : Char :=
  match digitValue? c with
  | some value => Char.ofNat ('0'.toNat + value)
  | none => c

/-- The blanks around a number: those of `isBlank` without the separators U+001C to U+001F. -/
def isMargin (c : Char) : Bool := isBlank c && !(0x1C ≤ c.toNat && c.toNat ≤ 0x1F)

/-- An underscore must stand between two digits. -/
def joinGroups? (afterDigit : Bool) : List Char → Option (List Char)
  | [] => some []
  | '_' :: c :: rest =>
    if afterDigit && c.isDigit then (joinGroups? true rest).map (c :: ·) else none
  | c :: rest => if c = '_' then none else (joinGroups? c.isDigit rest).map (c :: ·)

def plain? (text : List Char) : Option (List Char) :=
  joinGroups? false ((trimBy isMargin text).map plainDigit)

def splitSign : List Char → Bool × List Char
  | '-' :: rest => (true, rest)
  | '+' :: rest => (false, rest)
  | text => (false, text)

def integer? (text : List Char) : Option Int := do
  let (negative, digits) := splitSign (← plain? text)
  if !digits.isEmpty && digits.all Char.isDigit then
    some (if negative then -(decimalValue digits : Int) else decimalValue digits)
  else none

def exponent? : List Char → Option Int
  | [] => some 0
  | mark :: rest =>
    let (negative, digits) := splitSign rest
    if (mark = 'e' ∨ mark = 'E') ∧ !digits.isEmpty ∧ digits.all Char.isDigit then
      some (if negative then -(decimalValue digits : Int) else decimalValue digits)
    else none

/-- Digits with at most one point and at least one digit, then an exponent or none. -/
def decimal? (negative : Bool) (text : List Char) : Option Binary64 := do
  let whole := text.takeWhile Char.isDigit
  let rest := text.dropWhile Char.isDigit
  let (fraction, rest) := match rest with
    | '.' :: rest => (rest.takeWhile Char.isDigit, rest.dropWhile Char.isDigit)
    | rest => ([], rest)
  if whole.isEmpty && fraction.isEmpty then none
  else
    let exponent ← exponent? rest
    some (.ofDecimal negative (decimalValue (whole ++ fraction)) (exponent - fraction.length))

def real? (text : List Char) : Option Binary64 := do
  let (negative, rest) := splitSign (← plain? text)
  let name := String.ofList (rest.map Char.toLower)
  if name = "inf" ∨ name = "infinity" then some (.infinity negative)
  else if name = "nan" then some .nan
  else decimal? negative rest

end Credential.Number
