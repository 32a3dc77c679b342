import Credential.Hex
import Credential.Json
import Credential.Text.Digit

/-! The lexemes of a JSON text. Three names for numbers that are not finite are lexemes too; the
reader decides about them. The first place that starts no lexeme is `junk`, and nothing follows it. -/

namespace Credential.Json

inductive Constant where
  | nan
  | infinity
  | negativeInfinity
deriving DecidableEq

def Constant.name : Constant → String
  | .nan => "NaN"
  | .infinity => "Infinity"
  | .negativeInfinity => "-Infinity"

def Constant.value : Constant → Binary64
  | .nan => .nan
  | .infinity => .infinity false
  | .negativeInfinity => .infinity true

inductive Lexeme (text : Type) where
  | openArray
  | closeArray
  | openObject
  | closeObject
  | comma
  | colon
  | null
  | bool (value : Bool)
  | int (value : Int)
  | real (value : Binary64)
  | constant (name : Constant)
  | string (value : text)
  | junk

namespace Lexeme

/-- What an escape stands for is a UTF-16 unit; two units of a pair are one code point. -/
inductive Piece where
  | plain (point : CodePoint)
  | unit (value : Nat)

def hexUnit? (digits : List CodePoint) : Option Nat :=
  digits.foldlM (fun total digit => do
    let c ← digit.char?
    let value ← Hex.value? c
    some (total * 16 + value)) 0

def shortEscape? : Char → Option Char
  | '"' => some '"'
  | '\\' => some '\\'
  | '/' => some '/'
  | 'b' => some '\x08'
  | 'f' => some '\x0c'
  | 'n' => some '\n'
  | 'r' => some '\r'
  | 't' => some '\t'
  | _ => none

/-- The pieces up to the closing quote, and what follows it. Control characters must be escaped. -/
def pieces? : Text → Option (List Piece × Text)
  | [] => none
  | .char '"' :: rest => some ([], rest)
  | .char '\\' :: .char 'u' :: a :: b :: c :: d :: rest => do
    let value ← hexUnit? [a, b, c, d]
    let (pieces, rest) ← pieces? rest
    some (.unit value :: pieces, rest)
  | .char '\\' :: .char c :: rest => do
    let meant ← shortEscape? c
    let (pieces, rest) ← pieces? rest
    some (.plain (.char meant) :: pieces, rest)
  | point :: rest =>
    if point = .char '\\' ∨ point.value < 0x20 then none
    else do
      let (pieces, rest) ← pieces? rest
      some (.plain point :: pieces, rest)

def joinPieces : List Piece → Text
  | [] => []
  | .plain point :: rest => point :: joinPieces rest
  | .unit high :: .unit low :: rest =>
    match CodePoint.ofPair? high low with
    | some point => point :: joinPieces rest
    | none => (CodePoint.ofNat? high).toList ++ joinPieces (.unit low :: rest)
  | .unit value :: rest => (CodePoint.ofNat? value).toList ++ joinPieces rest

def string? (source : Text) : Option (Text × Text) := do
  let (pieces, rest) ← pieces? source
  some (joinPieces pieces, rest)

def digits : Text → List Char × Text
  | .char c :: rest =>
    if c.isDigit then
      let (more, rest) := digits rest
      (c :: more, rest)
    else ([], .char c :: rest)
  | source => ([], source)

/-- A zero alone, or digits that start with another one. -/
def whole? : Text → Option (List Char × Text)
  | .char '0' :: rest => some (['0'], rest)
  | source => match digits source with
    | ([], _) => none
    | found => some found

/-- A point counts only before a digit. -/
def fraction : Text → List Char × Text
  | .char '.' :: rest => match digits rest with
    | ([], _) => ([], .char '.' :: rest)
    | found => found
  | source => ([], source)

def signed : Text → Bool × Text
  | .char '-' :: rest => (true, rest)
  | .char '+' :: rest => (false, rest)
  | source => (false, source)

/-- The mark of an exponent counts only before digits, signed or not. -/
def exponent? : Text → Option (Int × Text)
  | .char mark :: rest =>
    if mark = 'e' ∨ mark = 'E' then
      let (negative, rest) := signed rest
      match digits rest with
      | ([], _) => none
      | (found, rest) =>
        let value : Int := Text.decimalValue found
        some (if negative then -value else value, rest)
    else none
  | _ => none

/-- A number without fraction and exponent is an integer. -/
def number? (negative : Bool) (source : Text) : Option (Lexeme Text × Text) := do
  let (leading, rest) ← whole? source
  let (trailing, rest) := fraction rest
  match exponent? rest, trailing with
  | none, [] =>
    let value : Int := Text.decimalValue leading
    some (.int (if negative then -value else value), rest)
  | power, _ =>
    let (exponent, rest) := power.getD (0, rest)
    let value := Text.decimalValue (leading ++ trailing)
    some (.real (.ofDecimal negative value (exponent - trailing.length)), rest)

/-- The rest after a word. -/
def after? : List Char → Text → Option Text
  | [], source => some source
  | c :: word, .char other :: rest => if c = other then after? word rest else none
  | _ :: _, _ => none

def word? (word : String) (lexeme : Lexeme Text) (source : Text) : Option (Lexeme Text × Text) :=
  (after? word.toList source).map (lexeme, ·)

def isBlank (point : CodePoint) : Bool :=
  point = .char ' ' || point = .char '\t' || point = .char '\n' || point = .char '\r'

/-- The lexeme that starts here. -/
def start? : Text → Option (Lexeme Text × Text)
  | .char '[' :: rest => some (.openArray, rest)
  | .char ']' :: rest => some (.closeArray, rest)
  | .char '\x7b' :: rest => some (.openObject, rest)
  | .char '\x7d' :: rest => some (.closeObject, rest)
  | .char ',' :: rest => some (.comma, rest)
  | .char ':' :: rest => some (.colon, rest)
  | .char '"' :: rest => (string? rest).map fun (value, rest) => (.string value, rest)
  | .char '-' :: rest =>
    match word? "Infinity" (.constant .negativeInfinity) rest with
    | some found => some found
    | none => number? true rest
  | .char 'n' :: rest => word? "ull" .null rest
  | .char 't' :: rest => word? "rue" (.bool true) rest
  | .char 'f' :: rest => word? "alse" (.bool false) rest
  | .char 'N' :: rest => word? "aN" (.constant .nan) rest
  | .char 'I' :: rest => word? "nfinity" (.constant .infinity) rest
  | source => number? false source

/-- Every lexeme takes at least one code point, so the length of the text bounds their number. -/
def within : Nat → Text → List (Lexeme Text)
  | 0, _ => []
  | fuel + 1, source =>
    match source.dropWhile isBlank with
    | [] => []
    | source => match start? source with
      | some (lexeme, rest) => lexeme :: within fuel rest
      | none => [.junk]

def ofText (source : Text) : List (Lexeme Text) := within source.length source

end Lexeme

end Credential.Json
