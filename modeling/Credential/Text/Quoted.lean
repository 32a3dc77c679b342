import Credential.Hex
import Credential.Text
import Credential.Text.Printable

/-! Quoted text for messages. Single quotes are the rule; text with a single quote and no
double one stands in double quotes. What is not printable is written as an escape. -/

namespace Credential.Text

def escapedPoint (point : CodePoint) : Text :=
  ofChars ('\\' ::
    if point.value < 0x100 then 'x' :: Hex.digits 2 point.value
    else if point.value < 0x10000 then 'u' :: Hex.digits 4 point.value
    else 'U' :: Hex.digits 8 point.value)

def singleQuote : Char := '\x27'

def doubleQuote : Char := '\x22'

def quotedPoint (quote : Char) : CodePoint → Text
  | .surrogate offset => escapedPoint (.surrogate offset)
  | .char c =>
    if c = quote ∨ c = '\\' then ofChars ['\\', c]
    else if c = '\n' then ofChars ['\\', 'n']
    else if c = '\r' then ofChars ['\\', 'r']
    else if c = '\t' then ofChars ['\\', 't']
    else if isPrintable c then [.char c]
    else escapedPoint (.char c)

def quoteFor (text : Text) : Char :=
  if text.contains (.char singleQuote) && !text.contains (.char doubleQuote) then doubleQuote
  else singleQuote

def quoted (text : Text) : Text :=
  let quote := quoteFor text
  .char quote :: text.flatMap (quotedPoint quote) ++ [.char quote]

end Credential.Text

namespace Credential

def quoted (text : String) : Text := (Text.ofString text).quoted

end Credential
