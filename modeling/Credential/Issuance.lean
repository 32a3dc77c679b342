import Credential.Json.Printer
import Credential.Token
import Credential.Verifier

/-! The issuing side. An issuer writes a header and a payload as compact JSON, puts both into
base64url, signs the text they make together, and appends the signature after a last point. -/

namespace Credential

namespace Json

/-- The two ways to write the strings of a JSON text. -/
inductive Quoting where
  | escaped
  | raw

def Quoting.quote : Quoting → String → List Char
  | .escaped => fun value => Json.escaped value
  | .raw => Json.raw

/-- The octets of a value as compact JSON. -/
def octets (quoting : Quoting) (value : Json String) : Bytes :=
  Bytes.ofString (String.ofList (value.render quoting.quote))

end Json

namespace Token

/-- What a signature is over. -/
def signingText (header payload : Bytes) : List Char :=
  Base64Url.encode header ++ '.' :: Base64Url.encode payload

def compact (header payload signature : Bytes) : List Char :=
  signingText header payload ++ '.' :: Base64Url.encode signature

end Token

/-- What an issuer says of one attempt of a device. -/
structure Statement where
  algorithm : Algorithm
  kid : String
  iss : String
  sub : String
  aud : String
  iat : Nat
  exp : Nat
  jti : String
  /-- The attempt, of which the token shows only what is derived. -/
  intrinsic : Intrinsic

namespace Statement

def header (statement : Statement) : List (String × Json String) :=
  [("alg", .string statement.algorithm.name), ("kid", .string statement.kid)]

def payload (statement : Statement) : List (String × Json String) :=
  [("iss", .string statement.iss), ("sub", .string statement.sub), ("aud", .string statement.aud),
    ("iat", .int statement.iat), ("exp", .int statement.exp), ("jti", .string statement.jti),
    ("challenge", statement.intrinsic.derive.toClaim)]

def headerOctets (statement : Statement) (quoting : Json.Quoting) : Bytes :=
  (Json.object statement.header).octets quoting

def payloadOctets (statement : Statement) (quoting : Json.Quoting) : Bytes :=
  (Json.object statement.payload).octets quoting

def signed (statement : Statement) (quoting : Json.Quoting) : String :=
  String.ofList (Token.signingText (statement.headerOctets quoting) (statement.payloadOctets quoting))

/-- The token with any signature at all. -/
def withSignature (statement : Statement) (quoting : Json.Quoting) (signature : Bytes) : String :=
  String.ofList (Token.compact (statement.headerOctets quoting) (statement.payloadOctets quoting) signature)

/-- The keyed digest of what is signed. -/
def tag (statement : Statement) (quoting : Json.Quoting) (secret : Bytes) : Bytes :=
  statement.algorithm.hash.hmac secret (Bytes.ofString (statement.signed quoting))

def token (statement : Statement) (quoting : Json.Quoting) (secret : Bytes) : String :=
  statement.withSignature quoting (statement.tag quoting secret)

/-- The record of a shared secret, under the kid of the tokens it signs. -/
def record (kid : String) (secret : Bytes) : List (Text × Json Text) :=
  [("kty", .string Family.oct.name), ("kid", .string kid), ("k", .string (Text.ofChars (Base64Url.encode secret)))]

/-- The document that hands the secret to a verifier. -/
def document (kid : String) (secret : Bytes) : Json Text :=
  .object [("keys", .array [.object (record kid secret)])]

end Statement

end Credential
