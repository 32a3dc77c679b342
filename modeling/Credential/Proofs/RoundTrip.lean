import Credential.Proofs.CompactForm
import Credential.Proofs.Json.Reading

/-! Decoding undoes encoding. A header and a payload of any depth, written as compact JSON and put together
with a signature, decode to what was written: nothing is lost, and nothing well-formed is refused. -/

namespace Credential

theorem Json.octets_ne_nil (quoting : Json.Quoting) (members : List (String × Json String)) :
    (Json.object members).octets quoting ≠ [] := by
  rw [Json.octets, Bytes.ofString_ofList]
  cases members with
  | nil => simp [Json.render, Json.lexemes, Json.Lexeme.spell]
  | cons member rest => simp [Json.render, Json.lexemes, Json.Lexeme.spell]

namespace Token

/-- The members that a header is read from hold no number, so they are read back as they were. -/
theorem Heads.reread {members : List (String × Json String)} {header : Header} (heads : Heads members header) :
    Heads (Json.rereadMembers members) header where
  alg := by
    rw [Json.get?_rereadMembers, heads.alg]
    rfl
  algFilled := heads.algFilled
  kid := by
    rw [Json.get?_rereadMembers, heads.kid]
    rfl
  kidFilled := heads.kidFilled
  typ := by
    have given := heads.typ
    rw [Json.get?_rereadMembers]
    cases named : header.typ with
    | some typ =>
      rw [named] at given
      simp only at given ⊢
      rw [given]
      rfl
    | none =>
      rw [named] at given
      rcases given with absent | null
      · exact .inl (by rw [absent]; rfl)
      · exact .inr (by rw [null]; rfl)

variable {members payload : List (String × Json String)} {header : Header} {signature : Bytes}

theorem spells_octets (headerQuoting payloadQuoting : Json.Quoting) (legible : (Json.object members).Legible)
    (heads : Heads members header) (claims : (Json.object payload).Exact) (signatureGiven : signature ≠ []) :
    Spells ((Json.object members).octets headerQuoting) ((Json.object payload).octets payloadQuoting)
      ⟨header, payload, String.ofList (signingText ((Json.object members).octets headerQuoting)
        ((Json.object payload).octets payloadQuoting)), signature⟩ where
  headerGiven := Json.octets_ne_nil headerQuoting members
  payloadGiven := Json.octets_ne_nil payloadQuoting payload
  signatureGiven := signatureGiven
  heads := ⟨Json.rereadMembers members, parseObject_legible .header headerQuoting legible, heads.reread⟩
  claims := parseObject_octets .payload payloadQuoting claims
  signed := rfl

/-- A token of any header with a name for its algorithm and its key, and of any payload that JSON says exactly,
decodes to both and to its signature, in either quoting and in every form that stands for its octets. -/
theorem decode_compact_octets (headerQuoting payloadQuoting : Json.Quoting) (legible : (Json.object members).Legible)
    (heads : Heads members header) (claims : (Json.object payload).Exact) (signatureGiven : signature ≠ [])
    {given : Argument} {bytes : Bytes} {limit : Int} (stands : Stands given bytes)
    (written : bytes = Bytes.ofString (String.ofList (compact ((Json.object members).octets headerQuoting)
      ((Json.object payload).octets payloadQuoting) signature)))
    (short : (bytes.length : Int) ≤ limit) :
    decode limit given = .ok ⟨header, payload, String.ofList (signingText
      ((Json.object members).octets headerQuoting) ((Json.object payload).octets payloadQuoting)), signature⟩ :=
  decode_ok_iff.2 ⟨bytes, _, _, stands, short,
    spells_octets headerQuoting payloadQuoting legible heads claims signatureGiven, written⟩

/-- A header of more members than are read, one of them no integer. -/
def deepHeader : List (String × Json String) :=
  [("typ", .string "JWT"), ("kid", .string "clé"), ("b64", .bool true), ("alg", .string "HS256"),
    ("x", .array [.real (.finite true 4503599627370496 (-53)), .object [("crit", .null)]])]

def deepPayload : List (String × Json String) :=
  [("z", .array []), ("a", .array [.int (-98765432109876543210), .string "😀 \"é\"\n", .object [("b", .null)]]),
    ("c", .object [("z", .bool false), ("", .object [])])]

theorem decode_deep :
    decode 1024 (.text (String.ofList (compact ((Json.object deepHeader).octets .escaped)
      ((Json.object deepPayload).octets .raw) [0xFF, 0x00]))) =
      .ok ⟨⟨"HS256", "clé", some "JWT"⟩, deepPayload, String.ofList (signingText
        ((Json.object deepHeader).octets .escaped) ((Json.object deepPayload).octets .raw)), [0xFF, 0x00]⟩ := by
  have legible : (Json.object deepHeader).Legible := by
    simp [deepHeader, Json.Legible, Json.LegibleMembers, Json.LegibleItems, Assoc.names, Binary64.isFinite]
  have claims : (Json.object deepPayload).Exact := by
    simp [deepPayload, Json.Exact, Json.ExactMembers, Json.ExactItems, Assoc.names]
  have heads : Heads deepHeader ⟨"HS256", "clé", some "JWT"⟩ := ⟨rfl, by decide, rfl, by decide, rfl⟩
  have short : ((Bytes.ofString (String.ofList (compact ((Json.object deepHeader).octets .escaped)
      ((Json.object deepPayload).octets .raw) [0xFF, 0x00]))).length : Int) ≤ 1024 := by decide +kernel
  exact decode_compact_octets .escaped .raw legible heads claims (List.cons_ne_nil 0xFF [0x00]) (.text _) rfl short

end Token

end Credential
