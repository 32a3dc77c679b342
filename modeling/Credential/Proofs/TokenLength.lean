import Credential.Proofs.CompactForm
import Credential.Proofs.Hex32

/-! How many octets a token takes. Only lengths count: a digest takes as many octets as any other, and a
signature of some length as many as any other of that length. -/

namespace Credential

def Text.size (chars : List Char) : Nat := (Bytes.ofString (String.ofList chars)).length

theorem Text.size_append (first second : List Char) : size (first ++ second) = size first + size second := by
  rw [size, String.ofList_append, Bytes.ofString_append, List.length_append, size, size]

theorem Text.size_ascii {chars : List Char} (plain : ∀ c ∈ chars, c.toNat < 0x80) : size chars = chars.length := by
  rw [size, Bytes.ofString_ascii plain, List.length_map]

namespace Hex32

theorem render_plain (bytes : Bytes) : ∀ c ∈ render bytes,
    c.toNat < 0x80 ∧ Json.escapedPoint (.char c) = [c] ∧ Json.rawChar c = [c] := by
  have every : ∀ value : Fin 16, (Hex.digit value).toNat < 0x80 ∧
      Json.escapedPoint (.char (Hex.digit value)) = [Hex.digit value] ∧
      Json.rawChar (Hex.digit value) = [Hex.digit value] := by decide
  intro c member
  rcases List.mem_cons.1 member with rfl | later
  · decide
  · rcases List.mem_cons.1 later with rfl | inside
    · decide
    · obtain ⟨byte, _, written⟩ := List.mem_flatMap.1 inside
      have small := byte.toNat_lt
      rcases List.mem_cons.1 written with rfl | last
      · exact every ⟨byte.toNat / 16, by omega⟩
      · rcases List.mem_singleton.1 last with rfl
        exact every ⟨byte.toNat % 16, by omega⟩

theorem size_quote_render (quoting : Json.Quoting) {bytes : Bytes} (length : bytes.length = 32) :
    Text.size (quoting.quote (String.ofList (render bytes))) = 68 := by
  have alone : ∀ {write : Char → List Char}, (∀ c ∈ render bytes, write c = [c]) →
      (render bytes).flatMap write = render bytes := by
    intro write same
    calc (render bytes).flatMap write = ((render bytes).map write).flatten := rfl
      _ = ((render bytes).map fun c => [c]).flatten := by rw [List.map_congr_left same]
      _ = render bytes := List.flatMap_singleton' _
  have quoted : quoting.quote (String.ofList (render bytes)) = ['"'] ++ render bytes ++ ['"'] := by
    cases quoting with
    | escaped =>
      have inner := alone fun c member => (render_plain bytes c member).2.1
      have points : (Text.ofString (String.ofList (render bytes))).flatMap Json.escapedPoint =
          (render bytes).flatMap fun c => Json.escapedPoint (.char c) := by
        rw [Text.ofString, String.toList_ofList]
        exact List.flatMap_map _ _ _
      change '"' :: (Text.ofString (String.ofList (render bytes))).flatMap Json.escapedPoint ++ ['"'] = _
      rw [points, inner]
      rfl
    | raw =>
      have inner := alone fun c member => (render_plain bytes c member).2.2
      rw [Json.Quoting.quote, Json.raw, String.toList_ofList, inner]
      rfl
  have mark : Text.size ['"'] = 1 := rfl
  have inside := Text.size_ascii fun c member => (render_plain bytes c member).1
  rw [quoted, Text.size_append, Text.size_append, mark, inside, render, List.length_cons, List.length_cons,
    length_digits, length]

end Hex32

namespace Statement

theorem length_withSignature (statement : Statement) (quoting : Json.Quoting) (signature : Bytes) :
    (Bytes.ofString (statement.withSignature quoting signature)).length =
      (4 * (statement.headerOctets quoting).length + 2) / 3 + (4 * (statement.payloadOctets quoting).length + 2) / 3 +
        (4 * signature.length + 2) / 3 + 2 := by
  rw [withSignature, Bytes.ofString_ascii (Token.compact_plain _ _ _), List.length_map]
  simp only [Token.compact, Token.signingText, List.length_append, List.length_cons, Base64Url.length_encode]
  omega

/-- Beside what the issuer says there are 217 octets in every payload, 136 of them for the challenge. -/
theorem length_payloadOctets (statement : Statement) (quoting : Json.Quoting) :
    (statement.payloadOctets quoting).length = Text.size (quoting.quote statement.iss) +
      Text.size (quoting.quote statement.sub) + Text.size (quoting.quote statement.aud) +
      Text.size (Json.intText statement.iat) + Text.size (Json.intText statement.exp) +
      Text.size (quoting.quote statement.jti) + 217 := by
  have challenge := Hex32.size_quote_render quoting statement.intrinsic.length_challenge
  have context := Hex32.size_quote_render quoting statement.intrinsic.length_context
  have marks : Text.size ['\x7b'] = 1 ∧ Text.size ['\x7d'] = 1 ∧ Text.size [':'] = 1 ∧ Text.size [','] = 1 :=
    ⟨rfl, rfl, rfl, rfl⟩
  have names : Text.size (quoting.quote "iss") = 5 ∧ Text.size (quoting.quote "sub") = 5 ∧
      Text.size (quoting.quote "aud") = 5 ∧ Text.size (quoting.quote "iat") = 5 ∧
      Text.size (quoting.quote "exp") = 5 ∧ Text.size (quoting.quote "jti") = 5 ∧
      Text.size (quoting.quote "challenge") = 11 ∧ Text.size (quoting.quote "context") = 9 := by
    cases quoting <;> exact ⟨rfl, rfl, rfl, rfl, rfl, rfl, rfl, rfl⟩
  change Text.size ((Json.object statement.payload).render quoting.quote) = _
  have parts : (Json.object statement.payload).lexemes = [
      .openObject, .string "iss", .colon, .string statement.iss, .comma, .string "sub", .colon, .string statement.sub,
      .comma, .string "aud", .colon, .string statement.aud, .comma, .string "iat", .colon, .int statement.iat,
      .comma, .string "exp", .colon, .int statement.exp, .comma, .string "jti", .colon, .string statement.jti,
      .comma, .string "challenge", .colon, .openObject,
      .string "challenge", .colon, .string (String.ofList (Hex32.render statement.intrinsic.derive.challenge)), .comma,
      .string "context", .colon, .string (String.ofList (Hex32.render statement.intrinsic.derive.context)),
      .closeObject, .closeObject] := rfl
  have nothing : Text.size [] = 0 := rfl
  rw [Json.render, parts]
  simp only [List.flatMap_cons, List.flatMap_nil, Json.Lexeme.spell, Text.size_append, challenge, context, marks,
    names, nothing]
  -- what is known of the parts has been used, and must not be evaluated with the sum
  clear challenge context marks names nothing parts
  omega

end Statement

end Credential
