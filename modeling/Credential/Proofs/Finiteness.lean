import Credential.Proofs.Json.Numerals
import Credential.Proofs.OneMeaning
import Credential.Proofs.Provenance

/-! Which numbers get into a payload. A reader refuses those that are not finite by their names, and by nothing else:
a number of plain digits that is too large for a finite one is read as infinite, at any depth. -/

namespace Credential

namespace Json

section Numbers

variable {number : Binary64}

theorem within_array {items : List (Json String)} :
    Within (.real number) (.array items) ↔ ∃ item ∈ items, Within (.real number) item := by
  constructor
  · intro deep
    cases deep with
    | item among deeper => exact ⟨_, among, deeper⟩
  · rintro ⟨item, among, deeper⟩
    exact .item among deeper

theorem within_object {members : List (String × Json String)} :
    Within (.real number) (.object members) ↔ ∃ member ∈ members, Within (.real number) member.2 := by
  constructor
  · intro deep
    cases deep with
    | member among deeper => exact ⟨_, among, deeper⟩
  · rintro ⟨member, among, deeper⟩
    exact .member among deeper

private theorem real_mem_other {value : Json String} {lexeme : Lexeme Text} (single : value.toText.lexemes = [lexeme])
    (other : lexeme ≠ .real number) (none : ¬Within (.real number) value) :
    .real number ∈ value.toText.lexemes ↔ Within (.real number) value := by
  rw [single, List.mem_singleton]
  exact iff_of_false other.symm none

mutual

theorem real_mem_lexemes : ∀ value : Json String,
    .real number ∈ value.toText.lexemes ↔ Within (.real number) value
  | .null => real_mem_other rfl nofun nofun
  | .bool _ => real_mem_other rfl nofun nofun
  | .int _ => real_mem_other rfl nofun nofun
  | .string _ => real_mem_other rfl nofun nofun
  | .real other => by
    constructor
    · intro among
      cases List.mem_singleton.1 among
      exact .here
    · intro deep
      cases deep
      exact List.mem_singleton_self _
  | .array items => by
    rw [within_array, ← real_mem_laterItems items]
    cases items with
    | nil => simp [toText, itemsToText, lexemes, laterItems]
    | cons item items => simp [toText, itemsToText, lexemes, laterItems]
  | .object members => by
    rw [within_object, ← real_mem_laterMembers members]
    cases members with
    | nil => simp [toText, membersToText, lexemes, laterMembers]
    | cons member members => simp [toText, membersToText, lexemes, laterMembers]

theorem real_mem_laterItems : ∀ items : List (Json String),
    .real number ∈ laterItems (itemsToText items) ↔ ∃ item ∈ items, Within (.real number) item
  | [] => by simp [itemsToText, laterItems]
  | item :: items => by
    simp [itemsToText, laterItems, real_mem_lexemes item, real_mem_laterItems items]

theorem real_mem_laterMembers : ∀ members : List (String × Json String),
    .real number ∈ laterMembers (membersToText members) ↔ ∃ member ∈ members, Within (.real number) member.2
  | [] => by simp [membersToText, laterMembers]
  | (name, value) :: members => by
    simp [membersToText, laterMembers, real_mem_lexemes value, real_mem_laterMembers members]

end

/-- What is read strictly has the real numbers that the text has, at whatever depth. -/
theorem within_iff_of_read {source : Text} {value : Json String} (reads : read .strict source = .ok value.toText) :
    Within (.real number) value ↔ .real number ∈ Lexeme.ofText source := by
  obtain ⟨said, -, unnamed⟩ := read_strict_iff.1 reads
  rw [← real_mem_lexemes, ← said, evaluated_of_unnamed unnamed]

end Numbers

end Json

namespace Token

open Json

section Payload

variable {source : Text} {members : List (String × Json String)}
  (reads : read .strict source = .ok (Json.object members).toText)
include reads

theorem nan_not_within : ¬Within (.real .nan) (.object members) := by
  rw [within_iff_of_read reads]
  exact Numeral.nan_not_mem source

theorem infinity_within_iff {negative : Bool} : Within (.real (.infinity negative)) (.object members) ↔
    ∃ numeral ∈ Numeral.ofText source, numeral.Overflows ∧ numeral.negative = negative := by
  rw [within_iff_of_read reads]
  exact Numeral.infinity_mem_iff

theorem all_finite_iff : (∀ number, Within (.real number) (.object members) → number.isFinite = true) ↔
    ∀ numeral ∈ Numeral.ofText source, ¬numeral.Overflows := by
  constructor
  · intro finite numeral among overflows
    cases finite _ ((infinity_within_iff reads).2 ⟨numeral, among, overflows, rfl⟩)
  · intro fits number deep
    cases number with
    | nan => exact absurd deep (nan_not_within reads)
    | infinity negative =>
      obtain ⟨numeral, among, overflows, -⟩ := (infinity_within_iff reads).1 deep
      exact absurd overflows (fits numeral among)
    | finite negative mantissa exponent => rfl

end Payload

/-- The text that stands for the payload in a token, between its points. -/
def PayloadText (given : Argument) (token : Token) (text : String) : Prop :=
  ∃ bytes header, Stands given bytes ∧
    bytes = Bytes.ofString (String.ofList (compact header (Bytes.ofString text) token.signature))

section Decoded

variable {limit : Int} {given : Argument} {token : Token} (decoded : decode limit given = .ok token)
include decoded

theorem exists_payloadText : ∃ text, PayloadText given token text := by
  obtain ⟨bytes, header, payload, stands, -, spells, same⟩ := decode_ok_iff.1 decoded
  obtain ⟨text, rfl, -⟩ := parseObject_ok_iff.1 spells.claims
  exact ⟨text, bytes, header, stands, same⟩

theorem read_payloadText {text : String} (between : PayloadText given token text) :
    read .strict (Text.ofString text) = .ok (Json.object token.payload).toText := by
  obtain ⟨bytes, header, stands, written⟩ := between
  obtain ⟨same, other, payload, again, -, spells, writtenToo⟩ := decode_ok_iff.1 decoded
  obtain rfl : bytes = same := Except.ok.inj ((octets_ok_iff.2 stands).symm.trans (octets_ok_iff.2 again))
  have segments := congrArg (Text.split '.')
    (String.ofList_injective (Bytes.ofString_inj.1 (writtenToo.symm.trans written)))
  rw [split_compact, split_compact] at segments
  have encoded := (List.cons.inj (List.cons.inj segments).2).1
  have some : Bytes.ofString text ≠ [] := by
    intro empty
    rw [empty] at encoded
    exact Base64Url.encode_ne_nil spells.payloadGiven encoded
  obtain ⟨found, same, reads⟩ := parseObject_ok_iff.1 spells.claims
  rw [Base64Url.encode_inj spells.payloadGiven some encoded] at same
  rw [Bytes.ofString_inj.1 same]
  exact reads

end Decoded

/-- Which numbers an accepted token has in its payload. The names of numbers are refused, and so none is there that is
no number at all. But an infinite one is there for every number written in the text, with a fraction or an exponent,
that is too large for a finite one, and the numbers are all finite just if there is none such. -/
theorem decode_finite_iff (limit : Int) (given : Argument) (token : Token) (decoded : decode limit given = .ok token) :
    (∃ text, PayloadText given token text) ∧ ∀ text, PayloadText given token text →
      (∀ name, .constant name ∉ Lexeme.ofText (Text.ofString text)) ∧
      ¬Within (.real .nan) (.object token.payload) ∧
      (∀ negative, Within (.real (.infinity negative)) (.object token.payload) ↔
        ∃ numeral ∈ Numeral.ofText (Text.ofString text), numeral.Overflows ∧ numeral.negative = negative) ∧
      ((∀ number, Within (.real number) (.object token.payload) → number.isFinite = true) ↔
        ∀ numeral ∈ Numeral.ofText (Text.ofString text), ¬numeral.Overflows) := by
  refine ⟨exists_payloadText decoded, fun text between => ?_⟩
  have reads := read_payloadText decoded between
  obtain ⟨-, -, unnamed⟩ := read_strict_iff.1 reads
  exact ⟨unnamed, nan_not_within reads, fun _ => infinity_within_iff reads, all_finite_iff reads⟩

def bareHeader : List (String × Json String) := [("alg", .string "HS256"), ("kid", .string "k1")]

def bare (text : String) : String :=
  String.ofList (compact ((Json.object bareHeader).octets .escaped) (Bytes.ofString text) [0x01])

theorem decode_bare {text : String} {members : List (String × Json String)} (given : Bytes.ofString text ≠ [])
    (reads : read .strict (Text.ofString text) = .ok (Json.object members).toText)
    (short : ((Bytes.ofString (bare text)).length : Int) ≤ 1024) : ∃ signed,
      decode 1024 (.text (bare text)) = .ok ⟨⟨"HS256", "k1", none⟩, members, signed, [0x01]⟩ := by
  have exact : (Json.object bareHeader).Exact := ⟨by decide, trivial, trivial, trivial⟩
  have heads : Heads bareHeader ⟨"HS256", "k1", none⟩ := ⟨rfl, by decide, rfl, by decide, .inl rfl⟩
  have spells : Spells ((Json.object bareHeader).octets .escaped) (Bytes.ofString text)
      ⟨⟨"HS256", "k1", none⟩, members, _, [0x01]⟩ := {
    headerGiven := Json.octets_ne_nil .escaped bareHeader
    payloadGiven := given
    signatureGiven := List.cons_ne_nil _ _
    heads := ⟨bareHeader, parseObject_octets .header .escaped exact, heads⟩
    claims := parseObject_ok_iff.2 ⟨text, rfl, reads⟩
    signed := rfl }
  exact ⟨_, decode_ok_iff.2 ⟨_, _, _, .text _, short, spells, rfl⟩⟩

/-- A number with a fraction, and nothing about it is too large. -/
theorem decode_finite_iff_specimen : ∃ token, decode 1024 (.text (bare "\x7b\"x\":1.5\x7d")) = .ok token ∧
    ∀ number, Within (.real number) (.object token.payload) → number.isFinite = true := by
  have reads : read .strict (Text.ofString "\x7b\"x\":1.5\x7d") =
      .ok (Json.object [("x", .real (.ofDecimal false 15 (-1)))]).toText := by rfl
  obtain ⟨signed, decoded⟩ := decode_bare (by decide) reads (by decide)
  have numerals : Numeral.ofText (Text.ofString "\x7b\"x\":1.5\x7d") = [⟨false, ['1'], ['5'], none⟩] := by rfl
  have fits : ¬(⟨false, ['1'], ['5'], none⟩ : Numeral).Overflows := by
    rintro ⟨-, reaches⟩
    have small : (⟨false, ['1'], ['5'], none⟩ : Numeral).magnitude < Binary64.limit := by
      calc ((15 : Nat) : ℚ) * 10 ^ (-1 : Int) ≤ 2 ^ (1 : Int) := by norm_num
        _ ≤ 2 ^ (1023 : Int) := zpow_le_zpow_right₀ (by norm_num) (by norm_num)
        _ < Binary64.limit := Binary64.limit_bounds.1
    exact not_le.2 small reaches
  refine ⟨_, decoded, ?_⟩
  have between : PayloadText (.text (bare "\x7b\"x\":1.5\x7d"))
      ⟨⟨"HS256", "k1", none⟩, [("x", .real (.ofDecimal false 15 (-1)))], signed, [0x01]⟩ "\x7b\"x\":1.5\x7d" :=
    ⟨_, _, .text _, rfl⟩
  obtain ⟨-, -, -, finite⟩ := (decode_finite_iff 1024 _ _ decoded).2 _ between
  rw [finite, numerals]
  exact List.forall_mem_singleton.2 fits

/-- A number of plain digits, and it is infinite. -/
theorem decode_infinite :
    ∃ token, decode 1024 (.text "eyJhbGciOiJIUzI1NiIsImtpZCI6ImsxIn0.eyJ4IjoxZTk5OX0.AQ") = .ok token ∧
      ∃ number, Within (.real number) (.object token.payload) ∧ number.isFinite = false := by
  have literal : bare "\x7b\"x\":1e999\x7d" = "eyJhbGciOiJIUzI1NiIsImtpZCI6ImsxIn0.eyJ4IjoxZTk5OX0.AQ" := by
    have chars : compact ((Json.object bareHeader).octets .escaped) (Bytes.ofString "\x7b\"x\":1e999\x7d") [0x01] =
        "eyJhbGciOiJIUzI1NiIsImtpZCI6ImsxIn0.eyJ4IjoxZTk5OX0.AQ".toList := by decide
    rw [bare, chars, String.ofList_toList]
  have reads : read .strict (Text.ofString "\x7b\"x\":1e999\x7d") =
      .ok (Json.object [("x", .real (.infinity false))]).toText := by rfl
  obtain ⟨signed, decoded⟩ := decode_bare (by decide) reads (by decide)
  exact ⟨_, literal ▸ decoded, _, .member (List.mem_singleton_self _) .here, rfl⟩

end Token

end Credential
