import Credential.Issuance
import Credential.Proofs.Base64Url
import Credential.Proofs.Result
import Credential.Proofs.Text.Ascii

/-! The compact form is a language of its own: three parts in their written forms with points between
them, a header and a payload that are objects of one meaning, and some signature. Decoding accepts the
texts of this form and no others, so no two texts can be told apart only by how they are spelled. All
else is malformed, but for a text that has no octets: that is never looked at. -/

namespace Credential

/-- What is given has octets to look at, if it is a text. -/
def Argument.Paired (given : Argument) : Prop := ∀ text, given = .text text → text.Paired

namespace Token

open Rejection

/-- The members that a header is read from. A type that is null is none. -/
structure Heads (members : List (String × Json String)) (header : Header) : Prop where
  alg : Assoc.get? "alg" members = some (.string header.alg)
  algFilled : header.alg ≠ ""
  kid : Assoc.get? "kid" members = some (.string header.kid)
  kidFilled : header.kid ≠ ""
  typ : match header.typ with
    | some typ => Assoc.get? "typ" members = some (.string typ)
    | none => Assoc.get? "typ" members = none ∨ Assoc.get? "typ" members = some .null

theorem filled?_some_iff {members : List (String × Json String)} {name value : String} :
    filled? members name = some value ↔ Assoc.get? name members = some (.string value) ∧ value ≠ "" := by
  unfold filled?
  split
  next text found =>
    rw [found]
    split
    next empty =>
      subst empty
      constructor
      · intro impossible
        cases impossible
      · intro parts
        obtain ⟨same, some_⟩ := parts
        cases same
        exact absurd rfl some_
    next some_ =>
      constructor
      · intro same
        cases same
        exact ⟨rfl, some_⟩
      · intro parts
        obtain ⟨same, _⟩ := parts
        cases same
        rfl
  next other =>
    constructor
    · intro impossible
      cases impossible
    · intro parts
      obtain ⟨found, _⟩ := parts
      exact absurd found (other value)

private theorem headerType_ok_iff {members : List (String × Json String)} {typ : Option String} :
    headerType members = .ok typ ↔ match typ with
      | some typ => Assoc.get? "typ" members = some (.string typ)
      | none => Assoc.get? "typ" members = none ∨ Assoc.get? "typ" members = some .null := by
  unfold headerType
  cases found : Assoc.get? "typ" members with
  | none => cases typ <;> simp
  | some value => cases value <;> cases typ <;> simp

theorem headerOf_ok_iff {members : List (String × Json String)} {header : Header} :
    headerOf members = .ok header ↔ Heads members header := by
  constructor
  · intro read
    unfold headerOf at read
    split at read
    · cases read
    next alg algFound =>
      split at read
      · cases read
      next kid kidFound =>
        obtain ⟨typ, typRead, same⟩ := Result.bind_ok_iff.1 read
        cases same
        obtain ⟨algGiven, algFilled⟩ := filled?_some_iff.1 algFound
        obtain ⟨kidGiven, kidFilled⟩ := filled?_some_iff.1 kidFound
        exact ⟨algGiven, algFilled, kidGiven, kidFilled, headerType_ok_iff.1 typRead⟩
  · intro heads
    have algFound := filled?_some_iff.2 ⟨heads.alg, heads.algFilled⟩
    have kidFound := filled?_some_iff.2 ⟨heads.kid, heads.kidFilled⟩
    have typRead := headerType_ok_iff.2 heads.typ
    simp only [headerOf, algFound, kidFound]
    exact Result.bind_ok_iff.2 ⟨header.typ, typRead, rfl⟩

private theorem segment_ok_iff {part : Part} {text : List Char} {bytes : Bytes} :
    segment part text = .ok bytes ↔ bytes ≠ [] ∧ text = Base64Url.encode bytes := by
  rw [← Base64Url.decode_ok_iff]
  unfold segment
  cases Base64Url.decode text with
  | ok found => simp
  | error cause => cases cause <;> simp

/-- The octets of both parts, and the token they spell together with its signature. -/
structure Spells (header payload : Bytes) (token : Token) : Prop where
  headerGiven : header ≠ []
  payloadGiven : payload ≠ []
  signatureGiven : token.signature ≠ []
  heads : ∃ members, parseObject .header header = .ok members ∧ Heads members token.header
  claims : parseObject .payload payload = .ok token.payload
  signed : token.signingInput = String.ofList (signingText header payload)

private theorem ofSegments_ok {segments : List (List Char)} {token : Token} (read : ofSegments segments = .ok token) :
    ∃ header payload, Spells header payload token ∧
      segments = [Base64Url.encode header, Base64Url.encode payload, Base64Url.encode token.signature] := by
  unfold ofSegments at read
  split at read
  next first second third =>
    obtain ⟨header, headerRead, read⟩ := Result.bind_ok_iff.1 read
    obtain ⟨members, membersRead, read⟩ := Result.bind_ok_iff.1 read
    obtain ⟨names, namesRead, read⟩ := Result.bind_ok_iff.1 read
    obtain ⟨payload, payloadRead, read⟩ := Result.bind_ok_iff.1 read
    obtain ⟨claims, claimsRead, read⟩ := Result.bind_ok_iff.1 read
    obtain ⟨signature, signatureRead, read⟩ := Result.bind_ok_iff.1 read
    cases read
    obtain ⟨headerGiven, rfl⟩ := segment_ok_iff.1 headerRead
    obtain ⟨payloadGiven, rfl⟩ := segment_ok_iff.1 payloadRead
    obtain ⟨signatureGiven, rfl⟩ := segment_ok_iff.1 signatureRead
    exact ⟨header, payload, ⟨headerGiven, payloadGiven, signatureGiven,
      ⟨members, membersRead, headerOf_ok_iff.1 namesRead⟩, claimsRead, rfl⟩, rfl⟩
  · cases read

private theorem ofSegments_spelled {header payload : Bytes} {token : Token} (spells : Spells header payload token) :
    ofSegments [Base64Url.encode header, Base64Url.encode payload, Base64Url.encode token.signature] = .ok token := by
  obtain ⟨members, membersRead, names⟩ := spells.heads
  refine Result.bind_ok_iff.2 ⟨header, segment_ok_iff.2 ⟨spells.headerGiven, rfl⟩, ?_⟩
  refine Result.bind_ok_iff.2 ⟨members, membersRead, ?_⟩
  refine Result.bind_ok_iff.2 ⟨token.header, headerOf_ok_iff.2 names, ?_⟩
  refine Result.bind_ok_iff.2 ⟨payload, segment_ok_iff.2 ⟨spells.payloadGiven, rfl⟩, ?_⟩
  refine Result.bind_ok_iff.2 ⟨token.payload, spells.claims, ?_⟩
  refine Result.bind_ok_iff.2 ⟨token.signature, segment_ok_iff.2 ⟨spells.signatureGiven, rfl⟩, ?_⟩
  have signed := spells.signed
  cases token
  cases signed
  rfl

theorem compact_plain (header payload signature : Bytes) :
    ∀ c ∈ compact header payload signature, c.toNat < 0x80 := by
  intro c member
  simp only [compact, signingText, List.mem_append, List.mem_cons, or_assoc] at member
  rcases member with inside | rfl | inside | rfl | inside
  · exact (Base64Url.encode_plain header c inside).1
  · decide
  · exact (Base64Url.encode_plain payload c inside).1
  · decide
  · exact (Base64Url.encode_plain signature c inside).1

theorem encode_clear (bytes : Bytes) : '.' ∉ Base64Url.encode bytes :=
  fun inside => (Base64Url.encode_plain bytes '.' inside).2 rfl

theorem split_signingText (header payload : Bytes) (rest : List Char) :
    Text.split '.' (signingText header payload ++ '.' :: rest) =
      Base64Url.encode header :: Base64Url.encode payload :: Text.split '.' rest := by
  unfold signingText
  rw [List.append_assoc, List.cons_append, Text.split_append (encode_clear header),
    Text.split_append (encode_clear payload)]

theorem split_compact (header payload signature : Bytes) :
    Text.split '.' (compact header payload signature) =
      [Base64Url.encode header, Base64Url.encode payload, Base64Url.encode signature] := by
  rw [compact, split_signingText, Text.split_clear (encode_clear signature)]

private theorem join_compact (header payload signature : Bytes) :
    Text.join '.' [Base64Url.encode header, Base64Url.encode payload, Base64Url.encode signature] =
      compact header payload signature := by
  simp [Text.join, compact, signingText]

theorem ofBytes_ok_iff {limit : Int} {bytes : Bytes} {token : Token} :
    ofBytes limit bytes = .ok token ↔ (bytes.length : Int) ≤ limit ∧ ∃ header payload,
      Spells header payload token ∧ bytes = Bytes.ofString (String.ofList (compact header payload token.signature)) := by
  constructor
  · intro read
    unfold ofBytes at read
    split at read
    · cases read
    next short =>
      split at read
      · cases read
      next plain =>
        have ascii : ∀ byte ∈ bytes, byte < 0x80 := by
          intro byte member
          apply UInt8.not_le.1
          intro large
          exact plain (List.any_eq_true.2 ⟨byte, member, decide_eq_true large⟩)
        obtain ⟨header, payload, spells, segments⟩ := ofSegments_ok read
        refine ⟨Int.not_lt.1 short, header, payload, spells, ?_⟩
        have joined := congrArg (Text.join '.') segments
        rw [Text.join_split, join_compact] at joined
        rw [← joined, Bytes.ofString_chars ascii]
  · intro spelled
    obtain ⟨short, header, payload, spells, rfl⟩ := spelled
    have plain := compact_plain header payload token.signature
    have ascii : ¬(Bytes.ofString (String.ofList (compact header payload token.signature))).any (0x80 ≤ ·) = true := by
      intro large
      obtain ⟨byte, member, above⟩ := List.any_eq_true.1 large
      exact absurd (Bytes.ofString_lt plain byte member) (UInt8.not_lt.2 (of_decide_eq_true above))
    rw [ofBytes, if_neg (Int.not_lt.2 short), if_neg ascii, Bytes.chars_ofString plain, split_compact]
    exact ofSegments_spelled spells

/-- The octets that an argument stands for. Nothing stands for octets but a text and octets themselves. -/
inductive Stands : Argument → Bytes → Prop where
  | text (value : String) : Stands (.text (Text.ofString value)) (Bytes.ofString value)
  | bytes (value : Bytes) : Stands (.bytes value) value
  | buffer (value : Bytes) : Stands (.buffer value) value

theorem octets_ok_iff {given : Argument} {bytes : Bytes} : octets given = .ok bytes ↔ Stands given bytes := by
  constructor
  · intro found
    cases given with
    | text value =>
      obtain ⟨string, rfl, rfl⟩ := Text.encode_ok_iff.1 (Result.mapError_ok_iff.1 found)
      exact .text string
    | bytes value =>
      cases found
      exact .bytes bytes
    | buffer value =>
      cases found
      exact .buffer bytes
    | issuer value => cases found
    | other kind => cases found
  · intro stands
    cases stands with
    | text value => exact Result.mapError_ok_iff.2 (Text.encode_ofString value)
    | bytes value => rfl
    | buffer value => rfl

theorem Stands.paired {given : Argument} {bytes : Bytes} (stands : Stands given bytes) : given.Paired := by
  rintro text rfl
  cases stands with
  | text value => exact Text.paired_ofString value

theorem octets_unencodable_iff {given : Argument} {cause : Text.Unencodable} :
    octets given = .error (.unencodable cause) ↔
      ∃ text, given = .text text ∧ ¬text.Paired ∧ cause = text.unencodable := by
  cases given with
  | text value => simp [octets, Result.mapError_error_iff, Text.encode_error_iff]
  | _ => simp [octets]

theorem decode_unencodable_iff {limit : Int} {given : Argument} {cause : Text.Unencodable} :
    decode limit given = .error (.unencodable cause) ↔
      ∃ text, given = .text text ∧ ¬text.Paired ∧ cause = text.unencodable := by
  rw [← octets_unencodable_iff, decode, Result.bind_error_iff]
  refine or_iff_left ?_
  rintro ⟨bytes, -, failed⟩
  obtain ⟨_, -, impossible⟩ := Result.mapError_error_iff.1 failed
  cases impossible

theorem decode_ok_iff {limit : Int} {given : Argument} {token : Token} :
    decode limit given = .ok token ↔ ∃ bytes header payload, Stands given bytes ∧ (bytes.length : Int) ≤ limit ∧
      Spells header payload token ∧ bytes = Bytes.ofString (String.ofList (compact header payload token.signature)) := by
  constructor
  · intro read
    obtain ⟨bytes, found, read⟩ := Result.bind_ok_iff.1 read
    obtain ⟨short, header, payload, spells, same⟩ := ofBytes_ok_iff.1 (Result.mapError_ok_iff.1 read)
    exact ⟨bytes, header, payload, octets_ok_iff.1 found, short, spells, same⟩
  · intro spelled
    obtain ⟨bytes, header, payload, stands, short, spells, same⟩ := spelled
    refine Result.bind_ok_iff.2 ⟨bytes, octets_ok_iff.2 stands, Result.mapError_ok_iff.2 ?_⟩
    exact ofBytes_ok_iff.2 ⟨short, header, payload, spells, same⟩

/-- What is signed, a last point, and the signature are all there is to a token. -/
theorem decode_rest {limit : Int} {given : Argument} {token : Token} {bytes : Bytes}
    (read : decode limit given = .ok token) (stands : Stands given bytes) :
    bytes = Bytes.ofString (token.signingInput ++ "." ++ String.ofList (Base64Url.encode token.signature)) := by
  obtain ⟨same, header, payload, again, -, spells, rfl⟩ := decode_ok_iff.1 read
  have one := octets_ok_iff.2 stands
  rw [octets_ok_iff.2 again] at one
  cases one
  have point : "." = String.ofList ['.'] := rfl
  rw [spells.signed, point, ← String.ofList_append, ← String.ofList_append, List.append_assoc]
  rfl

/-- Decoding accepts exactly the compact form and loses nothing of it. All else it refuses as malformed, but for a text
without octets, on which it fails. -/
theorem decode_exactly_compact_form (limit : Int) (given : Argument) :
    (∀ token, decode limit given = .ok token ↔ ∃ bytes header payload,
      Stands given bytes ∧ (bytes.length : Int) ≤ limit ∧ Spells header payload token ∧
      bytes = Bytes.ofString (String.ofList (compact header payload token.signature))) ∧
    (∀ token bytes, decode limit given = .ok token → Stands given bytes →
      bytes = Bytes.ofString (token.signingInput ++ "." ++ String.ofList (Base64Url.encode token.signature))) ∧
    (∀ otherLimit other token twin bytes otherBytes, decode limit given = .ok token →
      decode otherLimit other = .ok twin → Stands given bytes → Stands other otherBytes →
      token.signingInput = twin.signingInput → token.signature = twin.signature → bytes = otherBytes) ∧
    ((∀ token, decode limit given ≠ .ok token) → ((∃ cause, decode limit given = .error (.malformed cause) ∧
      (Rejection.malformed cause).code = "malformed_token") ↔ given.Paired)) ∧
    (∀ text, given = .text text → ¬text.Paired → decode limit given = .error (.unencodable text.unencodable)) := by
  refine ⟨fun token => decode_ok_iff, ?_, ?_, ?_, ?_⟩
  · intro token bytes read stands
    exact decode_rest read stands
  · intro otherLimit other token twin bytes otherBytes read readTwin stands standsTwin signed signature
    rw [decode_rest read stands, decode_rest readTwin standsTwin, signed, signature]
  · intro refused
    cases outcome : decode limit given with
    | ok token => exact absurd outcome (refused token)
    | error fault =>
      cases fault with
      | malformed cause =>
        refine iff_of_true ⟨cause, rfl, rfl⟩ ?_
        rintro text rfl
        apply Classical.not_not.1
        intro unpaired
        cases outcome.symm.trans (decode_unencodable_iff.2 ⟨text, rfl, unpaired, rfl⟩)
      | unencodable cause =>
        obtain ⟨text, rfl, unpaired, -⟩ := decode_unencodable_iff.1 outcome
        refine iff_of_false ?_ fun paired => unpaired (paired text rfl)
        rintro ⟨_, impossible, -⟩
        cases impossible
  · rintro text rfl unpaired
    exact decode_unencodable_iff.2 ⟨text, rfl, unpaired, rfl⟩

/-- Half of a pair is no token, and it is not refused as none. -/
theorem decode_unpaired : decode 1024 (.text [.surrogate 0]) = .error (.unencodable ⟨0, [.surrogate 0]⟩) ∧
    ∀ cause, decode 1024 (.text [.surrogate 0]) ≠ .error (.malformed cause) := by
  have unread : decode 1024 (.text [.surrogate 0]) = .error (.unencodable ⟨0, [.surrogate 0]⟩) := rfl
  refine ⟨unread, ?_⟩
  intro cause impossible
  cases unread.symm.trans impossible

end Token

end Credential
