import Credential.Proofs.KeySet
import Credential.Verifier

/-! What of a published record counts. A record becomes a key by its public members, and by these alone: whatever else it
holds, private parts of the key included, neither gets into the key nor decides whether there is one. A key published
again is the same key. -/

namespace Credential

namespace Key

/-- Records of the same public members. An absent member counts as null, and what the others are is left open. -/
structure Agree (record other : List (Text × Json Text)) : Prop where
  kid : field other "kid" = field record "kid"
  family : field other "kty" = field record "kty"
  pin : field other "alg" = field record "alg"
  material : ∀ family, family? (field record "kty") = some family →
    ∀ name ∈ family.required, field other name = field record name

/-- The record that publishes a key and nothing more. -/
def published (key : Key) : List (Text × Json Text) :=
  (key.members.map fun part => (Text.ofString part.1, .string part.2)) ++
    (key.pin.map fun pin => (Text.ofString "alg", .string pin)).toList

section Records

variable {record other : List (Text × Json Text)} {key : Key}

theorem materialOf_congr {kid : Text} {family : Family}
    (same : ∀ name ∈ family.required, field other name = field record name) :
    materialOf other kid family = materialOf record kid family := by
  have read : ∀ name ∈ family.required, required other kid name = required record kid name := by
    intro name member
    rw [required, required, same name member]
  cases family <;> simp only [Family.required, List.forall_mem_cons] at read <;> simp only [materialOf, read]

/-- No other member is looked at, whether there is a key or what is wrong is told. -/
theorem ofMembers_congr (agree : Agree record other) : ofMembers other = ofMembers record := by
  unfold ofMembers
  rw [agree.kid, agree.family, agree.pin]
  split
  · rfl
  · split
    · rfl
    next family found => rw [materialOf_congr (agree.material family found)]

theorem shows_iff_agree (shows : Shows record key) : Shows other key ↔ Agree record other := by
  constructor
  · intro showsToo
    obtain ⟨family, ⟨kid, -⟩, gives⟩ := gives_members_iff.1 shows.members
    obtain ⟨familyToo, ⟨kidToo, -⟩, givesToo⟩ := gives_members_iff.1 showsToo.members
    refine ⟨kidToo.trans kid.symm, familyToo.trans family.symm, showsToo.pin.trans shows.pin.symm, ?_⟩
    intro found read name member
    obtain rfl := Option.some.inj (read.symm.trans (family?_eq_some_iff.2 family))
    rw [Key.family, ← Material.names_members] at member
    obtain ⟨part, listed, rfl⟩ := List.mem_map.1 member
    exact (givesToo part listed).1.trans (gives part listed).1.symm
  · intro agree
    rw [← ofMembers_ok_iff, ofMembers_congr agree, ofMembers_ok_iff]
    exact shows

theorem field_published (key : Key) :
    (∀ part ∈ key.members, field key.published part.1 = .string part.2) ∧
      field key.published "alg" = pinned key.pin := by
  obtain ⟨kid, pin, material⟩ := key
  cases material <;> cases pin <;>
    simp [published, members, field, pinned, Assoc.get?, Text.ofString_inj]

theorem Shows.published (shows : Shows record key) : Shows key.published key := by
  obtain ⟨members, pin⟩ := field_published key
  exact ⟨fun part member => ⟨members part member, (shows.members part member).2⟩, pin⟩

end Records

end Key

namespace KeySet

def Agree (record other : Json Text) : Prop :=
  ∃ members twins, record = .object members ∧ other = .object twins ∧ Key.Agree members twins ∧
    Key.field twins "use" = Key.field members "use"

def Agreeing (first second : Json Text) : Prop :=
  ∃ records others, Lists first records ∧ Lists second others ∧ List.Forall₂ Agree records others

theorem readKeys_congr {records others : List (Json Text)} (agree : List.Forall₂ Agree records others) :
    readKeys others = readKeys records := by
  induction agree with
  | nil => rfl
  | cons first _ ih =>
    obtain ⟨members, twins, rfl, rfl, agree, use⟩ := first
    have read : Key.ofRecord (.object twins) = Key.ofRecord (.object members) := Key.ofMembers_congr agree
    have kept : isKept (.object twins) = isKept (.object members) := by rw [isKept, isKept, use]
    have note : skipNote (.object twins) = skipNote (.object members) := by rw [skipNote, skipNote, agree.kid, use]
    rw [readKeys, readKeys, read, kept, note, ih]

theorem ofDocument_congr {first second : Json Text} (agreeing : Agreeing first second) (enabled : Bool) :
    ofDocument enabled second = ofDocument enabled first := by
  obtain ⟨records, others, lists, listsToo, agree⟩ := agreeing
  rw [ofDocument_eq enabled lists, ofDocument_eq enabled listsToo, readKeys_congr agree]

end KeySet

/-- What becomes of a signature under a published record: it is no key, or its key decides. -/
def Verifier.judged (algorithm : Algorithm) (record : Json Text) (signed signature : Bytes) :
    Except Key.Fault (Run Event Fault Bool) :=
  (Key.ofRecord record).map fun key => standard algorithm key signed signature

namespace Key

/-- Records of the same public members are the same key, or fail alike. What is published of a key has those members, none
of them empty, and is the same key again. So nothing else in a record has a part in the verdict on a signature. -/
theorem public_members_decide :
    (∀ record other, Agree record other → ofRecord (.object other) = ofRecord (.object record) ∧
      ∀ algorithm signed signature, Verifier.judged algorithm (.object other) signed signature =
        Verifier.judged algorithm (.object record) signed signature) ∧
    (∀ record key, ofRecord (.object record) = .ok key →
      (∀ other, ofRecord (.object other) = .ok key ↔ Agree record other) ∧
      key.members.map Prod.fst = "kty" :: "kid" :: key.family.required ∧
      (∀ name text, (name, text) ∈ key.members →
        text ≠ [] ∧ Assoc.get? (Text.ofString name) record = some (.string text)) ∧
      ofRecord (.object key.published) = .ok key) ∧
    ∀ first second, KeySet.Agreeing first second → ∀ enabled,
      KeySet.ofDocument enabled second = KeySet.ofDocument enabled first := by
  refine ⟨?_, ?_, fun _ _ => KeySet.ofDocument_congr⟩
  · intro record other agree
    have read : ofRecord (.object other) = ofRecord (.object record) := ofMembers_congr agree
    refine ⟨read, ?_⟩
    intro algorithm signed signature
    rw [Verifier.judged, Verifier.judged, read]
  · intro record key read
    have shows := ofMembers_ok_iff.1 read
    refine ⟨fun other => ofMembers_ok_iff.trans (shows_iff_agree shows), ?_, ?_, ofMembers_ok_iff.2 shows.published⟩
    · rw [members_eq, List.map_cons, List.map_cons, Material.names_members, family]
    · intro name text member
      obtain ⟨given, filled⟩ := shows.members _ member
      exact ⟨filled, (field_eq_iff (by rintro ⟨⟩)).1 given⟩

/-- A record with the private exponent of its key in it, and other members of any kind. -/
def leaked : List (Text × Json Text) :=
  [("d", .string "AQ"), ("use", .int 7), ("kty", .string "RSA"), ("kid", .string "k1"), ("alg", .string "RS256"),
    ("n", .string "gAAAAAAS1oc"), ("e", .string "AQAB"), ("x5c", .array [.null])]

def bared : Key := ⟨"k1", some "RS256", .rsa "gAAAAAAS1oc" "AQAB"⟩

def torn : List (Text × Json Text) := leaked.eraseIdx 6

theorem agree_torn : Agree torn (torn.drop 2) := by
  refine ⟨rfl, rfl, rfl, ?_⟩
  intro family found name member
  have rsa : some Family.rsa = some family := found
  cases rsa
  rcases List.mem_pair.1 member with rfl | rfl
  · rfl
  · rfl

/-- The private exponent is gone from what is published of the key, and the verdicts are those of the record that has it.
With or without it, a record that lacks a public member fails for that one. -/
theorem public_members_decide_specimen :
    Assoc.get? (Text.ofString "d") bared.published = none ∧
    (∀ algorithm signed signature, Verifier.judged algorithm (.object bared.published) signed signature =
      Verifier.judged algorithm (.object leaked) signed signature) ∧
    ofRecord (.object (torn.drop 2)) = .error (.missingMember "k1" "e") := by
  obtain ⟨alike, own, -⟩ := public_members_decide
  have read : ofRecord (.object leaked) = .ok bared := rfl
  obtain ⟨same, -, -, again⟩ := own leaked bared read
  refine ⟨rfl, (alike _ _ ((same _).1 again)).2, ?_⟩
  rw [(alike _ _ agree_torn).1]
  rfl

end Key

end Credential
