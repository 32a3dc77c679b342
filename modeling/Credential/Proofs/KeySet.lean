import Mathlib.Data.List.Forall2
import Mathlib.Data.List.Nodup
import Credential.KeySet
import Credential.Proofs.Key
import Credential.Proofs.Result

/-! What a key set holds. Of the records in a document those for other uses than signatures are passed over, and of the
others all become keys, in their order and each under a kid of its own, or none does. -/

namespace Credential

namespace Key

def kid? (record : Json Text) : Option Text := (record.member? (Text.ofString "kid")).bind Json.string?

theorem kid?_of_ofRecord {record : Json Text} {key : Key} (read : ofRecord record = .ok key) :
    kid? record = some key.kid := by
  cases record with
  | object members =>
    obtain ⟨-, ⟨given, -⟩, -⟩ := gives_members_iff.1 (ofMembers_ok_iff.1 read).members
    rw [kid?, Json.member?, (field_eq_iff (by rintro ⟨⟩)).1 given]
    rfl
  | _ => cases read

end Key

namespace KeySet

/-- An object whose use is given, and not for signatures. -/
def Skipped (record : Json Text) : Prop :=
  ∃ use, record.member? (Text.ofString "use") = some use ∧ use ≠ .null ∧ use ≠ .string (Text.ofString "sig")

def Lists (document : Json Text) (records : List (Json Text)) : Prop :=
  document.member? (Text.ofString "keys") = some (.array records)

theorem isKept_iff {record : Json Text} : isKept record = true ↔ ¬Skipped record := by
  unfold isKept
  split
  next members =>
    have skipped_iff : Skipped (.object members) ↔
        Key.field members "use" ≠ .null ∧ Key.field members "use" ≠ .string (Text.ofString "sig") := by
      constructor
      · rintro ⟨use, given, other, otherToo⟩
        rw [(Key.field_eq_iff other).2 given]
        exact ⟨other, otherToo⟩
      · rintro ⟨other, otherToo⟩
        exact ⟨_, (Key.field_eq_iff other).1 rfl, other, otherToo⟩
    rw [skipped_iff]
    split
    next null => simp [null]
    next use given => simp [given]
    next other otherToo =>
      refine iff_of_false (by rintro ⟨⟩) (not_not_intro ⟨other, ?_⟩)
      exact otherToo _
  next unobject =>
    refine iff_of_true rfl ?_
    rintro ⟨use, given, -⟩
    cases record with
    | object members => exact unobject members rfl
    | _ => cases given

section Read

variable {records : List (Json Text)} {keys : List Key} {keySet : KeySet} {enabled : Bool} {document : Json Text}

theorem result_readKeys (records : List (Json Text)) : (readKeys records).result =
    (records.filter isKept).mapM fun record => (Key.ofRecord record).mapError .badKey := by
  induction records with
  | nil => rfl
  | cons record rest ih =>
    unfold readKeys
    cases kept : isKept record with
    | false =>
      rw [if_neg (by decide), Run.result_bind, Run.result_note, List.filter_cons_of_neg (by rw [kept]; decide), ← ih]
      rfl
    | true =>
      rw [if_pos rfl, List.filter_cons_of_pos kept, List.mapM_cons, ← ih, Run.result_bind]
      cases Key.ofRecord record with
      | error cause => rfl
      | ok key =>
        simp only [Run.result_bind]
        rfl

def Become (records : List (Json Text)) (keys : List Key) : Prop :=
  List.Forall₂ (fun record key => Key.ofRecord record = .ok key) records keys

theorem mapM_ofRecord_ok_iff :
    records.mapM (fun record => (Key.ofRecord record).mapError Fault.badKey) = .ok keys ↔ Become records keys := by
  rw [Result.mapM_ok_iff]
  simp only [Result.Each, Result.mapError_ok_iff]
  rfl

theorem ofKeys_ok_iff : ofKeys keys enabled = .ok keySet ↔ (keys.map (·.kid)).Nodup ∧ keySet = ⟨keys, enabled⟩ := by
  have distinct : Assoc.repeated? [] (keys.map (·.kid)) = none ↔ (keys.map (·.kid)).Nodup := by
    rw [Assoc.repeated?_eq_none_iff]
    simp
  unfold ofKeys
  rw [← distinct]
  cases Assoc.repeated? [] (keys.map (·.kid)) with
  | none => simp [eq_comm]
  | some kid => simp

theorem ofDocument_eq (enabled : Bool) (lists : Lists document records) :
    ofDocument enabled document = readKeys records >>= fun keys => Run.ofExcept (ofKeys keys enabled) := by
  cases document with
  | object members =>
    have listed : Key.field members "keys" = .array records := (Key.field_eq_iff (by rintro ⟨⟩)).2 lists
    simp only [ofDocument, listed]
  | _ => cases lists

theorem result_ofDocument (enabled : Bool) (lists : Lists document records) : (ofDocument enabled document).result =
    (records.filter isKept).mapM (fun record => (Key.ofRecord record).mapError .badKey) >>=
      fun keys => ofKeys keys enabled := by
  simp only [← result_readKeys, ofDocument_eq enabled lists, Run.result_bind, Run.result_ofExcept]

theorem lists_of_ofDocument (read : (ofDocument enabled document).result = .ok keySet) :
    ∃ records, Lists document records := by
  unfold ofDocument at read
  split at read
  next members =>
    split at read
    next records listed => exact ⟨records, (Key.field_eq_iff (by rintro ⟨⟩)).1 listed⟩
    · cases read
  · cases read

namespace Become

theorem length_eq (become : Become records keys) : keys.length = records.length := (List.Forall₂.length_eq become).symm

theorem mem_iff (become : Become records keys) {key : Key} :
    key ∈ keys ↔ ∃ record ∈ records, Key.ofRecord record = .ok key :=
  Result.Each.mem_iff become

theorem map_kid (become : Become records keys) : records.map Key.kid? = keys.map fun key => some key.kid := by
  induction become with
  | nil => rfl
  | cons read _ ih => rw [List.map_cons, List.map_cons, ih, Key.kid?_of_ofRecord read]

theorem nodup_iff (become : Become records keys) : (records.map Key.kid?).Nodup ↔ (keys.map (·.kid)).Nodup := by
  have wrapped : (keys.map fun key => some key.kid) = (keys.map (·.kid)).map some := by
    rw [List.map_map]
    rfl
  rw [become.map_kid, wrapped]
  exact List.nodup_map_iff fun _ _ => Option.some.inj

end Become

theorem exists_become_iff :
    (∃ keys, Become records keys) ↔ ∀ record ∈ records, ∃ key, Key.ofRecord record = .ok key :=
  Result.exists_each_iff

theorem find?_kid_iff (distinct : (keys.map (·.kid)).Nodup) {kid : Text} {key : Key} :
    keys.find? (·.kid = kid) = some key ↔ key ∈ keys ∧ key.kid = kid := by
  constructor
  · intro found
    have same := List.find?_some found
    exact ⟨List.mem_of_find?_eq_some found, of_decide_eq_true same⟩
  · rintro ⟨member, rfl⟩
    induction keys with
    | nil => cases member
    | cons first rest ih =>
      obtain ⟨apart, distinct⟩ := List.nodup_cons.1 distinct
      rcases List.mem_cons.1 member with rfl | later
      · exact List.find?_cons_of_pos (decide_eq_true rfl)
      · rw [List.find?_cons_of_neg]
        · exact ih distinct later
        · intro same
          apply apart
          exact List.mem_map.2 ⟨key, later, (of_decide_eq_true same).symm⟩

/-- The key set of some records, which finds nothing unless it is enabled. -/
structure Holds (keySet : KeySet) (enabled : Bool) (records : List (Json Text)) : Prop where
  become : Become records keySet.keys
  size : keySet.size = records.length
  finds : ∀ kid key, keySet.get? kid = some key ↔
    enabled = true ∧ ∃ record ∈ records, Key.kid? record = some kid ∧ Key.ofRecord record = .ok key

theorem holds_of_become (become : Become records keys) (distinct : (keys.map (·.kid)).Nodup) :
    Holds ⟨keys, enabled⟩ enabled records where
  become := become
  size := become.length_eq
  finds := by
    intro kid key
    cases enabled with
    | false => exact iff_of_false (by rintro ⟨⟩) (fun parts => Bool.false_ne_true parts.1)
    | true =>
      rw [get?, if_pos rfl, find?_kid_iff distinct, become.mem_iff]
      constructor
      · rintro ⟨⟨record, member, read⟩, rfl⟩
        exact ⟨rfl, record, member, Key.kid?_of_ofRecord read, read⟩
      · rintro ⟨-, record, member, named, read⟩
        rw [Key.kid?_of_ofRecord read] at named
        exact ⟨⟨record, member, read⟩, Option.some.inj named⟩

theorem ofDocument_ok_iff (lists : Lists document records) : (ofDocument enabled document).result = .ok keySet ↔
    ∃ keys, Become (records.filter isKept) keys ∧ (keys.map (·.kid)).Nodup ∧ keySet = ⟨keys, enabled⟩ := by
  simp only [result_ofDocument enabled lists, Result.bind_ok_iff, mapM_ofRecord_ok_iff, ofKeys_ok_iff]

end Read

/-- What a key set is read from: a value, which may be the text of a document, or octets. -/
inductive Given where
  | json (value : Json Text)
  | octets (bytes : Bytes)

namespace Given

def load (enabled : Bool) : Given → Run Event Fault KeySet
  | .json value => ofJson enabled value
  | .octets bytes => ofBytes enabled bytes

def document? : Given → Option (Json Text)
  | .json (.string text) => (Json.read .plain text).toOption
  | .json document => some document
  | .octets bytes => (Json.Encoding.decode? bytes).bind fun text => (Json.read .plain text).toOption

/-- The records that the document meant lists, if it is an object that lists some. -/
def Publishes (given : Given) (records : List (Json Text)) : Prop :=
  ∃ document, given.document? = some document ∧ Lists document records

variable {given : Given} {enabled : Bool} {keySet : KeySet} {records : List (Json Text)} {document : Json Text}

private theorem ofText_of_toOption {text : Text} (meant : (Json.read .plain text).toOption = some document) :
    ofText enabled text = ofDocument enabled document := by
  unfold ofText
  cases read : Json.read .plain text with
  | error cause =>
    rw [read] at meant
    cases meant
  | ok found =>
    rw [read] at meant
    cases meant
    rfl

theorem load_eq (meant : given.document? = some document) : given.load enabled = ofDocument enabled document := by
  cases given with
  | json value =>
    cases value with
    | string text => exact ofText_of_toOption meant
    | _ =>
      cases meant
      rfl
  | octets bytes =>
    obtain ⟨text, decoded, read⟩ := Option.bind_eq_some_iff.1 meant
    rw [load, ofBytes, decoded]
    exact ofText_of_toOption read

private theorem ofText_fails {text : Text} (unread : (Json.read .plain text).toOption = none) :
    ofText enabled text = Run.fail .notJson := by
  unfold ofText
  cases read : Json.read .plain text with
  | error cause => rfl
  | ok found =>
    rw [read] at unread
    cases unread

theorem load_fails (meant : given.document? = none) : given.load enabled = Run.fail .notJson := by
  cases given with
  | json value =>
    cases value with
    | string text => exact ofText_fails meant
    | _ => cases meant
  | octets bytes =>
    rw [load, ofBytes]
    cases decoded : Json.Encoding.decode? bytes with
    | none => rfl
    | some text =>
      rw [document?, decoded] at meant
      exact ofText_fails meant

theorem publishes_of_load (read : (given.load enabled).result = .ok keySet) : ∃ records, given.Publishes records := by
  cases meant : given.document? with
  | none =>
    rw [load_fails meant] at read
    cases read
  | some document =>
    rw [load_eq meant] at read
    obtain ⟨records, lists⟩ := lists_of_ofDocument read
    exact ⟨records, document, meant, lists⟩

theorem load_ok_iff (publishes : given.Publishes records) : (given.load enabled).result = .ok keySet ↔
    ∃ keys, Become (records.filter isKept) keys ∧ (keys.map (·.kid)).Nodup ∧ keySet = ⟨keys, enabled⟩ := by
  obtain ⟨document, meant, lists⟩ := publishes
  rw [load_eq meant, ofDocument_ok_iff lists]

/-- A document gives a key set just if it lists records of which those kept are all keys, under distinct kids. The set
holds these and no other, in order, and what is passed over has no part in it. -/
theorem load_holds_kept (given : Given) (enabled : Bool) :
    (∀ record, isKept record = true ↔ ¬Skipped record) ∧
    ((∃ keySet, (given.load enabled).result = .ok keySet) ↔ ∃ records, given.Publishes records ∧
      (∀ record ∈ records.filter isKept, ∃ key, Key.ofRecord record = .ok key) ∧
      ((records.filter isKept).map Key.kid?).Nodup) ∧
    (∀ keySet records, (given.load enabled).result = .ok keySet → given.Publishes records →
      Holds keySet enabled (records.filter isKept)) ∧
    ∀ other records others, given.Publishes records → Publishes other others →
      others.filter isKept = records.filter isKept → (other.load enabled).result = (given.load enabled).result := by
  refine ⟨fun _ => isKept_iff, ⟨?_, ?_⟩, ?_, ?_⟩
  · rintro ⟨keySet, read⟩
    obtain ⟨records, publishes⟩ := publishes_of_load read
    obtain ⟨keys, become, distinct, -⟩ := (load_ok_iff publishes).1 read
    exact ⟨records, publishes, exists_become_iff.1 ⟨keys, become⟩, become.nodup_iff.2 distinct⟩
  · rintro ⟨records, publishes, valid, distinct⟩
    obtain ⟨keys, become⟩ := exists_become_iff.2 valid
    exact ⟨_, (load_ok_iff publishes).2 ⟨keys, become, become.nodup_iff.1 distinct, rfl⟩⟩
  · intro keySet records read publishes
    obtain ⟨keys, become, distinct, rfl⟩ := (load_ok_iff publishes).1 read
    exact holds_of_become become distinct
  · rintro other records others ⟨document, meant, lists⟩ ⟨twin, meantToo, listsToo⟩ same
    rw [load_eq meant, load_eq meantToo, result_ofDocument enabled lists, result_ofDocument enabled listsToo, same]

def signing : Json Text :=
  .object [("kty", .string "oct"), ("kid", .string "k1"), ("k", .string "AQ"), ("use", .string "sig")]

/-- Under the same kid a record for another use, which is no key. -/
def encrypting : Json Text := .object [("kid", .string "k1"), ("use", .string "enc")]

def specimen : Given := .json (.object [("keys", .array [encrypting, signing])])

theorem load_holds_kept_specimen : specimen.Publishes [encrypting, signing] ∧
    ∃ keySet, (specimen.load true).result = .ok keySet ∧ keySet.size = 1 ∧
      keySet.get? "k1" = some ⟨"k1", none, .oct "AQ"⟩ := by
  have publishes : specimen.Publishes [encrypting, signing] := ⟨_, rfl, rfl⟩
  have kept : [encrypting, signing].filter isKept = [signing] := rfl
  have read : Key.ofRecord signing = .ok ⟨"k1", none, .oct "AQ"⟩ := rfl
  have valid : ∀ record ∈ [encrypting, signing].filter isKept, ∃ key, Key.ofRecord record = .ok key := by
    rw [kept, List.forall_mem_singleton]
    exact ⟨_, read⟩
  obtain ⟨-, succeeds, holds, -⟩ := load_holds_kept specimen true
  obtain ⟨keySet, loaded⟩ := succeeds.2 ⟨_, publishes, valid, List.nodup_singleton _⟩
  have held := holds keySet _ loaded publishes
  have found := (held.finds "k1" _).2 ⟨rfl, signing, List.mem_singleton_self signing, rfl, read⟩
  exact ⟨publishes, keySet, loaded, held.size, found⟩

end Given

end KeySet

end Credential
