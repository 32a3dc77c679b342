import Credential.Proofs.Json.Reading

/-! Which octets are an object of one meaning. They are the text of an object that any reader would take, and the text
is not ambiguous. So it does not matter which of several members of one name a reader keeps: it sees the same
object. -/

namespace Credential

theorem Bytes.toString?_eq_some_iff {bytes : Bytes} {text : String} :
    bytes.toString? = some text ↔ bytes = ofString text := by
  constructor
  · intro decoded
    unfold toString? String.fromUTF8? at decoded
    split at decoded
    · cases decoded
      rfl
    · cases decoded
  · rintro rfl
    exact toString?_ofString text

namespace Json

section Strings

/-- No half of a surrogate pair stands in a string among the lexemes. -/
def PairedIn (lexemes : List (Lexeme Text)) : Prop := ∀ value, .string value ∈ lexemes → Text.Paired value

theorem pairedIn_nil : PairedIn [] := fun _ impossible => absurd impossible List.not_mem_nil

theorem pairedIn_append {first second : List (Lexeme Text)} :
    PairedIn (first ++ second) ↔ PairedIn first ∧ PairedIn second := by
  constructor
  · intro paired
    exact ⟨fun value among => paired value (List.mem_append_left _ among),
      fun value among => paired value (List.mem_append_right _ among)⟩
  · intro parts value among
    rcases List.mem_append.1 among with first | second
    · exact parts.1 value first
    · exact parts.2 value second

theorem pairedIn_cons {lexeme : Lexeme Text} {rest : List (Lexeme Text)} :
    PairedIn (lexeme :: rest) ↔ (∀ value, lexeme = .string value → Text.Paired value) ∧ PairedIn rest := by
  constructor
  · intro paired
    exact ⟨fun value same => paired value (same ▸ List.mem_cons_self),
      fun value among => paired value (List.mem_cons_of_mem _ among)⟩
  · intro parts value among
    rcases List.mem_cons.1 among with first | later
    · exact parts.1 value first.symm
    · exact parts.2 value later

private theorem pairedIn_plain {lexeme : Lexeme Text} {rest : List (Lexeme Text)}
    (plain : ∀ value, lexeme ≠ .string value) : PairedIn (lexeme :: rest) ↔ PairedIn rest :=
  pairedIn_cons.trans (and_iff_right fun value same => absurd same (plain value))

private theorem pairedIn_named {name : Text} {first rest : List (Lexeme Text)} :
    PairedIn (.string name :: .colon :: first ++ rest) ↔ name.Paired ∧ PairedIn first ∧ PairedIn rest := by
  rw [List.cons_append, pairedIn_cons, List.cons_append, pairedIn_plain (by simp), pairedIn_append]
  simp

private theorem pairedIn_opened {opening : Lexeme Text} {first rest : List (Lexeme Text)}
    (plain : ∀ value, opening ≠ .string value) :
    PairedIn (opening :: first ++ rest) ↔ PairedIn first ∧ PairedIn rest := by
  rw [List.cons_append, pairedIn_plain plain, pairedIn_append]

mutual

theorem exists_toText : ∀ {tree : Json Text}, PairedIn tree.lexemes → ∃ value : Json String, tree = value.toText
  | .null, _ => ⟨.null, rfl⟩
  | .bool value, _ => ⟨.bool value, rfl⟩
  | .int value, _ => ⟨.int value, rfl⟩
  | .real value, _ => ⟨.real value, rfl⟩
  | .string text, paired => by
    obtain ⟨value, rfl⟩ := (paired text (List.mem_singleton_self _)).exists_string
    exact ⟨.string value, rfl⟩
  | .array [], _ => ⟨.array [], rfl⟩
  | .array (item :: items), paired => by
    obtain ⟨first, later⟩ := (pairedIn_opened (by simp)).1 paired
    obtain ⟨value, rfl⟩ := exists_toText first
    obtain ⟨values, rfl⟩ := exists_itemsToText later
    exact ⟨.array (value :: values), rfl⟩
  | .object [], _ => ⟨.object [], rfl⟩
  | .object ((name, tree) :: members), paired => by
    obtain ⟨named, first, later⟩ := pairedIn_named.1 ((pairedIn_plain (by simp)).1 paired)
    obtain ⟨name, rfl⟩ := named.exists_string
    obtain ⟨value, rfl⟩ := exists_toText first
    obtain ⟨values, rfl⟩ := exists_membersToText later
    exact ⟨.object ((name, value) :: values), rfl⟩

theorem exists_itemsToText : ∀ {items : List (Json Text)}, PairedIn (laterItems items) →
    ∃ values : List (Json String), items = itemsToText values
  | [], _ => ⟨[], rfl⟩
  | item :: items, paired => by
    obtain ⟨first, later⟩ := (pairedIn_opened (by simp)).1 paired
    obtain ⟨value, rfl⟩ := exists_toText first
    obtain ⟨values, rfl⟩ := exists_itemsToText later
    exact ⟨value :: values, rfl⟩

theorem exists_membersToText : ∀ {members : List (Text × Json Text)}, PairedIn (laterMembers members) →
    ∃ values : List (String × Json String), members = membersToText values
  | [], _ => ⟨[], rfl⟩
  | (name, tree) :: members, paired => by
    obtain ⟨named, first, later⟩ := pairedIn_named.1 ((pairedIn_plain (by simp)).1 paired)
    obtain ⟨name, rfl⟩ := named.exists_string
    obtain ⟨value, rfl⟩ := exists_toText first
    obtain ⟨values, rfl⟩ := exists_membersToText later
    exact ⟨(name, value) :: values, rfl⟩

end

mutual

theorem pairedIn_toText : ∀ value : Json String, PairedIn value.toText.lexemes
  | .null | .bool _ | .int _ | .real _ => (pairedIn_plain (by simp)).2 pairedIn_nil
  | .string value => by
    intro text among
    cases List.mem_singleton.1 among
    exact Text.paired_ofString value
  | .array [] | .object [] => (pairedIn_plain (by simp)).2 ((pairedIn_plain (by simp)).2 pairedIn_nil)
  | .array (item :: items) => (pairedIn_opened (by simp)).2 ⟨pairedIn_toText item, pairedIn_laterItems items⟩
  | .object ((name, value) :: members) => (pairedIn_plain (by simp)).2
    (pairedIn_named.2 ⟨Text.paired_ofString name, pairedIn_toText value, pairedIn_laterMembers members⟩)

theorem pairedIn_laterItems : ∀ items : List (Json String), PairedIn (laterItems (itemsToText items))
  | [] => (pairedIn_plain (by simp)).2 pairedIn_nil
  | item :: items => (pairedIn_opened (by simp)).2 ⟨pairedIn_toText item, pairedIn_laterItems items⟩

theorem pairedIn_laterMembers : ∀ members : List (String × Json String),
    PairedIn (laterMembers (membersToText members))
  | [] => (pairedIn_plain (by simp)).2 pairedIn_nil
  | (name, value) :: members => (pairedIn_plain (by simp)).2
    (pairedIn_named.2 ⟨Text.paired_ofString name, pairedIn_toText value, pairedIn_laterMembers members⟩)

end

mutual

theorem toText_of_mapText? : ∀ {tree : Json Text} {value : Json String},
    mapText? Text.toString? tree = some value → tree = value.toText
  | .null, _, converts => by cases converts; rfl
  | .bool _, _, converts => by cases converts; rfl
  | .int _, _, converts => by cases converts; rfl
  | .real _, _, converts => by cases converts; rfl
  | .string _, _, converts => by
    obtain ⟨value, decodes, rfl⟩ := Option.map_eq_some_iff.1 converts
    rw [Text.toString?_eq_some_iff.1 decodes]
    rfl
  | .array _, _, converts => by
    obtain ⟨values, inside, rfl⟩ := Option.map_eq_some_iff.1 converts
    exact congrArg Json.array (itemsToText_of_mapItems? inside)
  | .object _, _, converts => by
    obtain ⟨values, inside, rfl⟩ := Option.map_eq_some_iff.1 converts
    exact congrArg Json.object (membersToText_of_mapMembers? inside)

theorem itemsToText_of_mapItems? : ∀ {items : List (Json Text)} {values : List (Json String)},
    mapItems? Text.toString? items = some values → items = itemsToText values
  | [], _, converts => by cases converts; rfl
  | _ :: _, _, converts => by
    obtain ⟨value, first, converts⟩ := Option.bind_eq_some_iff.1 converts
    obtain ⟨values, later, same⟩ := Option.bind_eq_some_iff.1 converts
    cases same
    rw [toText_of_mapText? first, itemsToText_of_mapItems? later]
    rfl

theorem membersToText_of_mapMembers? : ∀ {members : List (Text × Json Text)} {values : List (String × Json String)},
    mapMembers? Text.toString? members = some values → members = membersToText values
  | [], _, converts => by cases converts; rfl
  | (_, _) :: _, _, converts => by
    obtain ⟨name, named, converts⟩ := Option.bind_eq_some_iff.1 converts
    obtain ⟨value, first, converts⟩ := Option.bind_eq_some_iff.1 converts
    obtain ⟨values, later, same⟩ := Option.bind_eq_some_iff.1 converts
    cases same
    rw [Text.toString?_eq_some_iff.1 named, toText_of_mapText? first, membersToText_of_mapMembers? later]
    rfl

end

/-- Which tree a value was made from can be told from the value. -/
theorem toStrings?_eq_some_iff {tree : Json Text} {value : Json String} :
    tree.toStrings? = some value ↔ tree = value.toText := by
  constructor
  · exact toText_of_mapText?
  · rintro rfl
    exact toStrings?_toText value

end Strings

/-- A text of one meaning: whatever tree it says, no object in it has two members of one name; no number stands for
one that is not finite by its name; and in no string is there half of a surrogate pair. -/
structure Unambiguous (source : Text) : Prop where
  distinct : ∀ tree, Says source tree → tree.Distinct
  finite : ∀ name, .constant name ∉ Lexeme.ofText source
  paired : PairedIn (Lexeme.ofText source)

theorem pairedIn_evaluated {lexemes : List (Lexeme Text)} : PairedIn (lexemes.map Lexeme.evaluated) ↔ PairedIn lexemes := by
  have same : ∀ value, .string value ∈ lexemes.map Lexeme.evaluated ↔ .string value ∈ lexemes := by
    intro value
    constructor
    · intro among
      obtain ⟨lexeme, among, evaluates⟩ := List.mem_map.1 among
      cases lexeme <;> cases evaluates
      exact among
    · intro among
      exact List.mem_map.2 ⟨_, among, rfl⟩
  simp only [PairedIn, same]

theorem Says.paired_iff {source : Text} {tree : Json Text} (said : Says source tree) :
    PairedIn (Lexeme.ofText source) ↔ ∃ value : Json String, tree = value.toText := by
  rw [← pairedIn_evaluated, said]
  constructor
  · exact exists_toText
  · rintro ⟨value, rfl⟩
    exact pairedIn_toText value

theorem Says.unique {source : Text} {tree other : Json Text} (said : Says source tree) (saidToo : Says source other) :
    tree = other :=
  Except.ok.inj ((read_verbatim_iff.2 said).symm.trans (read_verbatim_iff.2 saidToo))

/-- Whichever members a reader chooses, it gives a tree of strings for a text that is not ambiguous just if a strict
reader gives the same tree for it. -/
theorem read_strict_toText_iff {choose : List (Text × Json Text) → List (Text × Json Text)} (keeps : KeepsDistinct choose)
    {source : Text} {value : Json String} : read .strict source = .ok value.toText ↔
      read (.lenient choose) source = .ok value.toText ∧ Unambiguous source := by
  rw [read_lenient]
  constructor
  · intro reads
    obtain ⟨said, distinct, finite⟩ := read_strict_iff.1 reads
    rw [read_verbatim_iff.2 said]
    refine ⟨congrArg Except.ok (collapse_distinct keeps distinct), ?_, finite, said.paired_iff.2 ⟨value, rfl⟩⟩
    intro other saidToo
    exact said.unique saidToo ▸ distinct
  · intro parts
    obtain ⟨reads, clear⟩ := parts
    cases kept : read .verbatim source with
    | error fault =>
      rw [kept] at reads
      cases reads
    | ok tree =>
      have said := read_verbatim_iff.1 kept
      have distinct := clear.distinct tree said
      rw [kept, Except.map, collapse_distinct keeps distinct] at reads
      cases reads
      exact read_strict_iff.2 ⟨said, distinct, clear.finite⟩

theorem Unambiguous.exists_toText {choose : List (Text × Json Text) → List (Text × Json Text)}
    (keeps : KeepsDistinct choose) {source : Text} {tree : Json Text} (clear : Unambiguous source)
    (reads : read (.lenient choose) source = .ok tree) : ∃ value : Json String, tree = value.toText := by
  rw [read_lenient] at reads
  cases kept : read .verbatim source with
  | error fault =>
    rw [kept] at reads
    cases reads
  | ok whole =>
    have said := read_verbatim_iff.1 kept
    rw [kept, Except.map, collapse_distinct keeps (clear.distinct whole said)] at reads
    cases reads
    exact said.paired_iff.1 clear.paired

end Json

namespace Token

open Json

theorem parseObject_ok_iff {part : Rejection.Part} {octets : Bytes} {members : List (String × Json String)} :
    parseObject part octets = .ok members ↔ ∃ text, octets = Bytes.ofString text ∧
      read .strict (Text.ofString text) = .ok (Json.object members).toText := by
  constructor
  · intro parses
    unfold parseObject at parses
    split at parses
    · cases parses
    next text decoded =>
      refine ⟨text, Bytes.toString?_eq_some_iff.1 decoded, ?_⟩
      split at parses
      · cases parses
      next tree reads =>
        split at parses
        · cases parses
        next converts =>
          cases parses
          rw [reads, toStrings?_eq_some_iff.1 converts]
        · cases parses
  · rintro ⟨text, rfl, reads⟩
    simp only [parseObject, Bytes.toString?_ofString, reads, toStrings?_toText]

theorem parseObject_error {part : Rejection.Part} {octets : Bytes} {cause : Rejection.Malformation}
    (refused : parseObject part octets = .error cause) :
    (∃ fault, cause = .notJson part fault) ∨ cause = .unpairedSurrogate part ∨ cause = .notObject part := by
  unfold parseObject at refused
  split at refused
  · cases refused
    exact .inl ⟨_, rfl⟩
  · split at refused
    · cases refused
      exact .inl ⟨_, rfl⟩
    · split at refused
      · cases refused
        exact .inr (.inl rfl)
      · cases refused
      · cases refused
        exact .inr (.inr rfl)

/-- The octets of an object of one meaning are those of a text that any reader takes for the object, if the text is
not ambiguous, and all others are malformed. So readers agree about what is accepted, whichever of several members of
one name they would keep, the first of them or the last. -/
theorem parseObject_unambiguous (part : Rejection.Part) (octets : Bytes) :
    (∀ members, parseObject part octets = .ok members ↔ ∃ text, octets = Bytes.ofString text ∧
      read .plain (Text.ofString text) = .ok (Json.object members).toText ∧ Unambiguous (Text.ofString text)) ∧
    ((∃ members, parseObject part octets = .ok members) ↔ ∃ text members, octets = Bytes.ofString text ∧
      read .plain (Text.ofString text) = .ok (.object members) ∧ Unambiguous (Text.ofString text)) ∧
    ((¬∃ members, parseObject part octets = .ok members) → ∃ cause, parseObject part octets = .error cause ∧
      (Rejection.malformed cause).code = "malformed_token" ∧
      ((∃ fault, cause = .notJson part fault) ∨ cause = .unpairedSurrogate part ∨ cause = .notObject part)) ∧
    (∀ members, parseObject part octets = .ok members → ∃ text, octets = Bytes.ofString text ∧
      read .earliest (Text.ofString text) = .ok (Json.object members).toText ∧
      read .plain (Text.ofString text) = .ok (Json.object members).toText ∧
      ∀ choose, KeepsDistinct choose →
        read (.lenient choose) (Text.ofString text) = .ok (Json.object members).toText) := by
  have last : KeepsDistinct Assoc.ofList := fun _ distinct => Assoc.ofList_distinct distinct
  have first : KeepsDistinct Assoc.firsts := fun _ distinct => Assoc.firsts_distinct distinct
  refine ⟨?_, ?_, ?_, ?_⟩
  · intro members
    simp only [parseObject_ok_iff, read_strict_toText_iff last, plain_eq]
  · constructor
    · rintro ⟨members, parses⟩
      obtain ⟨text, same, reads⟩ := parseObject_ok_iff.1 parses
      exact ⟨text, membersToText members, same, (read_strict_toText_iff last).1 reads⟩
    · rintro ⟨text, members, same, reads, clear⟩
      obtain ⟨value, made⟩ := clear.exists_toText last reads
      rw [plain_eq, made] at reads
      cases value with
      | object values =>
        exact ⟨values, parseObject_ok_iff.2 ⟨text, same, (read_strict_toText_iff last).2 ⟨reads, clear⟩⟩⟩
      | _ => cases made
  · intro refused
    cases parses : parseObject part octets with
    | error cause => exact ⟨cause, rfl, rfl, parseObject_error parses⟩
    | ok members => exact absurd ⟨members, parses⟩ refused
  · intro members parses
    obtain ⟨text, same, reads⟩ := parseObject_ok_iff.1 parses
    have agree : ∀ choose, KeepsDistinct choose →
        read (.lenient choose) (Text.ofString text) = .ok (Json.object members).toText :=
      fun choose keeps => ((read_strict_toText_iff keeps).1 reads).1
    exact ⟨text, same, agree _ first, agree _ last, agree⟩

/-- An object with an array in it, and octets that are no text. -/
theorem parseObject_unambiguous_specimen :
    (∃ text, (Json.object [("a", .array [.int 1])]).octets .escaped = Bytes.ofString text ∧
      read .earliest (Text.ofString text) = .ok (Json.object [("a", .array [.int 1])]).toText) ∧
    ∃ cause, parseObject .payload [0xFF] = .error cause ∧ (Rejection.malformed cause).code = "malformed_token" := by
  have exact : (Json.object [("a", .array [.int 1])]).Exact := ⟨by decide, ⟨trivial, trivial⟩, trivial⟩
  constructor
  · obtain ⟨text, same, first, -⟩ :=
      (parseObject_unambiguous .payload _).2.2.2 _ (parseObject_octets .payload .escaped exact)
    exact ⟨text, same, first⟩
  · have refused : ¬∃ members, parseObject .payload [0xFF] = .ok members := by
      rintro ⟨members, parses⟩
      cases parses
    obtain ⟨cause, fails, coded, -⟩ := (parseObject_unambiguous .payload [0xFF]).2.2.1 refused
    exact ⟨cause, fails, coded⟩

end Token

end Credential
