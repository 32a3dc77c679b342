import Credential.Proofs.Json.Ambiguity
import Credential.Proofs.Json.Lexemes

/-! A strict reader gives back what an issuer wrote. The lexemes of a compact text are those of a tree, and its names
are distinct as the issuer had them, so that tree is what is read. Only a number that is no integer can come back as
another: as what its text says. -/

namespace Credential.Json

section Rereading

open Lexeme

theorem names_membersToText (members : List (String × Json String)) :
    Assoc.names (membersToText members) = (Assoc.names members).map Text.ofString := by
  induction members with
  | nil => rfl
  | cons member rest ih =>
    rw [membersToText, Assoc.names, List.map_cons]
    exact congrArg (Text.ofString member.1 :: ·) ih

mutual

/-- A value as it is read: every number that is no integer is what its text says. -/
def reread : Json String → Json String
  | .null => .null
  | .bool value => .bool value
  | .int value => .int value
  | .real value => .real (readBack value)
  | .string value => .string value
  | .array items => .array (rereadItems items)
  | .object members => .object (rereadMembers members)

def rereadItems : List (Json String) → List (Json String)
  | [] => []
  | item :: rest => reread item :: rereadItems rest

def rereadMembers : List (String × Json String) → List (String × Json String)
  | [] => []
  | (name, value) :: rest => (name, reread value) :: rereadMembers rest

end

theorem get?_rereadMembers (name : String) (members : List (String × Json String)) :
    Assoc.get? name (rereadMembers members) = (Assoc.get? name members).map reread := by
  induction members with
  | nil => rfl
  | cons member rest ih =>
    rw [rereadMembers, Assoc.get?, Assoc.get?]
    split
    · rfl
    · exact ih

theorem names_rereadMembers (members : List (String × Json String)) :
    Assoc.names (rereadMembers members) = Assoc.names members := by
  induction members with
  | nil => rfl
  | cons member rest ih =>
    rw [rereadMembers, Assoc.names, List.map_cons]
    exact congrArg (member.1 :: ·) ih

mutual

/-- What a reader finds of a value is what spells the value that it reads. -/
theorem lexemes_reread : ∀ value : Json String, value.lexemes.map seen = value.reread.toText.lexemes
  | .null => rfl
  | .bool _ => rfl
  | .int _ => rfl
  | .real _ => rfl
  | .string _ => rfl
  | .array [] => rfl
  | .array (item :: items) => by
    rw [lexemes, List.map_append, List.map_cons, lexemes_reread item, laterItems_reread items]
    rfl
  | .object [] => rfl
  | .object ((name, value) :: members) => by
    rw [lexemes, List.map_append, List.map_cons, List.map_cons, List.map_cons, lexemes_reread value,
      laterMembers_reread members]
    rfl

theorem laterItems_reread : ∀ items : List (Json String),
    (laterItems items).map seen = laterItems (itemsToText (rereadItems items))
  | [] => rfl
  | item :: items => by
    rw [laterItems, List.map_append, List.map_cons, lexemes_reread item, laterItems_reread items]
    rfl

theorem laterMembers_reread : ∀ members : List (String × Json String),
    (laterMembers members).map seen = laterMembers (membersToText (rereadMembers members))
  | [] => rfl
  | (name, value) :: members => by
    rw [laterMembers, List.map_append, List.map_cons, List.map_cons, List.map_cons, lexemes_reread value,
      laterMembers_reread members]
    rfl

end

mutual

theorem Legible.distinct : ∀ {value : Json String}, value.Legible → value.reread.toText.Distinct
  | .null, _ => nofun
  | .bool _, _ => nofun
  | .int _, _ => nofun
  | .real _, _ => nofun
  | .string _, _ => nofun
  | .array _, sound => distinct_array.2 (LegibleItems.distinct sound)
  | .object members, sound => by
    refine distinct_object.2 ⟨?_, LegibleMembers.distinct sound.2⟩
    rw [names_membersToText, names_rereadMembers]
    exact List.Pairwise.map Text.ofString (fun _ _ other same => other (Text.ofString_inj.1 same)) sound.1

theorem LegibleItems.distinct : ∀ {items : List (Json String)}, LegibleItems items →
    ∀ item ∈ itemsToText (rereadItems items), item.Distinct
  | [], _ => nofun
  | _ :: _, sound => List.forall_mem_cons.2 ⟨Legible.distinct sound.1, LegibleItems.distinct sound.2⟩

theorem LegibleMembers.distinct : ∀ {members : List (String × Json String)}, LegibleMembers members →
    ∀ member ∈ membersToText (rereadMembers members), member.2.Distinct
  | [], _ => nofun
  | (_, _) :: _, sound => List.forall_mem_cons.2 ⟨Legible.distinct sound.1, LegibleMembers.distinct sound.2⟩

end

end Rereading

mutual

theorem toStrings?_toText : ∀ value : Json String, value.toText.toStrings? = some value
  | .null => rfl
  | .bool _ => rfl
  | .int _ => rfl
  | .real _ => rfl
  | .string value => by
    rw [toText, toStrings?, mapText?, Text.toString?_ofString]
    rfl
  | .array items => by
    rw [toText, toStrings?, mapText?, mapItems?_itemsToText items]
    rfl
  | .object members => by
    rw [toText, toStrings?, mapText?, mapMembers?_membersToText members]
    rfl

theorem mapItems?_itemsToText : ∀ items : List (Json String),
    mapItems? Text.toString? (itemsToText items) = some items
  | [] => rfl
  | item :: rest => by
    have first : mapText? Text.toString? item.toText = some item := toStrings?_toText item
    rw [itemsToText, mapItems?, first, mapItems?_itemsToText rest]
    rfl

theorem mapMembers?_membersToText : ∀ members : List (String × Json String),
    mapMembers? Text.toString? (membersToText members) = some members
  | [] => rfl
  | (name, value) :: rest => by
    have first : mapText? Text.toString? value.toText = some value := toStrings?_toText value
    rw [membersToText, mapMembers?, Text.toString?_ofString, first, mapMembers?_membersToText rest]
    rfl

end

mutual

def Exact : Json String → Prop
  | .real _ => False
  | .array items => ExactItems items
  | .object members => (Assoc.names members).Nodup ∧ ExactMembers members
  | _ => True

def ExactItems : List (Json String) → Prop
  | [] => True
  | item :: rest => Exact item ∧ ExactItems rest

def ExactMembers : List (String × Json String) → Prop
  | [] => True
  | (_, value) :: rest => Exact value ∧ ExactMembers rest

end

mutual

theorem Exact.legible : ∀ {value : Json String}, value.Exact → value.Legible
  | .null, _ => trivial
  | .bool _, _ => trivial
  | .int _, _ => trivial
  | .real _, sound => sound.elim
  | .string _, _ => trivial
  | .array _, sound => ExactItems.legible sound
  | .object _, sound => ⟨sound.1, ExactMembers.legible sound.2⟩

theorem ExactItems.legible : ∀ {items : List (Json String)}, ExactItems items → LegibleItems items
  | [], _ => trivial
  | _ :: _, sound => ⟨Exact.legible sound.1, ExactItems.legible sound.2⟩

theorem ExactMembers.legible : ∀ {members : List (String × Json String)}, ExactMembers members → LegibleMembers members
  | [], _ => trivial
  | (_, _) :: _, sound => ⟨Exact.legible sound.1, ExactMembers.legible sound.2⟩

end

mutual

theorem Exact.reread : ∀ {value : Json String}, value.Exact → value.reread = value
  | .null, _ => rfl
  | .bool _, _ => rfl
  | .int _, _ => rfl
  | .real _, sound => sound.elim
  | .string _, _ => rfl
  | .array _, sound => congrArg Json.array (ExactItems.reread sound)
  | .object _, sound => congrArg Json.object (ExactMembers.reread sound.2)

theorem ExactItems.reread : ∀ {items : List (Json String)}, ExactItems items → rereadItems items = items
  | [], _ => rfl
  | _ :: _, sound => by
    rw [rereadItems, Exact.reread sound.1, ExactItems.reread sound.2]

theorem ExactMembers.reread : ∀ {members : List (String × Json String)}, ExactMembers members →
    rereadMembers members = members
  | [], _ => rfl
  | (_, _) :: _, sound => by
    rw [rereadMembers, Exact.reread sound.1, ExactMembers.reread sound.2]

end

/-- A compact text is read as the value it was written from, its real numbers as they are written. -/
theorem read_render {value : Json String} (quoting : Quoting) (sound : value.Legible) :
    read .strict (Text.ofChars (value.render quoting.quote)) = .ok value.reread.toText := by
  have spelled : Lexeme.ofText (Text.ofChars (value.render quoting.quote)) = value.reread.toText.lexemes :=
    (ofText_render sound).trans (lexemes_reread value)
  refine read_strict_iff.2 ⟨?_, sound.distinct, fun name => ?_⟩
  · rw [Says, spelled, evaluated_lexemes]
  · rw [spelled]
    exact constant_not_mem_lexemes name _

end Credential.Json

namespace Credential.Token

open Rejection

/-- The members of an object come back from its octets in their order, whichever part of a token they are, and
their values as they are read. -/
theorem parseObject_legible {members : List (String × Json String)} (part : Part) (quoting : Json.Quoting)
    (sound : (Json.object members).Legible) :
    parseObject part ((Json.object members).octets quoting) = .ok (Json.rereadMembers members) := by
  have text : Text.ofString (String.ofList ((Json.object members).render quoting.quote)) =
      Text.ofChars ((Json.object members).render quoting.quote) := by
    rw [Text.ofString, String.toList_ofList]
  have strings := Json.toStrings?_toText (Json.object members).reread
  rw [parseObject, Json.octets, Bytes.toString?_ofString]
  simp only [text, Json.read_render quoting sound, strings]
  rfl

theorem parseObject_octets {members : List (String × Json String)} (part : Part) (quoting : Json.Quoting)
    (sound : (Json.object members).Exact) :
    parseObject part ((Json.object members).octets quoting) = .ok members := by
  rw [parseObject_legible part quoting (Json.Exact.legible sound), Json.ExactMembers.reread sound.2]

end Credential.Token
