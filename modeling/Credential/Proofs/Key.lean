import Credential.Key
import Credential.Proofs.Result

/-! When a record is read as a key, and as which. It must give the members that the key publishes, as strings that are not
empty, and the pin that the key has. -/

namespace Credential

namespace Family

def required : Family → List String
  | .rsa => ["n", "e"]
  | .ec => ["crv", "x", "y"]
  | .okp => ["crv", "x"]
  | .oct => ["k"]

theorem ofName?_eq_some_iff {name : String} {family : Family} : ofName? name = some family ↔ family.name = name := by
  constructor
  · intro found
    have same := List.find?_some found
    exact of_decide_eq_true same
  · rintro rfl
    cases family <;> decide

theorem ofString_name_ne_nil (family : Family) : Text.ofString family.name ≠ [] := by
  cases family <;> decide

end Family

namespace Key

/-- What a key of the material publishes besides its family and its kid. -/
def Material.members : Material → List (String × Text)
  | .rsa n e => [("n", n), ("e", e)]
  | .ec crv x y => [("crv", crv), ("x", x), ("y", y)]
  | .okp crv x => [("crv", crv), ("x", x)]
  | .oct k => [("k", k)]

theorem Material.names_members (material : Material) : material.members.map Prod.fst = material.family.required := by
  cases material <;> rfl

theorem members_eq (key : Key) : key.members =
    ("kty", Text.ofString key.family.name) :: ("kid", key.kid) :: key.material.members := by
  obtain ⟨kid, pin, material⟩ := key
  cases material <;> rfl

def pinned (pin : Option Text) : Json Text := (pin.map .string).getD .null

def Gives (record : List (Text × Json Text)) (parts : List (String × Text)) : Prop :=
  ∀ part ∈ parts, field record part.1 = .string part.2 ∧ part.2 ≠ []

/-- A record of the key, whatever other members it has. -/
structure Shows (record : List (Text × Json Text)) (key : Key) : Prop where
  members : Gives record key.members
  pin : field record "alg" = pinned key.pin

section Field

variable {record : List (Text × Json Text)} {name : String} {value : Json Text} {kid text : Text} {pin : Option Text}
  {family : Family} {material : Material} {key : Key}

/-- A field that is not null is a member. -/
theorem field_eq_iff (given : value ≠ .null) :
    field record name = value ↔ Assoc.get? (Text.ofString name) record = some value := by
  unfold field
  cases Assoc.get? (Text.ofString name) record with
  | none => exact iff_of_false (fun absent => given absent.symm) (by rintro ⟨⟩)
  | some found => rw [Option.getD_some, Option.some.injEq]

theorem filled?_eq_some_iff : filled? value = some text ↔ value = .string text ∧ text ≠ [] := by
  unfold filled?
  split
  · simp
  next given =>
    rw [Option.some.injEq, Json.string.injEq]
    constructor
    · rintro rfl
      exact ⟨rfl, given⟩
    · exact fun parts => parts.1
  next _ other =>
    refine iff_of_false (by rintro ⟨⟩) ?_
    rintro ⟨rfl, -⟩
    exact other _ rfl

theorem family?_eq_some_iff : family? value = some family ↔ value = .string (Text.ofString family.name) := by
  cases value with
  | string text =>
    simp only [family?, Option.bind_eq_some_iff, Text.toString?_eq_some_iff, Family.ofName?_eq_some_iff,
      Json.string.injEq, exists_eq_right']
  | _ => exact iff_of_false nofun nofun

theorem pinOf_ok_iff : pinOf kid value = .ok pin ↔ value = pinned pin := by
  cases value <;> cases pin <;> simp [pinOf, pinned, eq_comm]

theorem required_ok_iff : required record kid name = .ok text ↔ field record name = .string text ∧ text ≠ [] := by
  rw [← filled?_eq_some_iff, required]
  cases filled? (field record name) <;> simp

theorem materialOf_ok_iff :
    materialOf record kid family = .ok material ↔ material.family = family ∧ Gives record material.members := by
  cases family <;> cases material <;>
    simp [materialOf, Result.bind_ok_iff, required_ok_iff, Gives, Material.members, Material.family]

theorem gives_members_iff : Gives record key.members ↔
    field record "kty" = .string (Text.ofString key.family.name) ∧
      (field record "kid" = .string key.kid ∧ key.kid ≠ []) ∧ Gives record key.material.members := by
  rw [members_eq, Gives, List.forall_mem_cons, List.forall_mem_cons,
    and_iff_left (Family.ofString_name_ne_nil key.family), Gives]

theorem ofMembers_ok_iff : ofMembers record = .ok key ↔ Shows record key := by
  constructor
  · intro read
    unfold ofMembers at read
    split at read
    · cases read
    next kid named =>
      split at read
      · cases read
      next family found =>
        obtain ⟨pin, pinRead, read⟩ := Result.bind_ok_iff.1 read
        obtain ⟨material, materialRead, read⟩ := Result.bind_ok_iff.1 read
        cases read
        obtain ⟨rfl, gives⟩ := materialOf_ok_iff.1 materialRead
        refine ⟨gives_members_iff.2 ⟨?_, ?_, gives⟩, pinOf_ok_iff.1 pinRead⟩
        · exact family?_eq_some_iff.1 found
        · exact filled?_eq_some_iff.1 named
  · intro ⟨members, pin⟩
    obtain ⟨family, kid, gives⟩ := gives_members_iff.1 members
    simp only [ofMembers, filled?_eq_some_iff.2 kid, family?_eq_some_iff.2 family]
    refine Result.bind_ok_iff.2 ⟨key.pin, pinOf_ok_iff.2 pin, ?_⟩
    exact Result.bind_ok_iff.2 ⟨key.material, materialOf_ok_iff.2 ⟨rfl, gives⟩, rfl⟩

end Field

end Key

end Credential
