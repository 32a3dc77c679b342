import Mathlib.Data.List.TakeWhile
import Credential.Proofs.Audience.Urn
import Credential.Proofs.Text.Lowering

/-! How an audience with a host is written. Its network location ends where a path, a query or a fragment starts; in
there the host follows the last `@`, and a bracket closes it if one opens it, or else a colon. Every audience that has
a host as its authority is written so. -/

namespace Credential.Audience

open Text

def opensTail (c : Char) : Bool := c = '/' || c = '?' || c = '#'

/-- What ends a host in brackets or without. -/
def closing (bracketed : Bool) : Char := if bracketed then ']' else ':'

/-- The parts of an audience with a host. The user keeps its `@`, and what is left after the host starts with what closes
the host. -/
structure Hosted where
  scheme : List Char
  user : List Char
  bracketed : Bool
  name : List Char
  rest : List Char
  tail : List Char
  proper : IsScheme scheme
  other : scheme.map Char.toLower ≠ "urn".toList
  attached : user = [] ∨ ∃ before, user = before ++ ['@']
  last : '@' ∉ name ++ rest
  unopened : bracketed = false → '[' ∉ name ++ rest
  unclosed : closing bracketed ∉ name
  closes : ∀ c ∈ rest.head?, c = closing bracketed
  within : ∀ c ∈ user ++ (name ++ rest), opensTail c = false
  opens : ∀ c ∈ tail.head?, opensTail c = true

/-- No character of ASCII is a separator in disguise. -/
theorem disguised_large {point : Nat} (member : point ∈ disguised) : 0x80 ≤ point := by
  have least : ∀ point ∈ disguised, 0x80 ≤ point := by decide
  exact least point member

theorem isWellFormed_iff {location : List Char} : isWellFormed location = true ↔
    ('[' ∈ location ↔ ']' ∈ location) ∧ ('[' ∈ location → bracketsHold location = true) ∧
      ∀ c ∈ location, c.toNat ∉ disguised := by
  simp only [isWellFormed, Bool.and_eq_true, List.all_eq_true, Bool.not_eq_true', List.contains_eq_mem,
    decide_eq_false_iff_not, Bool.or_eq_true, beq_iff_eq, decide_eq_decide, and_assoc, ← Decidable.imp_iff_not_or]

section Name

variable {name : List Char}

/-- The first `%` of a host and all that follows it. -/
def zone (name : List Char) : List Char := ((cut '%' name).2.map ('%' :: ·)).getD []

theorem cut_zone (name : List Char) : (cut '%' name).1 ++ zone name = name := by
  obtain ⟨before, rest, rfl, clear, opens⟩ := exists_parts '%' name
  rw [zone, cut_parts clear opens]
  cases rest with
  | nil => rfl
  | cons first after =>
    obtain rfl := opens first rfl
    rfl

theorem lowerHost_eq (name : List Char) : lowerHost name = lower (cut '%' name).1 ++ zone name := by
  unfold lowerHost zone
  cases cut '%' name with
  | mk before zone? =>
    cases zone? with
    | none => exact (List.append_nil _).symm
    | some zone => rfl

theorem lowerHost_eq_nil_iff : lowerHost name = [] ↔ name = [] := by
  rw [lowerHost_eq, List.append_eq_nil_iff, lower_eq_nil_iff, ← List.append_eq_nil_iff, cut_zone]

theorem mem_lowerHost_iff {c : Char} (untouched : isUntouched c.toNat = true) : c ∈ lowerHost name ↔ c ∈ name := by
  rw [lowerHost_eq, List.mem_append, mem_lower_iff untouched, ← List.mem_append, cut_zone]

end Name

namespace Hosted

variable (parts : Hosted)

def place : List Char := if parts.bracketed then '[' :: (parts.name ++ parts.rest) else parts.name ++ parts.rest

def location : List Char := parts.user ++ parts.place

def audience : String := String.ofList (parts.scheme ++ ':' :: '/' :: '/' :: (parts.location ++ parts.tail))

theorem location_eq : Audience.location (parts.location ++ parts.tail) = parts.location := by
  have stops : Audience.location parts.tail = [] := by
    cases tail : parts.tail with
    | nil => rfl
    | cons first rest =>
      have opened := parts.opens first (congrArg List.head? tail)
      apply List.takeWhile_cons_of_neg
      rw [Bool.not_eq_true, Bool.not_eq_false']
      exact opened
  have passes : Audience.location (parts.location ++ parts.tail) = parts.location ++ Audience.location parts.tail := by
    apply List.takeWhile_append_of_pos
    intro c member
    have inside : opensTail c = false := by
      have within := parts.within
      rw [List.forall_mem_append] at within
      unfold location place at member
      split at member
      · rw [List.mem_append, List.mem_cons] at member
        rcases member with user | rfl | named
        · exact within.1 c user
        · rfl
        · exact within.2 c named
      · exact parts.within c member
    rw [Bool.not_eq_true']
    exact inside
  rw [passes, stops, List.append_nil]

theorem not_mem_place : '@' ∉ parts.place := by
  unfold place
  split
  · rw [List.mem_cons, not_or]
    exact ⟨by decide, parts.last⟩
  · exact parts.last

theorem afterLast_location : afterLast '@' parts.location = parts.place := by
  unfold location
  rcases parts.attached with none | ⟨before, written⟩
  · rw [none]
    exact afterLast_clear parts.not_mem_place
  · rw [written, List.append_assoc]
    exact afterLast_append before parts.not_mem_place

theorem cut_name : cut (closing parts.bracketed) (parts.name ++ parts.rest) = (parts.name, parts.rest.tail?) :=
  cut_parts parts.unclosed parts.closes

theorem host_eq : Audience.host parts.location = lowerHost parts.name := by
  have named := congrArg Prod.fst parts.cut_name
  rw [Audience.host, parts.afterLast_location, place]
  cases bracketed : parts.bracketed with
  | true =>
    rw [bracketed] at named
    simp only [if_true, cut]
    exact congrArg lowerHost named
  | false =>
    rw [bracketed] at named
    simp only [Bool.false_eq_true, if_false, cut_clear (parts.unopened bracketed)]
    exact congrArg lowerHost named

/-- After a bracket only a port follows, and brackets anywhere ask for an address. -/
theorem bracketsHold_eq : bracketsHold parts.location =
    ((!parts.bracketed || parts.rest.tail.head?.all (· = ':')) && isBracketedHost parts.name) := by
  have named := parts.cut_name
  rw [bracketsHold, parts.afterLast_location, place]
  cases bracketed : parts.bracketed with
  | true =>
    rw [bracketed, closing, if_pos rfl] at named
    simp only [if_true, cut, named]
    cases parts.rest <;> rfl
  | false =>
    rw [bracketed, closing, if_neg (by decide)] at named
    simp only [Bool.false_eq_true, if_false, cut_clear (parts.unopened bracketed), named]
    rfl

theorem toList_audience :
    parts.audience.toList = parts.scheme ++ ':' :: '/' :: '/' :: (parts.location ++ parts.tail) := String.toList_ofList

theorem mem_audience_of_name {c : Char} (member : c ∈ parts.name) : c ∈ parts.audience.toList := by
  have placed : c ∈ parts.place := by
    unfold place
    split
    · exact List.mem_cons_of_mem '[' (List.mem_append_left _ member)
    · exact List.mem_append_left _ member
  rw [toList_audience, location]
  simp [placed]

theorem not_isUrn : ¬IsUrn parts.audience := by
  have clear : ':' ∉ parts.scheme := not_mem_of_kind parts.proper.symbols rfl
  rw [isUrn_iff parts.toList_audience clear]
  exact parts.other

variable {parts}

theorem authority_ok_iff {id : String} : authority parts.audience = .ok id ↔
    (∀ c ∈ parts.audience.toList, isForbidden c = false) ∧ isWellFormed parts.location = true ∧ parts.name ≠ [] ∧
      id.toList = lowerHost parts.name := by
  have named (clear : ∀ c ∈ parts.audience.toList, isForbidden c = false) : authority parts.audience = .ok id ↔
      NamesHost ('/' :: '/' :: (parts.location ++ parts.tail)) id.toList :=
    Parted.host_iff ⟨parts.toList_audience, parts.proper, clear⟩ parts.other
  constructor
  · intro meant
    obtain ⟨_, _, parted⟩ := parted_of_authority meant
    obtain ⟨⟨hierarchy, same, formed, host⟩, given⟩ := (named parted.clear).1 meant
    cases same
    rw [parts.location_eq] at formed host
    rw [parts.host_eq] at host
    rw [host, ne_eq, lowerHost_eq_nil_iff] at given
    exact ⟨parted.clear, formed, given, host⟩
  · rintro ⟨clear, formed, given, host⟩
    refine (named clear).2 ⟨⟨_, rfl, ?_, ?_⟩, ?_⟩
    · rw [parts.location_eq]
      exact formed
    · rw [parts.location_eq, parts.host_eq]
      exact host
    · rw [host, ne_eq, lowerHost_eq_nil_iff]
      exact given

theorem authority_of_unbracketed (given : parts.name ≠ [])
    (clear : ∀ c ∈ parts.location ++ parts.tail, isForbidden c = false) (unopened : '[' ∉ parts.location)
    (unclosed : ']' ∉ parts.location) (undisguised : ∀ c ∈ parts.location, c.toNat ∉ disguised) :
    authority parts.audience = .ok (String.ofList (lowerHost parts.name)) := by
  have symbols : ∀ c ∈ parts.scheme, isForbidden c = false := by
    intro c member
    exact isForbidden_eq_false (by decide) (parts.proper.symbols c member)
  rw [authority_ok_iff, isWellFormed_iff]
  refine ⟨?_, ⟨iff_of_false unopened unclosed, fun opened => absurd opened unopened, undisguised⟩, given,
    String.toList_ofList⟩
  rw [parts.toList_audience]
  simp only [List.forall_mem_append, List.forall_mem_cons] at clear ⊢
  exact ⟨symbols, rfl, rfl, rfl, clear⟩

def bare (name : List Char) (clear : name.any "@[:/?#".toList.contains = false) : Hosted where
  scheme := "https".toList
  user := []
  bracketed := false
  name := name
  rest := []
  tail := []
  proper := ⟨⟨_, _, rfl, rfl⟩, List.all_eq_true.1 rfl⟩
  other := by decide
  attached := .inl rfl
  last := by
    rw [List.append_nil]
    exact fun member => List.any_eq_false.1 clear _ member rfl
  unopened := by
    rw [List.append_nil]
    exact fun _ member => List.any_eq_false.1 clear _ member rfl
  unclosed := fun member => List.any_eq_false.1 clear _ member rfl
  closes := by rintro c ⟨⟩
  within := by
    rw [List.append_nil, List.nil_append]
    intro c member
    apply Bool.eq_false_iff.2
    intro opened
    simp only [opensTail, Bool.or_eq_true, decide_eq_true_eq] at opened
    apply List.any_eq_false.1 clear c member
    rcases opened with (rfl | rfl) | rfl <;> rfl
  opens := by rintro c ⟨⟩

end Hosted

section Parts

variable {audience id : String} {scheme location tail : List Char}

private theorem opened_first {user after : List Char} (formed : isWellFormed (user ++ after) = true)
    (attached : user = [] ∨ ∃ before, user = before ++ ['@']) (last : '@' ∉ after) (opened : '[' ∈ after) :
    ∃ host, after = '[' :: host := by
  have holds := (isWellFormed_iff.1 formed).2.1 (List.mem_append_right user opened)
  have placed : afterLast '@' (user ++ after) = after := by
    rcases attached with rfl | ⟨before, rfl⟩
    · exact afterLast_clear last
    · rw [List.append_assoc]
      exact afterLast_append before last
  obtain ⟨before, host, rfl, clear⟩ := List.eq_append_cons_of_mem opened
  rw [bracketsHold, placed, cut_append clear] at holds
  simp only [Bool.and_eq_true, List.isEmpty_iff] at holds
  rw [holds.1.1]
  exact ⟨host, rfl⟩

private theorem exists_user (location : List Char) : ∃ user after, location = user ++ after ∧ '@' ∉ after ∧
    (user = [] ∨ ∃ before, user = before ++ ['@']) := by
  by_cases present : '@' ∈ location
  · obtain ⟨before, after, rfl, clear⟩ := exists_last present
    exact ⟨before ++ ['@'], after, by rw [List.append_assoc]; rfl, clear, .inr ⟨before, rfl⟩⟩
  · exact ⟨[], location, rfl, present, .inl rfl⟩

private theorem exists_of_location (proper : IsScheme scheme) (other : scheme.map Char.toLower ≠ "urn".toList)
    (formed : isWellFormed location = true) (within : ∀ c ∈ location, opensTail c = false)
    (opens : ∀ c ∈ tail.head?, opensTail c = true) :
    ∃ parts : Hosted, parts.scheme = scheme ∧ parts.location = location ∧ parts.tail = tail := by
  obtain ⟨user, after, rfl, last, attached⟩ := exists_user location
  rw [List.forall_mem_append] at within
  -- only a bracket after the user counts; the user may hold brackets of its own
  by_cases opened : '[' ∈ after
  · obtain ⟨host, rfl⟩ := opened_first formed attached last opened
    obtain ⟨name, rest, rfl, unclosed, closes⟩ := exists_parts ']' host
    have inside : ∀ c ∈ user ++ (name ++ rest), opensTail c = false :=
      List.forall_mem_append.2 ⟨within.1, fun c member => within.2 c (List.mem_cons_of_mem '[' member)⟩
    exact ⟨⟨scheme, user, true, name, rest, tail, proper, other, attached, List.not_mem_of_not_mem_cons last,
      by rintro ⟨⟩, unclosed, closes, inside, opens⟩, rfl, rfl, rfl⟩
  · obtain ⟨name, rest, rfl, unclosed, closes⟩ := exists_parts ':' after
    exact ⟨⟨scheme, user, false, name, rest, tail, proper, other, attached, last, fun _ => opened, unclosed, closes,
      List.forall_mem_append.2 within, opens⟩, rfl, rfl, rfl⟩

/-- Every audience with an authority is a URN or has a host. -/
theorem exists_hosted (other : ¬IsUrn audience) (meant : authority audience = .ok id) :
    ∃ parts : Hosted, parts.audience = audience := by
  obtain ⟨scheme, rest, parted⟩ := parted_of_authority meant
  have unurn : scheme.map Char.toLower ≠ "urn".toList := fun urn => other ⟨scheme, rest, parted.whole, urn⟩
  obtain ⟨⟨hierarchy, rfl, formed, -⟩, -⟩ := (parted.host_iff unurn).1 meant
  have whole : Audience.location hierarchy ++ hierarchy.dropWhile (fun c => !opensTail c) = hierarchy :=
    List.takeWhile_append_dropWhile
  have within : ∀ c ∈ Audience.location hierarchy, opensTail c = false := by
    intro c member
    have passes := List.mem_takeWhile_imp (p := fun c => !opensTail c) member
    rw [Bool.not_eq_true'] at passes
    exact passes
  have opens : ∀ c ∈ (hierarchy.dropWhile fun c => !opensTail c).head?, opensTail c = true := by
    intro c first
    have stops := List.head?_dropWhile_not (fun c => !opensTail c) hierarchy
    rw [Option.mem_def.1 first] at stops
    simpa only [Bool.not_eq_false'] using stops
  obtain ⟨parts, rfl, located, ended⟩ := exists_of_location parted.proper unurn formed within opens
  refine ⟨parts, ?_⟩
  rw [← String.toList_inj, parts.toList_audience, located, ended, whole, parted.whole]

end Parts

end Credential.Audience
