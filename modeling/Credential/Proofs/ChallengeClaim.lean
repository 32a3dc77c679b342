import Credential.Proofs.Claims
import Credential.Proofs.Stages
import Credential.Proofs.Text.Alike

/-! The claim of a challenge as it is written. Its digests may be spelled in any letter case, and a claim is read as a pair
just if it spells that pair so; what else it holds is not looked at. So an attempt is bound by the digits of a claim up to
letter case, and by nothing else in it. -/

namespace Credential

open Text (Alike)

namespace Hex

theorem isDigit_iff {c : Char} : isDigit c = true ↔ c ∈ "0123456789abcdefABCDEF".toList := by
  constructor
  · intro digit
    obtain ⟨value, read⟩ := Option.isSome_iff_exists.1 digit
    have every : isDigit c = true → c ∈ "0123456789abcdefABCDEF".toList := by
      apply Text.forall_ascii (motive := fun c => isDigit c = true → c ∈ "0123456789abcdefABCDEF".toList)
      · decide
      · exact value?_ascii read
    exact every digit
  · intro listed
    have every : "0123456789abcdefABCDEF".toList.all isDigit = true := by decide
    exact List.all_eq_true.1 every c listed

end Hex

namespace Hex32

variable {text symbols others : List Char} {bytes first second : Bytes}

theorem render_inj : render first = render second ↔ first = second := by
  constructor
  · intro same
    have digitsSame : digits first = digits second := (List.cons.inj (List.cons.inj same).2).2
    have read := ofDigits?_digits first
    rw [digitsSame, ofDigits?_digits] at read
    exact (Option.some.inj read).symm
  · rintro rfl
    rfl

/-- The form has no letter outside ASCII, so its lower case is that of its characters. -/
theorem Spelled.lower (spelled : Spelled text) : Text.lower text = text.map Char.toLower := by
  obtain ⟨symbols, rfl, -, valid⟩ := spelled
  apply Text.lower_ascii
  rw [List.forall_mem_cons, List.forall_mem_cons]
  refine ⟨by decide, by decide, ?_⟩
  intro c member
  obtain ⟨value, read⟩ := Option.isSome_iff_exists.1 (valid c member)
  exact Hex.value?_ascii read

theorem parse?_alike (alike : Alike symbols others) : parse? ('0' :: 'x' :: others) = parse? ('0' :: 'x' :: symbols) := by
  have long : others.length = symbols.length := by
    rw [← List.length_map Char.toLower, ← alike, List.length_map]
  rw [parse?, parse?, long, ← ofDigits?_toLower others, ← alike, ofDigits?_toLower]

end Hex32

namespace ChallengePair

def digests : List String := ["challenge", "context"]

/-- In lower case the digests of the claim are those of the other, which are in lower case. -/
def Lowers (claim written : Json String) : Prop :=
  ∀ name ∈ digests, ∃ text, claim.member? name = some (.string text) ∧
    written.member? name = some (.string (String.ofList (Text.lower text.toList)))

/-- The digests of both are the same digits, in one letter case or another. The mark in front of them has no other case. -/
def Recased (claim other : Json String) : Prop :=
  ∀ name ∈ digests, ∃ symbols others, Alike symbols others ∧
    claim.member? name = some (.string (String.ofList ('0' :: 'x' :: symbols))) ∧
    other.member? name = some (.string (String.ofList ('0' :: 'x' :: others)))

section Spells

variable {members twins : List (String × Json String)} {name : String} {bytes digest : Bytes}

theorem Spells.eq_iff (spells : Spells members name bytes) : bytes = digest ↔
    ∃ text, Assoc.get? name members = some (.string text) ∧ Hex32.render digest = Text.lower text.toList := by
  obtain ⟨text, given, spelled, same⟩ := spells
  simp only [given, Option.some.injEq, Json.string.injEq, exists_eq_left', spelled.lower, ← same, Hex32.render_inj,
    eq_comm]

theorem Spells.recased_iff (spells : Spells members name bytes) : Spells twins name bytes ↔
    ∃ symbols others, Alike symbols others ∧
      Assoc.get? name members = some (.string (String.ofList ('0' :: 'x' :: symbols))) ∧
      Assoc.get? name twins = some (.string (String.ofList ('0' :: 'x' :: others))) := by
  obtain ⟨text, given, spelled, same⟩ := spells
  constructor
  · obtain ⟨symbols, written, -⟩ := spelled
    intro ⟨twin, givenToo, spelledToo, sameToo⟩
    obtain ⟨others, writtenToo, -⟩ := spelledToo
    rw [written] at same
    rw [writtenToo, same] at sameToo
    refine ⟨symbols, others, (List.cons.inj (List.cons.inj sameToo).2).2, ?_, ?_⟩
    · rw [given, ← written, String.ofList_toList]
    · rw [givenToo, ← writtenToo, String.ofList_toList]
  · intro ⟨symbolsToo, others, alike, givenAs, givenToo⟩
    rw [given, Option.some.injEq, Json.string.injEq] at givenAs
    have read := Hex32.parse?_eq_some_iff.2 ⟨spelled, same⟩
    rw [givenAs, String.toList_ofList, ← Hex32.parse?_alike alike] at read
    refine ⟨_, givenToo, ?_⟩
    rw [String.toList_ofList]
    exact Hex32.parse?_eq_some_iff.1 read

end Spells

section Claimed

variable {claim other : Json String} {claimed pair : ChallengePair}

theorem ofClaim_recased_iff (read : ofClaim claim = .ok claimed) : ofClaim other = .ok claimed ↔ Recased claim other := by
  obtain ⟨members, rfl, challenge, context⟩ := ofClaim_ok_iff.1 read
  cases other with
  | object twins =>
    simp only [ofClaim_ok_iff, Json.object.injEq, exists_eq_left', challenge.recased_iff, context.recased_iff, Recased,
      digests, Json.member?, List.forall_mem_cons, List.not_mem_nil, false_implies, implies_true, and_true]
  | _ =>
    refine iff_of_false (fun impossible => by cases impossible) ?_
    intro recased
    obtain ⟨_, _, _, _, impossible⟩ := recased "challenge" List.mem_cons_self
    cases impossible

theorem lowers_toClaim_iff {members : List (String × Json String)} : Lowers (.object members) pair.toClaim ↔
    (∃ text, Assoc.get? "challenge" members = some (.string text) ∧
      Hex32.render pair.challenge = Text.lower text.toList) ∧
    ∃ text, Assoc.get? "context" members = some (.string text) ∧
      Hex32.render pair.context = Text.lower text.toList := by
  simp [Lowers, digests, Json.member?, toClaim, Assoc.get?, String.ofList_inj]

theorem eq_iff_lowers (read : ofClaim claim = .ok claimed) : claimed = pair ↔ Lowers claim pair.toClaim := by
  obtain ⟨members, rfl, challenge, context⟩ := ofClaim_ok_iff.1 read
  have parts : claimed = pair ↔ claimed.challenge = pair.challenge ∧ claimed.context = pair.context := by
    rw [← ChallengePair.mk.injEq]
  rw [parts, challenge.eq_iff, context.eq_iff, lowers_toClaim_iff]

end Claimed

/-- Octets are written in one way and read in as many as their letters have cases. An attempt is bound by a claim just if
the claim has the digits of the pair that is derived for the attempt, in any letter case and among any other members. -/
theorem bind_up_to_case :
    (∀ bytes : Bytes, bytes.length = 32 → hex32 (.string (String.ofList (Hex32.render bytes))) = .ok bytes) ∧
    (∀ given : Json String, (∃ bytes, hex32 given = .ok bytes) ↔ ∃ text symbols, given = .string text ∧
      text.toList = '0' :: 'x' :: symbols ∧ symbols.length = 64 ∧
      ∀ c ∈ symbols, c ∈ "0123456789abcdefABCDEF".toList) ∧
    (∀ text bytes, hex32 (.string text) = .ok bytes →
      bytes.length = 32 ∧ Hex32.render bytes = Text.lower text.toList) ∧
    (∀ pair : ChallengePair, pair.challenge.length = 32 → pair.context.length = 32 →
      ofClaim pair.toClaim = .ok pair) ∧
    ∀ claim claimed, ofClaim claim = .ok claimed →
      (∀ intrinsic, (∃ derived, Authenticator.bind claimed intrinsic = .ok derived) ↔
        Lowers claim intrinsic.derive.toClaim) ∧
      ∀ other, ofClaim other = .ok claimed ↔ Recased claim other := by
  refine ⟨fun _ => hex32_render, ?_, ?_, fun _ => ofClaim_toClaim, ?_⟩
  · intro given
    simp only [← Hex.isDigit_iff]
    constructor
    · intro ⟨bytes, read⟩
      obtain ⟨text, same, ⟨symbols, written, long, valid⟩, -⟩ := hex32_eq_ok_iff.1 read
      exact ⟨text, symbols, same, written, long, valid⟩
    · intro ⟨text, symbols, same, written, long, valid⟩
      obtain ⟨bytes, read⟩ := Hex32.spelled_iff.1 ⟨symbols, written, long, valid⟩
      exact ⟨bytes, hex32_eq_ok_iff.2 ⟨text, same, Hex32.parse?_eq_some_iff.1 read⟩⟩
  · intro text bytes read
    obtain ⟨_, same, spelled, lowered⟩ := hex32_eq_ok_iff.1 read
    cases same
    exact ⟨spelled.length_eq lowered, lowered.trans spelled.lower.symm⟩
  · intro claim claimed read
    refine ⟨fun intrinsic => ?_, fun other => ofClaim_recased_iff read⟩
    simp only [Authenticator.bind_ok_iff, exists_and_left, exists_eq, and_true, eq_iff_lowers read]

def attempt : Intrinsic := ⟨[0x2A, 0x00], .authenticateSession, by decide, by decide⟩

theorem digits_attempt : Hex32.digits attempt.derive.challenge =
      "44a9e7f837f35e364ac39b28bf901918bb4a279de397224d80ea06c3dd95298b".toList ∧
    Hex32.digits attempt.derive.context =
      "966a5582adde7beff64b14882f6e79ae2af584bee55c7e08168847c8740b1f50".toList := by decide +kernel

def spelling (symbols : String) : Json String := .string (String.ofList ('0' :: 'x' :: symbols.toList))

/-- The digests of that attempt in capitals and the other way round, after a member of another name. -/
def shouted : Json String :=
  .object [("version", .int 1),
    ("context", spelling "966A5582ADDE7BEFF64B14882F6E79AE2AF584BEE55C7E08168847C8740B1F50"),
    ("challenge", spelling "44A9E7F837F35E364AC39B28BF901918BB4A279DE397224D80EA06C3DD95298B")]

theorem recased_shouted : Recased attempt.derive.toClaim shouted := by
  obtain ⟨challenge, context⟩ := digits_attempt
  intro name member
  rcases List.mem_pair.1 member with rfl | rfl
  · refine ⟨_, _, ?_, rfl, rfl⟩
    rw [Alike, challenge]
    decide
  · refine ⟨_, _, ?_, rfl, rfl⟩
    rw [Alike, context]
    decide

theorem lowers_shouted : Lowers shouted attempt.derive.toClaim := by
  have lowered (symbols : List Char) (plain : symbols.all (fun c => decide (c.toNat < 0x80)) = true) :
      Text.lower symbols = symbols.map Char.toLower :=
    Text.lower_ascii fun c member => of_decide_eq_true (List.all_eq_true.1 plain c member)
  obtain ⟨challenge, context⟩ := digits_attempt
  refine lowers_toClaim_iff.2 ⟨⟨_, rfl, ?_⟩, _, rfl, ?_⟩
  · rw [Hex32.render, challenge, String.toList_ofList, lowered _ (by decide)]
    decide
  · rw [Hex32.render, context, String.toList_ofList, lowered _ (by decide)]
    decide

/-- The digits may be capitals and the attempt is bound all the same, but the mark in front of them may not. -/
theorem bind_up_to_case_specimen : ofClaim shouted = .ok attempt.derive ∧
    (∃ derived, Authenticator.bind attempt.derive attempt = .ok derived) ∧
    ¬∃ bytes, hex32 (.string (String.ofList ('0' :: 'X' :: List.replicate 64 'A'))) = .ok bytes := by
  obtain ⟨-, form, -, claimed, bound⟩ := bind_up_to_case
  have own := claimed attempt.derive attempt.length_challenge attempt.length_context
  have read := ((bound _ _ own).2 shouted).2 recased_shouted
  refine ⟨read, ((bound _ _ read).1 attempt).2 lowers_shouted, ?_⟩
  intro readable
  obtain ⟨text, symbols, same, written, -⟩ := (form _).1 readable
  cases same
  rw [String.toList_ofList] at written
  cases written

end ChallengePair

end Credential
