import Credential.Proofs.Result
import Credential.Proofs.Text.Trim
import Credential.Settings.Environment

/-! What settings are made of. They have the values of the draft they are made from, the algorithms put in order, and
such settings are made from every draft whose values some settings have. An environment gives the draft, one variable
for each value but one, which it never sets. -/

namespace Credential.Settings

def widest : Settings where
  maxTokenLength := 1024
  maxIssuerLength := 256
  allowed := Algorithm.all
  network := none
  timeout := .ofDecimal false 10 0
  tokenRange := by decide
  issuerRange := by decide
  someAllowed := by decide
  networkRange := by simp
  timeoutRange := by decide

def values (settings : Settings) : Draft :=
  ⟨settings.maxTokenLength, settings.maxIssuerLength, settings.allowed, settings.network.map Int.ofNat,
    settings.timeout⟩

/-- All values but the timeout are within their ranges. -/
structure Draft.Bounded (draft : Draft) : Prop where
  tokenLength : 1 ≤ draft.maxTokenLength ∧ draft.maxTokenLength ≤ 1024
  issuerLength : 1 ≤ draft.maxIssuerLength ∧ draft.maxIssuerLength ≤ 256
  allowed : draft.allowed ≠ []
  network : ∀ number ∈ draft.network, 0 ≤ number ∧ number ≤ 16383

variable {draft : Draft} {settings : Settings}

theorem values_inj {one two : Settings} (same : one.values = two.values) : one = two := by
  cases one
  cases two
  simp only [values, Draft.mk.injEq, Int.natCast_inj] at same
  obtain ⟨rfl, rfl, rfl, networks, rfl⟩ := same
  have injective : Function.Injective Int.ofNat := fun _ _ equal => Int.ofNat.inj equal
  obtain rfl := Option.map_injective injective networks
  rfl

theorem bounded_values (settings : Settings) : settings.values.Bounded where
  tokenLength := ⟨Int.ofNat_le.2 settings.tokenRange.1, Int.ofNat_le.2 settings.tokenRange.2⟩
  issuerLength := ⟨Int.ofNat_le.2 settings.issuerRange.1, Int.ofNat_le.2 settings.issuerRange.2⟩
  allowed := settings.someAllowed
  network := by
    intro number given
    obtain ⟨network, present, rfl⟩ := Option.map_eq_some_iff.1 (Option.mem_def.1 given)
    have below := settings.networkRange network present
    rw [Int.ofNat_eq_natCast]
    omega

theorem mem_inOrder_iff {algorithms : List Algorithm} {algorithm : Algorithm} :
    algorithm ∈ inOrder algorithms ↔ algorithm ∈ algorithms := by
  unfold inOrder
  rw [List.mem_filter, decide_eq_true_eq]
  exact and_iff_right (Algorithm.mem_all algorithm)

theorem inOrder_ne_nil_iff {algorithms : List Algorithm} : inOrder algorithms ≠ [] ↔ algorithms ≠ [] := by
  refine ⟨?_, inOrder_ne_nil⟩
  rintro given rfl
  exact given (List.filter_eq_nil_iff.2 nofun)

theorem Draft.bounded_inOrder_iff : { draft with allowed := inOrder draft.allowed }.Bounded ↔ draft.Bounded := by
  refine ⟨?_, ?_⟩
  · intro ⟨tokenLength, issuerLength, allowed, network⟩
    exact ⟨tokenLength, issuerLength, inOrder_ne_nil_iff.1 allowed, network⟩
  · intro ⟨tokenLength, issuerLength, allowed, network⟩
    exact ⟨tokenLength, issuerLength, inOrder_ne_nil_iff.2 allowed, network⟩

theorem values_of_ofDraft (made : ofDraft draft = .ok settings) :
    settings.values = { draft with allowed := inOrder draft.allowed } := by
  unfold ofDraft at made
  split at made
  next token =>
    split at made
    next issuer =>
      split at made
      next allowed =>
        split at made
        next network =>
          split at made
          next timeout =>
            cases made
            have networks : (draft.network.map Int.toNat).map Int.ofNat = draft.network := by
              cases given : draft.network with
              | none => rfl
              | some number => exact congrArg some (Int.toNat_of_nonneg (network number given).1)
            simp only [values, networks, Int.toNat_of_nonneg (Int.le_of_lt token.1),
              Int.toNat_of_nonneg (Int.le_of_lt issuer.1)]
          next => cases made
        next => cases made
      next => cases made
    next => cases made
  next => cases made

theorem exists_ofDraft (bounded : draft.Bounded) (timeout : draft.timeout.isNonPositive = false) :
    ∃ settings, ofDraft draft = .ok settings := by
  have token : 0 < draft.maxTokenLength ∧ draft.maxTokenLength ≤ 1024 := bounded.tokenLength
  have issuer : 0 < draft.maxIssuerLength ∧ draft.maxIssuerLength ≤ 256 := bounded.issuerLength
  have network : ∀ number ∈ draft.network, 0 ≤ number ∧ number < 16384 := by
    intro number given
    have range := bounded.network number given
    omega
  unfold ofDraft
  rw [dif_pos token, dif_pos issuer, dif_pos bounded.allowed, dif_pos network, dif_pos timeout]
  exact ⟨_, rfl⟩

theorem ofDraft_ok_iff :
    ofDraft draft = .ok settings ↔ settings.values = { draft with allowed := inOrder draft.allowed } := by
  refine ⟨values_of_ofDraft, ?_⟩
  intro same
  have bounded := settings.bounded_values
  have timeout : settings.values.timeout.isNonPositive = false := settings.timeoutRange
  rw [same] at bounded timeout
  obtain ⟨other, made⟩ := exists_ofDraft (Draft.bounded_inOrder_iff.1 bounded) timeout
  rw [made, values_inj (same.trans (values_of_ofDraft made).symm)]

theorem exists_ofDraft_iff :
    (∃ settings, ofDraft draft = .ok settings) ↔ draft.Bounded ∧ draft.timeout.isNonPositive = false := by
  refine ⟨?_, fun accepted => exists_ofDraft accepted.1 accepted.2⟩
  intro ⟨settings, made⟩
  have same := ofDraft_ok_iff.1 made
  have bounded := settings.bounded_values
  have timeout : settings.values.timeout.isNonPositive = false := settings.timeoutRange
  rw [same] at bounded timeout
  exact ⟨Draft.bounded_inOrder_iff.1 bounded, timeout⟩

namespace Environment

open Text

def Unset (environment : Environment) (name : String) : Prop :=
  ∀ raw, Assoc.get? name environment = some raw → Blank raw.toList

variable {environment : Environment} {name : String} {α : Type} {parse : List Char → Except ValueFault α}

theorem entry?_unset (unset : environment.Unset name) : entry? environment name parse = .ok none := by
  unfold entry?
  split
  next => rfl
  next raw given => exact if_pos (trim_eq_nil_iff.2 (unset raw given))

theorem entry?_given {raw : String} (given : Assoc.get? name environment = some raw) (solid : ¬Blank raw.toList) :
    entry? environment name parse = match parse (trim raw.toList) with
      | .ok value => .ok (some value)
      | .error cause => .error (.badVariable name raw cause) := by
  unfold entry?
  rw [given]
  exact if_neg (mt trim_eq_nil_iff.1 solid)

theorem unset_or_given (environment : Environment) (name : String) :
    environment.Unset name ∨ ∃ raw, Assoc.get? name environment = some raw ∧ ¬Blank raw.toList := by
  by_cases unset : environment.Unset name
  · exact .inl unset
  · unfold Unset at unset
    simp only [not_forall] at unset
    obtain ⟨raw, given, solid⟩ := unset
    exact .inr ⟨raw, given, solid⟩

theorem entry?_some_iff {value : α} : entry? environment name parse = .ok (some value) ↔
    ∃ raw, Assoc.get? name environment = some raw ∧ ¬Blank raw.toList ∧ parse (trim raw.toList) = .ok value := by
  rcases unset_or_given environment name with unset | ⟨raw, given, solid⟩
  · rw [entry?_unset unset]
    refine ⟨nofun, ?_⟩
    intro ⟨raw, given, solid, _⟩
    exact absurd (unset raw given) solid
  · rw [entry?_given given solid]
    refine ⟨?_, ?_⟩
    · intro found
      split at found
      next other parsed =>
        cases found
        exact ⟨raw, given, solid, parsed⟩
      next => cases found
    · rintro ⟨other, same, -, parsed⟩
      cases given.symm.trans same
      rw [parsed]

theorem draft_ok_iff : environment.draft = .ok draft ↔ ∃ length allowed network timeout,
    entry? environment "PASS_JWT_MAX_TOKEN_LENGTH" integer = .ok length ∧
    entry? environment "PASS_JWT_ALLOWED_ALGORITHMS" algorithms = .ok allowed ∧
    entry? environment "PASS_JWT_SS58_PREFIX" integer = .ok network ∧
    entry? environment "PASS_JWT_HTTP_TIMEOUT" real = .ok timeout ∧
    draft = ⟨length.getD 1024, 256, allowed.getD Algorithm.all, network, timeout.getD (.ofDecimal false 10 0)⟩ := by
  simp only [Environment.draft, Result.bind_ok_iff, Except.ok.injEq, exists_and_left, eq_comm (b := draft)]
  rfl

theorem settings_ok_iff : environment.settings = .ok settings ↔
    ∃ draft, environment.draft = .ok draft ∧ ofDraft draft = .ok settings := by
  unfold Environment.settings
  rw [Result.bind_ok_iff]
  apply exists_congr
  intro draft
  apply and_congr_right'
  split
  next made => rw [made, Except.ok.injEq, Except.ok.injEq]
  next cause failed =>
    rw [failed]
    exact iff_of_false nofun nofun

end Environment

end Credential.Settings
