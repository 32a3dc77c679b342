import Credential.Proofs.Settings
import Credential.Proofs.Stages

/-! The variables of an environment are independent of one another. Each gives one value of the settings, or leaves the
initial one, and whether it can be read depends on no other. The algorithms are those that the items of a
list name, whatever blanks there are around and between them. -/

namespace Credential

theorem Assoc.get?_filter {κ : Type u} {ν : Type v} [DecidableEq κ] (kept key : κ) (entries : Assoc κ ν) :
    get? key (entries.filter fun entry => entry.1 = kept) = if kept = key then get? key entries else none := by
  induction entries with
  | nil => exact (ite_self none).symm
  | cons entry rest ih =>
    obtain ⟨name, value⟩ := entry
    by_cases here : name = kept
    · rw [List.filter_cons_of_pos (by exact decide_eq_true here), get?, ih, get?, here]
      split <;> rfl
    · rw [List.filter_cons_of_neg (by simpa using here), ih, get?]
      split
      next same => rw [if_neg (same ▸ here)]
      next => rfl

namespace Settings.Environment

open Text

section Lists

def Names (item : List Char) (algorithm : Algorithm) : Prop :=
  ∃ before after, item = before ++ algorithm.name.toList ++ after ∧ Blank before ∧ Blank after

def named (name : List Char) : Except ValueFault Algorithm :=
  match Algorithm.ofName (String.ofList name) with
  | .ok algorithm => .ok algorithm
  | .error cause => .error (.unknownAlgorithm cause)

variable {item : List Char} {items : List (List Char)} {algorithm : Algorithm} {found : List Algorithm}

theorem named_ok_iff {name : List Char} : named name = .ok algorithm ↔ name = algorithm.name.toList := by
  have spelled : name = algorithm.name.toList ↔ Algorithm.ofName? (String.ofList name) = some algorithm := by
    rw [Algorithm.ofName?_eq_some, ← String.toList_inj, String.toList_ofList, eq_comm]
  rw [spelled]
  unfold named Algorithm.ofName
  cases Algorithm.ofName? (String.ofList name) <;> simp

theorem tight_name (algorithm : Algorithm) : Tight isBlank algorithm.name.toList := by
  refine ⟨?_, ?_⟩
  · intro c first
    cases algorithm <;> cases first <;> rfl
  · intro c last
    cases algorithm <;> cases last <;> rfl

theorem names_iff : Names item algorithm ↔ trim item = algorithm.name.toList := by
  rw [trim, trimBy_eq_iff, and_iff_right (tight_name algorithm)]
  rfl

theorem Names.solid (names : Names item algorithm) : ¬Blank item := by
  rw [← trim_eq_nil_iff, names_iff.1 names]
  cases algorithm <;> decide

theorem algorithms_items (clear : ∀ item ∈ items, ',' ∉ item) (given : items ≠ []) :
    algorithms (trim (join ',' items)) = ((items.map trim).filter (· ≠ [])).mapM named := by
  have solid : isBlank ',' = false := by decide
  rw [← map_trim_split_trim solid clear given]
  rfl

theorem exists_algorithms_iff (clear : ∀ item ∈ items, ',' ∉ item) (given : items ≠ []) :
    (∃ found, algorithms (trim (join ',' items)) = .ok found) ↔
      ∀ item ∈ items, Blank item ∨ ∃ algorithm, Names item algorithm := by
  simp only [algorithms_items clear given, Result.mapM_ok_iff, Result.exists_each_iff, named_ok_iff, List.mem_filter,
    List.mem_map, decide_eq_true_eq, and_imp, forall_exists_index, forall_apply_eq_imp_iff₂, names_iff]
  apply forall₂_congr
  intro item _
  rw [← trim_eq_nil_iff]
  exact Classical.or_iff_not_imp_left.symm

theorem mem_algorithms_iff (clear : ∀ item ∈ items, ',' ∉ item) (given : items ≠ [])
    (read : algorithms (trim (join ',' items)) = .ok found) :
    algorithm ∈ found ↔ ∃ item ∈ items, Names item algorithm := by
  rw [algorithms_items clear given, Result.mapM_ok_iff] at read
  rw [read.mem_iff]
  refine ⟨?_, ?_⟩
  · intro ⟨name, member, reads⟩
    obtain ⟨item, inside, rfl⟩ := List.mem_map.1 (List.mem_filter.1 member).1
    exact ⟨item, inside, names_iff.2 (named_ok_iff.1 reads)⟩
  · intro ⟨item, inside, names⟩
    refine ⟨trim item, List.mem_filter.2 ⟨List.mem_map_of_mem inside, ?_⟩, named_ok_iff.2 (names_iff.1 names)⟩
    exact decide_eq_true (mt trim_eq_nil_iff.1 names.solid)

theorem algorithms_ne_nil_iff (clear : ∀ item ∈ items, ',' ∉ item) (given : items ≠ [])
    (read : algorithms (trim (join ',' items)) = .ok found) : found ≠ [] ↔ ∃ item ∈ items, ¬Blank item := by
  refine ⟨?_, ?_⟩
  · intro some_
    obtain ⟨algorithm, member⟩ := List.exists_mem_of_ne_nil found some_
    obtain ⟨item, inside, names⟩ := (mem_algorithms_iff clear given read).1 member
    exact ⟨item, inside, names.solid⟩
  · intro ⟨item, inside, solid⟩
    obtain ⟨algorithm, names⟩ := ((exists_algorithms_iff clear given).1 ⟨found, read⟩ item inside).resolve_left solid
    exact List.ne_nil_of_mem ((mem_algorithms_iff clear given read).2 ⟨item, inside, names⟩)

end Lists

inductive Entry where
  | tokenLength
  | algorithms
  | network
  | timeout
deriving DecidableEq

def Entry.name : Entry → String
  | .tokenLength => "PASS_JWT_MAX_TOKEN_LENGTH"
  | .algorithms => "PASS_JWT_ALLOWED_ALGORITHMS"
  | .network => "PASS_JWT_SS58_PREFIX"
  | .timeout => "PASS_JWT_HTTP_TIMEOUT"

def only (entry : Entry) (environment : Environment) : Environment :=
  environment.filter fun pair => pair.1 = entry.name

def Agree (one two : Settings) : Entry → Prop
  | .tokenLength => one.maxTokenLength = two.maxTokenLength
  | .algorithms => one.allowed = two.allowed
  | .network => one.network = two.network
  | .timeout => one.timeout = two.timeout

section Sets

variable {α β : Type}

/-- A variable is read, be it that it is unset, and the value is what that means. -/
def Sets (environment : Environment) (entry : Entry) (parse : List Char → Except ValueFault α) (meant : Option α → β)
    (value : β) : Prop :=
  ∃ found, entry? environment entry.name parse = .ok found ∧ value = meant found

theorem Sets.unique {environment : Environment} {entry : Entry} {parse : List Char → Except ValueFault α}
    {meant : Option α → β} {one two : β} (sets : Sets environment entry parse meant one)
    (setsToo : Sets environment entry parse meant two) : one = two := by
  obtain ⟨found, first, rfl⟩ := sets
  obtain ⟨same, second, rfl⟩ := setsToo
  cases first.symm.trans second
  rfl

end Sets

/-- The settings have the value that a variable gives, or the initial one where it gives none. -/
def Gives (environment : Environment) (settings : Settings) : Entry → Prop
  | .tokenLength => Sets environment .tokenLength integer (fun found => found.getD widest.maxTokenLength)
      (settings.maxTokenLength : Int)
  | .algorithms => Sets environment .algorithms algorithms (fun found => inOrder (found.getD widest.allowed))
      settings.allowed
  | .network => Sets environment .network integer id (settings.network.map Int.ofNat)
  | .timeout => Sets environment .timeout real (fun found => found.getD widest.timeout) settings.timeout

variable {environment other : Environment} {one two settings : Settings} {entry : Entry}

theorem Entry.name_inj {one two : Entry} (same : one.name = two.name) : one = two := by
  cases one <;> cases two <;> revert same <;> decide

theorem get?_only (kept : Entry) (name : String) (environment : Environment) :
    Assoc.get? name (environment.only kept) = if kept.name = name then Assoc.get? name environment else none :=
  Assoc.get?_filter kept.name name environment

theorem entry?_congr {α : Type} {parse : List Char → Except ValueFault α} {name : String}
    (same : Assoc.get? name other = Assoc.get? name environment) :
    entry? other name parse = entry? environment name parse := by
  unfold entry?
  rw [same]

theorem settings_congr (same : ∀ entry : Entry, Assoc.get? entry.name other = Assoc.get? entry.name environment) :
    other.settings = environment.settings := by
  have length : entry? other "PASS_JWT_MAX_TOKEN_LENGTH" integer = entry? environment _ integer :=
    entry?_congr (same .tokenLength)
  have allowed : entry? other "PASS_JWT_ALLOWED_ALGORITHMS" algorithms = entry? environment _ algorithms :=
    entry?_congr (same .algorithms)
  have network : entry? other "PASS_JWT_SS58_PREFIX" integer = entry? environment _ integer :=
    entry?_congr (same .network)
  have timeout : entry? other "PASS_JWT_HTTP_TIMEOUT" real = entry? environment _ real :=
    entry?_congr (same .timeout)
  unfold Environment.settings Environment.draft
  rw [length, allowed, network, timeout]

theorem gives_congr (same : Assoc.get? entry.name other = Assoc.get? entry.name environment) :
    Gives other settings entry ↔ Gives environment settings entry := by
  cases entry <;> simp only [Gives, Sets, entry?_congr same]

theorem Gives.of_agree (gives : Gives environment one entry) (agree : Agree one two entry) :
    Gives environment two entry := by
  cases entry
  all_goals
    dsimp only [Gives, Agree] at gives agree ⊢
    rw [← agree]
    exact gives

theorem Gives.agree (gives : Gives environment one entry) (givesToo : Gives environment two entry) :
    Agree one two entry := by
  cases entry with
  | tokenLength => exact Int.ofNat_inj.1 (Sets.unique gives givesToo)
  | algorithms => exact Sets.unique gives givesToo
  | network =>
    have injective : Function.Injective Int.ofNat := fun _ _ equal => Int.ofNat.inj equal
    exact Option.map_injective injective (Sets.unique gives givesToo)
  | timeout => exact Sets.unique gives givesToo

theorem gives_unset (unset : environment.Unset entry.name) : Gives environment widest entry := by
  cases entry <;> exact ⟨none, entry?_unset unset, rfl⟩

theorem settings_ok_iff_gives : environment.settings = .ok settings ↔
    settings.maxIssuerLength = 256 ∧ ∀ entry, Gives environment settings entry := by
  rw [settings_ok_iff]
  refine ⟨?_, ?_⟩
  · intro ⟨draft, read, made⟩
    obtain ⟨length, allowed, network, timeout, lengthRead, allowedRead, networkRead, timeoutRead, rfl⟩ :=
      draft_ok_iff.1 read
    have same := values_of_ofDraft made
    refine ⟨Int.ofNat_inj.1 (congrArg Draft.maxIssuerLength same), ?_⟩
    intro entry
    cases entry with
    | tokenLength => exact ⟨length, lengthRead, congrArg Draft.maxTokenLength same⟩
    | algorithms => exact ⟨allowed, allowedRead, congrArg Draft.allowed same⟩
    | network => exact ⟨network, networkRead, congrArg Draft.network same⟩
    | timeout => exact ⟨timeout, timeoutRead, congrArg Draft.timeout same⟩
  · intro ⟨issuerLength, gives⟩
    obtain ⟨length, lengthRead, lengthSame⟩ := gives .tokenLength
    obtain ⟨allowed, allowedRead, allowedSame⟩ := gives .algorithms
    obtain ⟨network, networkRead, networkSame⟩ := gives .network
    obtain ⟨timeout, timeoutRead, timeoutSame⟩ := gives .timeout
    have read := draft_ok_iff.2
      ⟨length, allowed, network, timeout, lengthRead, allowedRead, networkRead, timeoutRead, rfl⟩
    refine ⟨_, read, ?_⟩
    rw [ofDraft_ok_iff, values, issuerLength, lengthSame, allowedSame, networkSame, timeoutSame]
    rfl

def assemble (ones : Entry → Settings) : Settings where
  maxTokenLength := (ones .tokenLength).maxTokenLength
  maxIssuerLength := widest.maxIssuerLength
  allowed := (ones .algorithms).allowed
  network := (ones .network).network
  timeout := (ones .timeout).timeout
  tokenRange := (ones .tokenLength).tokenRange
  issuerRange := widest.issuerRange
  someAllowed := (ones .algorithms).someAllowed
  networkRange := (ones .network).networkRange
  timeoutRange := (ones .timeout).timeoutRange

theorem agree_assemble (ones : Entry → Settings) (entry : Entry) : Agree (ones entry) (assemble ones) entry := by
  cases entry <;> rfl

theorem settings_assemble {ones : Entry → Settings} (gives : ∀ entry, Gives environment (ones entry) entry) :
    environment.settings = .ok (assemble ones) :=
  settings_ok_iff_gives.2 ⟨rfl, fun entry => (gives entry).of_agree (agree_assemble ones entry)⟩

theorem gives_only_iff : Gives (environment.only entry) settings entry ↔ Gives environment settings entry := by
  apply gives_congr
  rw [get?_only, if_pos rfl]

theorem gives_only_other {kept : Entry} (apart : kept ≠ entry) : Gives (environment.only kept) widest entry := by
  apply gives_unset
  intro raw given
  rw [get?_only, if_neg (mt Entry.name_inj apart)] at given
  cases given

/-- Alone, a variable can be read just if there are settings with the value that it gives. -/
theorem exists_only_iff :
    (∃ one, (environment.only entry).settings = .ok one) ↔ ∃ one, Gives environment one entry := by
  refine ⟨?_, ?_⟩
  · intro ⟨one, read⟩
    exact ⟨one, gives_only_iff.1 ((settings_ok_iff_gives.1 read).2 entry)⟩
  · intro ⟨one, gives⟩
    refine ⟨assemble fun each => if each = entry then one else widest, settings_assemble ?_⟩
    intro each
    by_cases same : each = entry
    · subst same
      rw [if_pos rfl]
      exact gives_only_iff.2 gives
    · rw [if_neg same]
      exact gives_only_other (Ne.symm same)

theorem exists_settings_iff :
    (∃ found, environment.settings = .ok found) ↔ ∀ entry, ∃ one, Gives environment one entry := by
  refine ⟨?_, ?_⟩
  · intro ⟨found, read⟩ entry
    exact ⟨found, (settings_ok_iff_gives.1 read).2 entry⟩
  · intro gives
    choose ones gives using gives
    exact ⟨assemble ones, settings_assemble gives⟩

theorem gives_algorithms_iff {raw : String} (given : Assoc.get? Entry.algorithms.name environment = some raw)
    (solid : ¬Blank raw.toList) : Gives environment settings .algorithms ↔
      ∃ found, algorithms (trim raw.toList) = .ok found ∧ settings.allowed = inOrder found := by
  unfold Gives Sets
  rw [entry?_given given solid]
  cases algorithms (trim raw.toList) <;> simp

theorem exists_gives_algorithms_iff {raw : String} (given : Assoc.get? Entry.algorithms.name environment = some raw)
    (solid : ¬Blank raw.toList) : (∃ one, Gives environment one .algorithms) ↔
      ∃ found, algorithms (trim raw.toList) = .ok found ∧ found ≠ [] := by
  simp only [gives_algorithms_iff given solid]
  refine ⟨?_, ?_⟩
  · intro ⟨one, found, read, same⟩
    exact ⟨found, read, inOrder_ne_nil_iff.1 (same ▸ one.someAllowed)⟩
  · intro ⟨found, read, some_⟩
    exact ⟨{ widest with allowed := inOrder found, someAllowed := inOrder_ne_nil some_ }, found, read, rfl⟩

/-- Settings are read from an environment just if they are from each of its variables alone, and each variable that is
read sets its own value as it does alone. One that is unset or blank leaves the initial value, and no other counts. The
algorithms are those that the items of their list name. -/
theorem settings_independent (environment : Environment) :
    ((∃ found, environment.settings = .ok found) ↔ ∀ entry, ∃ one, (environment.only entry).settings = .ok one) ∧
    (∀ found, environment.settings = .ok found → found.maxIssuerLength = widest.maxIssuerLength ∧
      ∀ entry one, (environment.only entry).settings = .ok one → Agree found one entry) ∧
    (∀ entry, environment.Unset entry.name → (environment.only entry).settings = .ok widest) ∧
    (∀ other : Environment, (∀ entry : Entry, Assoc.get? entry.name other = Assoc.get? entry.name environment) →
      other.settings = environment.settings) ∧
    ∀ raw items, Assoc.get? Entry.algorithms.name environment = some raw → ¬Blank raw.toList →
      raw.toList = join ',' items → (∀ item ∈ items, ',' ∉ item) →
      ((∃ one, (environment.only .algorithms).settings = .ok one) ↔
        (∀ item ∈ items, Blank item ∨ ∃ algorithm, Names item algorithm) ∧ ∃ item ∈ items, ¬Blank item) ∧
      ∀ found, environment.settings = .ok found →
        ∀ algorithm, algorithm ∈ found.allowed ↔ ∃ item ∈ items, Names item algorithm := by
  refine ⟨?_, ?_, ?_, ?_, ?_⟩
  · rw [exists_settings_iff]
    exact forall_congr' fun entry => exists_only_iff.symm
  · intro found read
    obtain ⟨issuerLength, gives⟩ := settings_ok_iff_gives.1 read
    refine ⟨issuerLength, ?_⟩
    intro entry one readAlone
    exact (gives entry).agree (gives_only_iff.1 ((settings_ok_iff_gives.1 readAlone).2 entry))
  · intro entry unset
    refine settings_ok_iff_gives.2 ⟨rfl, ?_⟩
    intro other
    by_cases same : entry = other
    · subst same
      exact gives_only_iff.2 (gives_unset unset)
    · exact gives_only_other same
  · intro other same
    exact settings_congr same
  · intro raw items given solid listed clear
    have some_ : items ≠ [] := by
      rintro rfl
      exact solid (listed ▸ nofun)
    refine ⟨?_, ?_⟩
    · rw [exists_only_iff, exists_gives_algorithms_iff given solid, listed, ← exists_algorithms_iff clear some_]
      refine ⟨?_, ?_⟩
      · intro ⟨found, read, named⟩
        exact ⟨⟨found, read⟩, (algorithms_ne_nil_iff clear some_ read).1 named⟩
      · intro ⟨⟨found, read⟩, named⟩
        exact ⟨found, read, (algorithms_ne_nil_iff clear some_ read).2 named⟩
    · intro found read algorithm
      obtain ⟨algorithms, parsed, allowed⟩ :=
        (gives_algorithms_iff given solid).1 ((settings_ok_iff_gives.1 read).2 .algorithms)
      rw [listed] at parsed
      rw [allowed, mem_inOrder_iff, mem_algorithms_iff clear some_ parsed]

/-- A list with blanks and blank items, and a network whose number is zero. -/
def specimen : Environment := [("PASS_JWT_ALLOWED_ALGORITHMS", " ES256 ,,EdDSA, "), ("PASS_JWT_SS58_PREFIX", "0")]

def specified : Settings :=
  { widest with
    allowed := [.es256, .eddsa]
    network := some 0
    someAllowed := nofun
    networkRange := by simp }

/-- Each of the two variables sets its value as it does alone, an absent one sets none, and a list of nothing but blank
items is refused. -/
theorem settings_independent_specimen :
    (∃ found, specimen.settings = .ok found ∧ found.network = some 0 ∧ Algorithm.es256 ∈ found.allowed) ∧
    (specimen.only .timeout).settings = .ok widest ∧
    ¬∃ one, (only .algorithms [("PASS_JWT_ALLOWED_ALGORITHMS", ", ,")]).settings = .ok one := by
  obtain ⟨-, alone, unset, -, listed⟩ := settings_independent specimen
  obtain ⟨-, -, -, -, listedBlank⟩ := settings_independent [("PASS_JWT_ALLOWED_ALGORITHMS", ", ,")]
  have found : specimen.settings = .ok specified := rfl
  have network : (specimen.only .network).settings =
      .ok { widest with network := some 0, networkRange := by simp } := rfl
  obtain ⟨-, agree⟩ := alone specified found
  obtain ⟨-, named⟩ := listed " ES256 ,,EdDSA, " [" ES256 ".toList, [], "EdDSA".toList, [' ']] rfl
    (by decide) rfl (by decide)
  obtain ⟨accepted, -⟩ := listedBlank ", ," [[], [' '], []] rfl (by decide) rfl (by decide)
  refine ⟨⟨specified, found, agree .network _ network, ?_⟩, ?_, ?_⟩
  · apply (named specified found .es256).2
    exact ⟨_, List.mem_cons_self, [' '], [' '], rfl, by decide, by decide⟩
  · apply unset .timeout
    intro raw given
    cases given
  · intro readable
    obtain ⟨item, inside, solid⟩ := (accepted.1 readable).2
    have blank : ∀ item ∈ [[], [' '], []], Blank item := by decide
    exact solid (blank item inside)

end Settings.Environment

end Credential
