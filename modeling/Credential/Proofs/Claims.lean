import Credential.Claims
import Credential.Proofs.Audience
import Credential.Proofs.Hex32
import Credential.Proofs.Result

/-! What a payload must hold to be claims. The members that are required are missed first, in their order; then each
member is held against its form, again in one order, and the first that falls short of it is the one that is named. -/

namespace Credential

open Rejection

theorem Audience.hasScheme_iff {text : List Char} :
    hasScheme text = true ↔ ∃ scheme rest, text = scheme ++ ':' :: rest ∧ IsScheme scheme := by
  simp only [hasScheme, Option.isSome_iff_exists, Prod.exists, splitScheme?_eq_some_iff]

namespace ChallengePair

def Spells (members : List (String × Json String)) (name : String) (bytes : Bytes) : Prop :=
  ∃ text, Assoc.get? name members = some (.string text) ∧ Hex32.Spelled text.toList ∧
    Hex32.render bytes = text.toList.map Char.toLower

section Read

variable {members : List (String × Json String)} {name : String} {bytes : Bytes}

theorem hex32_ok_iff : hex32 ((Assoc.get? name members).getD .null) = .ok bytes ↔ Spells members name bytes := by
  rw [hex32_eq_ok_iff, Spells]
  cases Assoc.get? name members <;> simp

theorem exists_spells_iff : (∃ bytes, Spells members name bytes) ↔
    ∃ text, Assoc.get? name members = some (.string text) ∧ Hex32.Spelled text.toList := by
  refine ⟨?_, ?_⟩
  · intro ⟨bytes, text, given, spelled, _⟩
    exact ⟨text, given, spelled⟩
  · intro ⟨text, given, spelled⟩
    obtain ⟨bytes, read⟩ := Hex32.spelled_iff.1 spelled
    exact ⟨bytes, text, given, Hex32.parse?_eq_some_iff.1 read⟩

theorem ofClaim_ok_iff {given : Json String} {pair : ChallengePair} : ofClaim given = .ok pair ↔
    ∃ members, given = .object members ∧ Spells members "challenge" pair.challenge ∧
      Spells members "context" pair.context := by
  cases given with
  | object members =>
    simp only [ofClaim, Result.bind_ok_iff, hex32_ok_iff, Json.object.injEq, exists_eq_left']
    refine ⟨?_, ?_⟩
    · intro parts
      obtain ⟨challenge, first, context, second, same⟩ := parts
      cases same
      exact ⟨first, second⟩
    · intro parts
      obtain ⟨first, second⟩ := parts
      exact ⟨_, first, _, second, rfl⟩
  | _ => simp [ofClaim]

end Read

end ChallengePair

namespace Claims

open ChallengePair (Spells)

/-- Of a list the first without the property. -/
def FirstWithout {α : Type} (holds : α → Prop) (order : List α) (found : α) : Prop :=
  ∃ earlier later, order = earlier ++ found :: later ∧ (∀ other ∈ earlier, holds other) ∧ ¬holds found

namespace FirstWithout

variable {α : Type} {holds : α → Prop} {order first : List α} {found other : α}

theorem append (here : FirstWithout holds first found) (order : List α) :
    FirstWithout holds (first ++ order) found := by
  obtain ⟨earlier, later, rfl, before, fails⟩ := here
  exact ⟨earlier, later ++ order, List.append_assoc .., before, fails⟩

theorem cons {next : α} (passed : holds next) (later : FirstWithout holds order found) :
    FirstWithout holds (next :: order) found := by
  obtain ⟨earlier, rest, rfl, before, fails⟩ := later
  refine ⟨next :: earlier, rest, rfl, ?_, fails⟩
  intro other member
  rcases List.mem_cons.1 member with rfl | inside
  · exact passed
  · exact before other inside

theorem unique (one : FirstWithout holds order found) (two : FirstWithout holds order other) : found = other := by
  obtain ⟨earlier, later, rfl, before, fails⟩ := one
  obtain ⟨earlierToo, laterToo, same, beforeToo, failsToo⟩ := two
  rcases List.append_eq_append_iff.1 same with ⟨between, rfl, rest⟩ | ⟨between, rfl, rest⟩
  · cases between with
    | nil =>
      cases rest
      rfl
    | cons next more =>
      cases rest
      exact absurd (beforeToo _ (List.mem_append_right _ List.mem_cons_self)) fails
  · cases between with
    | nil =>
      cases rest
      rfl
    | cons next more =>
      cases rest
      exact absurd (before _ (List.mem_append_right _ List.mem_cons_self)) failsToo

end FirstWithout

def IsText (given : Json String) : Prop := ∃ text, given = .string text ∧ text ≠ ""

def IsUri (given : Json String) : Prop :=
  ∃ text scheme rest, given = .string text ∧ text.toList = scheme ++ ':' :: rest ∧ Audience.IsScheme scheme

/-- An integer that is not negative. A truth value is no integer, nor is a number with a fraction. -/
def IsTime (given : Json String) : Prop := ∃ time : Nat, given = .int time

def IsPair (given : Json String) : Prop :=
  ∃ members, given = .object members ∧ ∀ name ∈ ["challenge", "context"],
    ∃ text, Assoc.get? name members = some (.string text) ∧ Hex32.Spelled text.toList

def Present (payload : Payload) (name : String) : Prop := ∃ given, Assoc.get? name payload = some given

def Has (payload : Payload) (name : String) (form : Json String → Prop) : Prop :=
  ∃ given, Assoc.get? name payload = some given ∧ form given

/-- Absent, or of the form; null is not absent. -/
def May (payload : Payload) (name : String) (form : Json String → Prop) : Prop :=
  ∀ given, Assoc.get? name payload = some given → form given

/-- What is asked of a payload that misses no member. -/
inductive Demand where
  | iss
  | sub
  | aud
  | iat
  | exp
  | lasting
  | jti
  | challenge
  | alg
  | kid

namespace Demand

def order : List Demand := [iss, sub, aud, iat, exp, lasting, jti, challenge, alg, kid]

theorem mem_order (demand : Demand) : demand ∈ order := by
  cases demand <;> simp [order]

def Met (payload : Payload) : Demand → Prop
  | iss => Has payload "iss" IsText
  | sub => Has payload "sub" IsText
  | aud => Has payload "aud" IsUri
  | iat => Has payload "iat" IsTime
  | exp => Has payload "exp" IsTime
  | lasting => ∃ iat exp : Int, Assoc.get? "iat" payload = some (.int iat) ∧
      Assoc.get? "exp" payload = some (.int exp) ∧ iat < exp
  | jti => Has payload "jti" IsText
  | challenge => Has payload "challenge" IsPair
  | alg => May payload "alg" IsText
  | kid => May payload "kid" IsText

/-- The kind of failure and the claim that it names: an audience has a kind of its own, which names none. -/
def fault : Demand → Kind × Option String
  | iss => (.invalidClaim, some "iss")
  | sub => (.invalidClaim, some "sub")
  | aud => (.invalidAudience, none)
  | iat => (.invalidClaim, some "iat")
  | exp => (.invalidClaim, some "exp")
  | lasting => (.invalidClaim, some "exp")
  | jti => (.invalidClaim, some "jti")
  | challenge => (.invalidClaim, some "challenge")
  | alg => (.invalidClaim, some "alg")
  | kid => (.invalidClaim, some "kid")

end Demand

/-- A result that is decided by the first of some demands that is not met, if there is one. -/
def Follows {value : Type} (payload : Payload) (demands : List Demand) : Except Rejection value → Prop
  | .ok _ => ∀ demand ∈ demands, demand.Met payload
  | .error cause => ∃ demand, FirstWithout (Demand.Met payload) demands demand ∧
      (cause.kind, cause.claim?) = demand.fault

namespace Follows

variable {value next : Type} {payload : Payload} {demand : Demand} {demands : List Demand}

theorem done (found : value) : Follows payload [] (.ok found) := by
  intro demand impossible
  cases impossible

theorem unmet {cause : Rejection} (unmet : ¬demand.Met payload) (named : (cause.kind, cause.claim?) = demand.fault)
    (demands : List Demand) : Follows payload (demand :: demands) (.error cause : Except Rejection value) := by
  refine ⟨demand, ⟨[], demands, rfl, ?_, unmet⟩, named⟩
  intro other impossible
  cases impossible

theorem after {result : Except Rejection value} (met : demand.Met payload) (follows : Follows payload demands result) :
    Follows payload (demand :: demands) result := by
  cases result with
  | ok found =>
    intro other member
    rcases List.mem_cons.1 member with rfl | later
    · exact met
    · exact follows other later
  | error cause =>
    obtain ⟨other, there, named⟩ := follows
    exact ⟨other, there.cons met, named⟩

theorem bind {result : Except Rejection value} {following : value → Except Rejection next}
    (follows : Follows payload [demand] result)
    (later : ∀ found, result = .ok found → Follows payload demands (following found)) :
    Follows payload (demand :: demands) (result >>= following) := by
  cases result with
  | error cause =>
    obtain ⟨other, here, named⟩ := follows
    exact ⟨other, here.append demands, named⟩
  | ok found => exact .after (follows demand List.mem_cons_self) (later found rfl)

end Follows

/-- What is found in a value of the form, and how any other fails. -/
def Rules {value : Type} (form : Json String → Prop) (means : Json String → value → Prop)
    (fault : Kind × Option String) (given : Json String) : Except Rejection value → Prop
  | .ok found => form given ∧ means given found
  | .error cause => ¬form given ∧ (cause.kind, cause.claim?) = fault

section Checks

variable {payload : Payload} {name : String} {given : Json String}

theorem text_rules (claim : String) (given : Json String) :
    Rules IsText (fun given found => given = .string found) (.invalidClaim, some claim) given (text claim given) := by
  unfold text
  split
  next written =>
    split
    next empty =>
      refine ⟨?_, rfl⟩
      intro ⟨other, same, filled⟩
      cases same
      exact filled empty
    next filled => exact ⟨⟨written, rfl, filled⟩, rfl⟩
  next other =>
    refine ⟨?_, rfl⟩
    intro ⟨written, same, _⟩
    exact other written same

theorem time_rules (claim : String) (given : Json String) :
    Rules IsTime (fun given (found : Nat) => given = .int found) (.invalidClaim, some claim) given
      (time claim given) := by
  unfold time
  split
  next number => exact ⟨⟨number, rfl⟩, rfl⟩
  next other =>
    refine ⟨?_, rfl⟩
    intro ⟨number, same⟩
    exact other number same

theorem audience_rules (given : Json String) :
    Rules IsUri (fun given found => given = .string found) (.invalidAudience, none) given (audience given) := by
  unfold audience
  split
  next written =>
    split
    next schemed =>
      obtain ⟨scheme, rest, whole, proper⟩ := Audience.hasScheme_iff.1 schemed
      exact ⟨⟨written, scheme, rest, rfl, whole, proper⟩, rfl⟩
    next unschemed =>
      refine ⟨?_, rfl⟩
      intro ⟨other, scheme, rest, same, whole, proper⟩
      cases same
      exact unschemed (Audience.hasScheme_iff.2 ⟨scheme, rest, whole, proper⟩)
  next other =>
    refine ⟨?_, rfl⟩
    intro ⟨written, _, _, same, _⟩
    exact other written same

theorem isPair_iff : IsPair given ↔ ∃ pair, ChallengePair.ofClaim given = .ok pair := by
  simp only [ChallengePair.ofClaim_ok_iff]
  refine ⟨?_, ?_⟩
  · intro ⟨members, same, digests⟩
    obtain ⟨challenge, first⟩ := ChallengePair.exists_spells_iff.2 (digests "challenge" (by simp))
    obtain ⟨context, second⟩ := ChallengePair.exists_spells_iff.2 (digests "context" (by simp))
    exact ⟨⟨challenge, context⟩, members, same, first, second⟩
  · intro ⟨pair, members, same, first, second⟩
    refine ⟨members, same, ?_⟩
    intro name member
    rcases List.mem_pair.1 member with rfl | rfl
    · exact ChallengePair.exists_spells_iff.1 ⟨_, first⟩
    · exact ChallengePair.exists_spells_iff.1 ⟨_, second⟩

theorem pair_rules (given : Json String) :
    Rules IsPair (fun given pair => ChallengePair.ofClaim given = .ok pair) (.invalidClaim, some "challenge") given
      (pair given) := by
  unfold pair
  split
  next found read => exact ⟨isPair_iff.2 ⟨found, read⟩, read⟩
  next cause refused =>
    refine ⟨?_, rfl⟩
    intro fits
    obtain ⟨found, read⟩ := isPair_iff.1 fits
    cases refused.symm.trans read

theorem optional_follows (demand : Demand) (met_iff : demand.Met payload ↔ May payload name IsText)
    (named : demand.fault = (.invalidClaim, some name)) : Follows payload [demand] (optional name payload) := by
  unfold optional
  split
  next absent =>
    apply Follows.after _ (.done none)
    apply met_iff.2
    intro given present
    cases absent.symm.trans present
  next given present =>
    have rules := text_rules name given
    cases read : text name given with
    | ok found =>
      rw [read] at rules
      apply Follows.after _ (.done (some found))
      apply met_iff.2
      intro other presentToo
      cases present.symm.trans presentToo
      exact rules.1
    | error cause =>
      rw [read] at rules
      refine .unmet ?_ (rules.2.trans named.symm) []
      intro met
      exact rules.1 (met_iff.1 met given present)

theorem get?_of_optional {found : Option String} (read : optional name payload = .ok found) :
    Assoc.get? name payload = found.map .string := by
  unfold optional at read
  split at read
  next absent =>
    cases read
    exact absent
  next given present =>
    obtain ⟨written, succeeds, same⟩ := Result.bind_ok_iff.1 read
    cases same
    have rules := text_rules name given
    rw [succeeds] at rules
    exact present.trans (congrArg some rules.2)

end Checks

section Members

variable {payload : Payload} {name : String} {form : Json String → Prop}

/-- An absent member is read as null, so a form that null has not tells of presence too. -/
theorem has_iff (absent : ¬form .null) : Has payload name form ↔ form (value name payload) := by
  unfold Has value
  cases Assoc.get? name payload with
  | none => simp [absent]
  | some member => simp

theorem get?_of_value (given : value name payload ≠ .null) :
    Assoc.get? name payload = some (value name payload) := by
  unfold value at given ⊢
  cases present : Assoc.get? name payload with
  | none =>
    rw [present] at given
    exact absurd rfl given
  | some member => rfl

section Rules

variable {found : Type} {means : Json String → found → Prop} {fault : Kind × Option String}
  {result : Except Rejection found}

theorem Rules.follows (demand : Demand) (rules : Rules form means demand.fault (value name payload) result)
    (absent : ¬form .null) (met_iff : demand.Met payload ↔ Has payload name form) :
    Follows payload [demand] result := by
  rw [has_iff absent] at met_iff
  cases result with
  | ok found => exact .after (met_iff.2 rules.1) (.done found)
  | error cause => exact .unmet (mt met_iff.1 rules.1) rules.2 []

theorem Rules.get? {read : found} (rules : Rules form means fault (value name payload) result) (absent : ¬form .null)
    (ended : result = .ok read) :
    Assoc.get? name payload = some (value name payload) ∧ means (value name payload) read := by
  subst ended
  refine ⟨?_, rules.2⟩
  apply get?_of_value
  intro null
  exact absent (null ▸ rules.1)

end Rules

private theorem not_isText_null : ¬IsText .null := by
  intro ⟨_, impossible, _⟩
  cases impossible

private theorem not_isTime_null : ¬IsTime .null := by
  intro ⟨_, impossible⟩
  cases impossible

private theorem not_isUri_null : ¬IsUri .null := by
  intro ⟨_, _, _, impossible, _⟩
  cases impossible

private theorem not_isPair_null : ¬IsPair .null := by
  intro ⟨_, impossible, _⟩
  cases impossible

theorem get?_of_text {found : String} (read : text name (value name payload) = .ok found) :
    Assoc.get? name payload = some (.string found) := by
  obtain ⟨present, same⟩ := (text_rules name _).get? not_isText_null read
  rw [present, same]

theorem get?_of_time {found : Nat} (read : time name (value name payload) = .ok found) :
    Assoc.get? name payload = some (.int found) := by
  obtain ⟨present, same⟩ := (time_rules name _).get? not_isTime_null read
  rw [present, same]

theorem get?_of_audience {found : String} (read : audience (value name payload) = .ok found) :
    Assoc.get? name payload = some (.string found) := by
  obtain ⟨present, same⟩ := (audience_rules _).get? not_isUri_null read
  rw [present, same]

theorem get?_of_pair {found : ChallengePair} (read : pair (value name payload) = .ok found) :
    ∃ members, Assoc.get? name payload = some (.object members) ∧ Spells members "challenge" found.challenge ∧
      Spells members "context" found.context := by
  obtain ⟨present, means⟩ := (pair_rules _).get? not_isPair_null read
  obtain ⟨members, same, digests⟩ := ChallengePair.ofClaim_ok_iff.1 means
  exact ⟨members, present.trans (congrArg some same), digests⟩

end Members

structure States (payload : Payload) (claims : Claims) : Prop where
  iss : Assoc.get? "iss" payload = some (.string claims.iss)
  sub : Assoc.get? "sub" payload = some (.string claims.sub)
  aud : Assoc.get? "aud" payload = some (.string claims.aud)
  iat : Assoc.get? "iat" payload = some (.int claims.iat)
  exp : Assoc.get? "exp" payload = some (.int claims.exp)
  jti : Assoc.get? "jti" payload = some (.string claims.jti)
  challenge : ∃ members, Assoc.get? "challenge" payload = some (.object members) ∧
    Spells members "challenge" claims.challenge.challenge ∧ Spells members "context" claims.challenge.context
  alg : Assoc.get? "alg" payload = claims.alg.map .string
  kid : Assoc.get? "kid" payload = claims.kid.map .string

section Payload

variable {payload other : Payload} {claims : Claims}

theorem states_of_ofPayload (claimed : ofPayload payload = .ok claims) : States payload claims := by
  unfold ofPayload at claimed
  split at claimed
  · cases claimed
  · obtain ⟨iss, issRead, claimed⟩ := Result.bind_ok_iff.1 claimed
    obtain ⟨sub, subRead, claimed⟩ := Result.bind_ok_iff.1 claimed
    obtain ⟨aud, audRead, claimed⟩ := Result.bind_ok_iff.1 claimed
    obtain ⟨iat, iatRead, claimed⟩ := Result.bind_ok_iff.1 claimed
    obtain ⟨exp, expRead, claimed⟩ := Result.bind_ok_iff.1 claimed
    split at claimed
    · cases claimed
    · obtain ⟨jti, jtiRead, claimed⟩ := Result.bind_ok_iff.1 claimed
      obtain ⟨challenge, challengeRead, claimed⟩ := Result.bind_ok_iff.1 claimed
      obtain ⟨alg, algRead, claimed⟩ := Result.bind_ok_iff.1 claimed
      obtain ⟨kid, kidRead, claimed⟩ := Result.bind_ok_iff.1 claimed
      cases claimed
      exact {
        iss := get?_of_text issRead
        sub := get?_of_text subRead
        aud := get?_of_audience audRead
        iat := get?_of_time iatRead
        exp := get?_of_time expRead
        jti := get?_of_text jtiRead
        challenge := get?_of_pair challengeRead
        alg := get?_of_optional algRead
        kid := get?_of_optional kidRead }

theorem met_lasting_iff {iat exp : Nat} (started : time "iat" (value "iat" payload) = .ok iat)
    (ended : time "exp" (value "exp" payload) = .ok exp) : Demand.lasting.Met payload ↔ iat < exp := by
  refine ⟨?_, ?_⟩
  · intro ⟨first, last, startedToo, endedToo, lasts⟩
    cases (get?_of_time started).symm.trans startedToo
    cases (get?_of_time ended).symm.trans endedToo
    exact Int.ofNat_lt.1 lasts
  · intro lasts
    exact ⟨iat, exp, get?_of_time started, get?_of_time ended, Int.ofNat_lt.2 lasts⟩

theorem ofPayload_follows (complete : missing? payload = none) :
    Follows payload Demand.order (ofPayload payload) := by
  simp only [ofPayload, complete]
  refine Follows.bind ((text_rules "iss" _).follows .iss not_isText_null .rfl) fun iss _ => ?_
  refine Follows.bind ((text_rules "sub" _).follows .sub not_isText_null .rfl) fun sub _ => ?_
  refine Follows.bind ((audience_rules _).follows .aud not_isUri_null .rfl) fun aud _ => ?_
  refine Follows.bind ((time_rules "iat" _).follows .iat not_isTime_null .rfl) fun iat started => ?_
  refine Follows.bind ((time_rules "exp" _).follows .exp not_isTime_null .rfl) fun exp ended => ?_
  have lasting := met_lasting_iff started ended
  split
  next early => exact .unmet (mt lasting.1 (Nat.not_lt.2 early)) rfl _
  next late =>
    refine .after (lasting.2 (Nat.not_le.1 late)) ?_
    refine Follows.bind ((text_rules "jti" _).follows .jti not_isText_null .rfl) fun jti _ => ?_
    refine Follows.bind ((pair_rules _).follows .challenge not_isPair_null .rfl) fun challenge _ => ?_
    refine Follows.bind (optional_follows .alg .rfl rfl) fun alg _ => ?_
    exact Follows.bind (optional_follows .kid .rfl rfl) fun kid _ => .done _

theorem present_iff {name : String} : Present payload name ↔ (Assoc.get? name payload).isNone = false := by
  unfold Present
  cases Assoc.get? name payload with
  | none => simp
  | some given => simp

theorem missing?_eq_some_iff {name : String} :
    missing? payload = some name ↔ FirstWithout (Present payload) required name := by
  simp only [missing?, List.find?_eq_some_iff_append, FirstWithout, present_iff, Bool.not_eq_eq_eq_not, Bool.not_true,
    Bool.not_eq_false]
  refine ⟨?_, ?_⟩
  · intro found
    obtain ⟨absent, earlier, later, whole, before⟩ := found
    exact ⟨earlier, later, whole, before, absent⟩
  · intro first
    obtain ⟨earlier, later, whole, before, absent⟩ := first
    exact ⟨absent, earlier, later, whole, before⟩

theorem missing?_eq_none_iff : missing? payload = none ↔ ∀ name ∈ required, Present payload name := by
  simp only [missing?, List.find?_eq_none, present_iff, Bool.not_eq_true]

/-- No demand that is not met is told as a missing member. -/
theorem ofPayload_missing_iff {name : String} :
    ofPayload payload = .error (.missingClaim name) ↔ missing? payload = some name := by
  cases missing : missing? payload with
  | some absent =>
    simp only [ofPayload, missing, Except.error.injEq, Rejection.missingClaim.injEq, Option.some.injEq]
  | none =>
    refine ⟨?_, fun impossible => by cases impossible⟩
    intro failed
    have follows := ofPayload_follows missing
    rw [failed] at follows
    obtain ⟨demand, -, named⟩ := follows
    cases demand <;> cases named

theorem missing?_of_met (met : ∀ demand : Demand, demand.Met payload) : missing? payload = none := by
  have present : ∀ {name form}, Has payload name form → Present payload name := by
    intro name form ⟨given, found, _⟩
    exact ⟨given, found⟩
  rw [missing?_eq_none_iff]
  simp only [required, List.forall_mem_cons]
  exact ⟨present (met .iss), present (met .sub), present (met .aud), present (met .iat), present (met .exp),
    present (met .jti), present (met .challenge), fun _ impossible => absurd impossible List.not_mem_nil⟩

theorem ofPayload_ok_iff : (∃ claims, ofPayload payload = .ok claims) ↔ ∀ demand : Demand, demand.Met payload := by
  refine ⟨?_, ?_⟩
  · intro ⟨claims, claimed⟩ demand
    have complete : missing? payload = none := by
      cases missing : missing? payload with
      | none => rfl
      | some name => cases claimed.symm.trans (ofPayload_missing_iff.2 missing)
    have follows := ofPayload_follows complete
    rw [claimed] at follows
    exact follows demand demand.mem_order
  · intro met
    have follows := ofPayload_follows (missing?_of_met met)
    cases ended : ofPayload payload with
    | ok claims => exact ⟨claims, rfl⟩
    | error cause =>
      rw [ended] at follows
      obtain ⟨demand, ⟨_, _, -, -, unmet⟩, -⟩ := follows
      exact absurd (met demand) unmet

theorem ofPayload_unmet {demand : Demand} (complete : missing? payload = none)
    (first : FirstWithout (Demand.Met payload) Demand.order demand) :
    ∃ cause, ofPayload payload = .error cause ∧ (cause.kind, cause.claim?) = demand.fault := by
  have follows := ofPayload_follows complete
  cases ended : ofPayload payload with
  | ok claims =>
    obtain ⟨_, _, -, -, unmet⟩ := first
    exact absurd (ofPayload_ok_iff.1 ⟨claims, ended⟩ demand) unmet
  | error cause =>
    rw [ended] at follows
    obtain ⟨other, there, named⟩ := follows
    exact ⟨cause, rfl, named.trans (congrArg Demand.fault (there.unique first))⟩

theorem lasts_of_ofPayload (claimed : ofPayload payload = .ok claims) : claims.iat < claims.exp := by
  have states := states_of_ofPayload claimed
  obtain ⟨iat, exp, started, ended, lasts⟩ := ofPayload_ok_iff.1 ⟨claims, claimed⟩ .lasting
  cases states.iat.symm.trans started
  cases states.exp.symm.trans ended
  exact Int.ofNat_lt.1 lasts

theorem ofPayload_congr
    (same : ∀ name ∈ required ++ ["alg", "kid"], Assoc.get? name other = Assoc.get? name payload) :
    ofPayload other = ofPayload payload := by
  simp only [required, List.cons_append, List.nil_append, List.forall_mem_cons] at same
  obtain ⟨iss, sub, aud, iat, exp, jti, challenge, alg, kid, -⟩ := same
  simp only [ofPayload, missing?, required, List.find?, value, optional, iss, sub, aud, iat, exp, jti, challenge, alg,
    kid]

/-- A payload is taken for claims just if it meets every demand. Else it fails for the first member it misses, or if it
misses none, for the first demand it does not meet. What it holds besides does not count. -/
theorem ofPayload_first_fault (payload : Payload) :
    (∀ name, ofPayload payload = .error (.missingClaim name) ↔
      FirstWithout (Present payload) ["iss", "sub", "aud", "iat", "exp", "jti", "challenge"] name) ∧
    ((∃ claims, ofPayload payload = .ok claims) ↔ ∀ demand : Demand, demand.Met payload) ∧
    ((∀ name, ofPayload payload ≠ .error (.missingClaim name)) → ∀ demand,
      FirstWithout (Demand.Met payload) Demand.order demand →
        ∃ cause, ofPayload payload = .error cause ∧ (cause.kind, cause.claim?) = demand.fault) ∧
    (∀ claims, ofPayload payload = .ok claims → States payload claims) ∧
    ∀ other, (∀ name ∈ ["iss", "sub", "aud", "iat", "exp", "jti", "challenge", "alg", "kid"],
      Assoc.get? name other = Assoc.get? name payload) → ofPayload other = ofPayload payload := by
  refine ⟨?_, ofPayload_ok_iff, ?_, fun _ => states_of_ofPayload, fun _ => ofPayload_congr⟩
  · intro name
    exact ofPayload_missing_iff.trans missing?_eq_some_iff
  · intro complete demand
    apply ofPayload_unmet
    apply Option.eq_none_iff_forall_ne_some.2
    intro name missing
    exact complete name (ofPayload_missing_iff.2 missing)

end Payload

def zeros : String := String.ofList ('0' :: 'x' :: List.replicate 64 '0')

def plain : Payload :=
  [("iss", .string "org-42"), ("sub", .string "device-9"), ("aud", .string "urn:authority:kreivo"), ("iat", .int 1000),
    ("exp", .int 2000), ("jti", .string zeros),
    ("challenge", .object [("challenge", .string zeros), ("context", .string zeros)])]

/-- No subject, a start in words, no digests, and a key id of the wrong kind. -/
def garbled : Payload :=
  [("iss", .string "org-42"), ("sub", .string ""), ("aud", .string "urn:authority:kreivo"), ("iat", .string "noon"),
    ("exp", .int 2000), ("jti", .string zeros), ("challenge", .null), ("kid", .bool true)]

theorem spelled_zeros : Hex32.Spelled zeros.toList := by
  refine ⟨List.replicate 64 '0', String.toList_ofList, List.length_replicate, ?_⟩
  intro c member
  rw [List.eq_of_mem_replicate member]
  rfl

theorem plain_met (demand : Demand) : demand.Met plain := by
  cases demand with
  | iss => exact ⟨_, rfl, "org-42", rfl, by decide⟩
  | sub => exact ⟨_, rfl, "device-9", rfl, by decide⟩
  | aud =>
    have parts := Audience.hasScheme_iff.1 (rfl : Audience.hasScheme "urn:authority:kreivo".toList = true)
    obtain ⟨scheme, rest, whole, proper⟩ := parts
    exact ⟨_, rfl, _, scheme, rest, rfl, whole, proper⟩
  | iat => exact ⟨_, rfl, 1000, rfl⟩
  | exp => exact ⟨_, rfl, 2000, rfl⟩
  | lasting => exact ⟨1000, 2000, rfl, rfl, by decide⟩
  | jti => exact ⟨_, rfl, zeros, rfl, by decide⟩
  | challenge =>
    refine ⟨_, rfl, _, rfl, ?_⟩
    intro name member
    rcases List.mem_pair.1 member with rfl | rfl
    · exact ⟨zeros, rfl, spelled_zeros⟩
    · exact ⟨zeros, rfl, spelled_zeros⟩
  | alg =>
    intro given impossible
    cases impossible
  | kid =>
    intro given impossible
    cases impossible

/-- Of several faults the first is told, and before any of them what is missing. -/
theorem ofPayload_first_fault_specimen :
    (∃ claims, ofPayload plain = .ok claims ∧ claims.iat = 1000) ∧
    (∃ cause, ofPayload garbled = .error cause ∧ cause.kind = .invalidClaim ∧ cause.claim? = some "sub") ∧
    ofPayload (("jti", .null) :: garbled.take 4) = .error (.missingClaim "exp") := by
  obtain ⟨-, accepted, -, states, -⟩ := ofPayload_first_fault plain
  obtain ⟨missing, -, unmet, -⟩ := ofPayload_first_fault garbled
  obtain ⟨missingToo, -⟩ := ofPayload_first_fault (("jti", .null) :: garbled.take 4)
  refine ⟨?_, ?_, ?_⟩
  · obtain ⟨claims, claimed⟩ := accepted.2 plain_met
    have stated : some (Json.int 1000) = some (.int claims.iat) := (states claims claimed).iat
    exact ⟨claims, claimed, (Int.ofNat_inj.1 (Json.int.inj (Option.some.inj stated))).symm⟩
  · have complete : ∀ name, ofPayload garbled ≠ .error (.missingClaim name) := by
      intro name failed
      obtain ⟨earlier, later, whole, -, absent⟩ := (missing name).1 failed
      apply absent
      apply missing?_eq_none_iff.1 rfl name
      rw [required, whole]
      exact List.mem_append_right _ List.mem_cons_self
    have first : FirstWithout (Demand.Met garbled) Demand.order .sub := by
      refine ⟨[.iss], _, rfl, ?_, ?_⟩
      · intro other member
        rw [List.mem_singleton.1 member]
        exact ⟨_, rfl, "org-42", rfl, by decide⟩
      · intro ⟨given, present, text, written, filled⟩
        cases present
        cases written
        exact filled rfl
    obtain ⟨cause, failed, named⟩ := unmet complete .sub first
    exact ⟨cause, failed, congrArg Prod.fst named, congrArg Prod.snd named⟩
  · refine (missingToo "exp").2 ⟨["iss", "sub", "aud", "iat"], _, rfl, ?_, ?_⟩
    · simp only [List.forall_mem_cons]
      exact ⟨⟨_, rfl⟩, ⟨_, rfl⟩, ⟨_, rfl⟩, ⟨_, rfl⟩, fun _ impossible => absurd impossible List.not_mem_nil⟩
    · intro ⟨given, present⟩
      cases present

end Claims

end Credential
