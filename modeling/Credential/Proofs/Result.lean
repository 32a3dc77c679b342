import Mathlib.Data.List.Forall2

/-! How a chain of steps that may fail ends: with success exactly when each of its steps succeeds, and
with the failure of the first step that does not. -/

namespace Credential.Result

variable {fault other value next : Type}

theorem bind_ok_iff {result : Except fault value} {following : value → Except fault next} {found : next} :
    (result >>= following) = .ok found ↔ ∃ produced, result = .ok produced ∧ following produced = .ok found := by
  cases result with
  | error cause => exact ⟨fun impossible => (by cases impossible), fun ⟨_, impossible, _⟩ => (by cases impossible)⟩
  | ok produced =>
    constructor
    · intro succeeds
      exact ⟨produced, rfl, succeeds⟩
    · intro steps
      obtain ⟨other, same, succeeds⟩ := steps
      cases same
      exact succeeds

theorem mapError_ok (change : fault → other) (found : value) :
    (Except.ok found : Except fault value).mapError change = .ok found := rfl

theorem mapError_error (change : fault → other) (cause : fault) :
    (Except.error cause : Except fault value).mapError change = .error (change cause) := rfl

theorem mapError_ok_iff {result : Except fault value} {change : fault → other} {found : value} :
    result.mapError change = .ok found ↔ result = .ok found := by
  cases result with
  | error cause => simp [mapError_error]
  | ok produced => simp [mapError_ok]

/-- A step that only notes something changes nothing in what is found. -/
theorem bind_noted (result : Except fault value) : (do
    let found ← result
    (Except.ok () : Except fault Unit)
    (.ok found)) = result := by
  cases result <;> rfl

theorem bind_error_iff {result : Except fault value} {following : value → Except fault next} {cause : fault} :
    (result >>= following) = .error cause ↔
      result = .error cause ∨ ∃ produced, result = .ok produced ∧ following produced = .error cause := by
  cases result with
  | error other =>
    constructor
    · intro fails
      cases fails
      exact .inl rfl
    · intro either
      rcases either with fails | ⟨_, impossible, _⟩
      · cases fails
        rfl
      · cases impossible
  | ok produced =>
    constructor
    · intro fails
      exact .inr ⟨produced, rfl, fails⟩
    · intro either
      rcases either with impossible | ⟨other, same, fails⟩
      · cases impossible
      · cases same
        exact fails

theorem mapError_error_iff {result : Except fault value} {change : fault → other} {cause : other} :
    result.mapError change = .error cause ↔ ∃ old, result = .error old ∧ cause = change old := by
  cases result with
  | error old => simp [mapError_error, eq_comm]
  | ok produced => simp [mapError_ok]

/-- All or nothing: each of the items is read, as the value in its place. -/
def Each {item : Type} (read : item → Except fault value) (items : List item) (found : List value) : Prop :=
  List.Forall₂ (fun item value => read item = .ok value) items found

section Each

variable {item : Type} {read : item → Except fault value} {items : List item} {found : List value}

theorem mapM_ok_iff : items.mapM read = .ok found ↔ Each read items found := by
  induction items generalizing found with
  | nil =>
    rw [List.mapM_nil, Each, List.forall₂_nil_left_iff]
    exact ⟨fun same => (Except.ok.inj same).symm, fun same => same ▸ rfl⟩
  | cons item rest ih =>
    rw [List.mapM_cons, bind_ok_iff, Each, List.forall₂_cons_left_iff]
    refine ⟨?_, ?_⟩
    · intro ⟨value, first, later⟩
      obtain ⟨more, readRest, same⟩ := bind_ok_iff.1 later
      cases same
      exact ⟨value, more, first, ih.1 readRest, rfl⟩
    · rintro ⟨value, more, first, each, rfl⟩
      exact ⟨value, first, bind_ok_iff.2 ⟨more, ih.2 each, rfl⟩⟩

theorem Each.mem_iff (each : Each read items found) {value : value} :
    value ∈ found ↔ ∃ item ∈ items, read item = .ok value := by
  induction each with
  | nil => simp
  | cons first _ ih => rw [List.mem_cons, ih, List.exists_mem_cons_iff, first, Except.ok.injEq, eq_comm]

theorem exists_each_iff : (∃ found, Each read items found) ↔ ∀ item ∈ items, ∃ value, read item = .ok value := by
  induction items with
  | nil => exact iff_of_true ⟨[], .nil⟩ nofun
  | cons item rest ih =>
    rw [List.forall_mem_cons, ← ih]
    refine ⟨?_, ?_⟩
    · rintro ⟨_, first | ⟨first, each⟩⟩
      exact ⟨⟨_, first⟩, _, each⟩
    · intro ⟨⟨value, first⟩, found, each⟩
      exact ⟨value :: found, .cons first each⟩

end Each

def FailsOnly (allowed : fault → Prop) (result : Except fault value) : Prop :=
  ∀ cause, result = .error cause → allowed cause

namespace FailsOnly

variable {allowed : fault → Prop}

theorem ok (found : value) : FailsOnly allowed (.ok found) := by
  intro cause impossible
  cases impossible

theorem error {cause : fault} (fits : allowed cause) : FailsOnly allowed (.error cause : Except fault value) := by
  intro other same
  cases same
  exact fits

theorem bind {result : Except fault value} {following : value → Except fault next} (fails : FailsOnly allowed result)
    (later : ∀ found, FailsOnly allowed (following found)) : FailsOnly allowed (result >>= following) := by
  intro cause failed
  rcases bind_error_iff.1 failed with first | ⟨found, -, failed⟩
  · exact fails cause first
  · exact later found cause failed

theorem mapError {reported : other → Prop} {result : Except fault value} {change : fault → other}
    (fits : ∀ cause, reported (change cause)) : FailsOnly reported (result.mapError change) := by
  intro cause failed
  obtain ⟨old, -, rfl⟩ := mapError_error_iff.1 failed
  exact fits old

end FailsOnly

end Credential.Result
