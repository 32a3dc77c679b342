import Credential.Proofs.Stages
import Mathlib.Data.List.Forall2
import Mathlib.Data.List.Induction
import Mathlib.Data.List.Nodup

/-! Snapshots of a registry. A snapshot is known by the log of writes that led to it: an issuer has the key set
of its last write, and its place is that of the write that brought it in. What is asked of one snapshot gives
another or nothing, and the snapshots there are stay as they were. -/

namespace Credential

/-- The octets that are meant, in whichever form they are given. -/
def Argument.octets? : Argument → Option Bytes
  | .text value => value.encode.toOption
  | .bytes value => some value
  | .buffer value => some value
  | .issuer value => some value.bytes
  | .other _ => none

/-- The name an issuer goes by in a registry, if what is given can be one. -/
def Argument.name? (given : Argument) : Option Bytes :=
  given.octets?.filter fun octets => 0 < octets.length ∧ octets.length ≤ 256

theorem Argument.name?_some_iff {given : Argument} {name : Bytes} :
    given.name? = some name ↔ given.octets? = some name ∧ 0 < name.length ∧ name.length ≤ 256 := by
  simp only [name?, Option.filter_eq_some_iff, decide_eq_true_eq]

namespace Issuer

theorem eq_iff {first second : Issuer} : first = second ↔ first.bytes = second.bytes := by
  cases first
  cases second
  rw [mk.injEq]

theorem ofBytes_ok_iff {bytes : Bytes} {issuer : Issuer} : ofBytes bytes = .ok issuer ↔ bytes = issuer.bytes := by
  unfold ofBytes
  split
  next empty =>
    simp only [reduceCtorEq, false_iff]
    rintro rfl
    exact issuer.nonempty empty
  next => rw [Except.ok.injEq, eq_iff]

theorem ofAnyForm_ok_iff {given : Argument} {issuer : Issuer} :
    ofAnyForm given = .ok issuer ↔ given.octets? = some issuer.bytes := by
  cases given with
  | text value =>
    rw [ofAnyForm, Argument.octets?]
    cases value.encode with
    | error cause => simp only [Result.mapError_error, Bind.bind, Except.bind, Except.toOption, reduceCtorEq]
    | ok octets => exact ofBytes_ok_iff.trans Option.some_inj.symm
  | bytes value => rw [ofAnyForm, Argument.octets?, ofBytes_ok_iff, Option.some.injEq]
  | buffer value => rw [ofAnyForm, Argument.octets?, ofBytes_ok_iff, Option.some.injEq]
  | issuer value => rw [ofAnyForm, Argument.octets?, Except.ok.injEq, Option.some.injEq, eq_iff]
  | other kind => simp only [ofAnyForm, Argument.octets?, reduceCtorEq]

end Issuer

theorem KeySet.get?_eq_none_iff {keySet : KeySet} {kid : Text} :
    keySet.get? kid = none ↔ keySet.enabled = false ∨ ∀ key ∈ keySet.keys, key.kid ≠ kid := by
  unfold get?
  cases keySet.enabled <;> simp

namespace Registry

theorem nameOf_ok_iff {given : Argument} {name : Bytes} : nameOf given = .ok name ↔ given.name? = some name := by
  rw [Argument.name?_some_iff]
  constructor
  · intro named
    obtain ⟨issuer, parsed, same⟩ := Result.bind_ok_iff.1 named
    cases same
    obtain ⟨form, short⟩ := Issuer.parse_ok_iff.1 parsed
    exact ⟨Issuer.ofAnyForm_ok_iff.1 form, List.length_pos_iff.2 issuer.nonempty, Int.ofNat_le.1 short⟩
  · intro parts
    obtain ⟨octets, filled, short⟩ := parts
    refine Result.bind_ok_iff.2 ⟨⟨name, List.length_pos_iff.1 filled⟩, Issuer.parse_ok_iff.2 ⟨?_, ?_⟩, rfl⟩
    · exact Issuer.ofAnyForm_ok_iff.2 octets
    · exact Int.ofNat_le.2 short

theorem nameOf_error {given : Argument} (unnamed : given.name? = none) : ∃ cause, nameOf given = .error cause := by
  cases named : nameOf given with
  | error cause => exact ⟨cause, rfl⟩
  | ok name => cases unnamed.symm.trans (nameOf_ok_iff.1 named)

inductive Update where
  | put (given : Argument) (keySet : KeySet)
  | erase (given : Argument)

namespace Update

def issuer : Update → Argument
  | .put given _ => given
  | .erase given => given

def keySet? : Update → Option KeySet
  | .put _ keySet => some keySet
  | .erase _ => none

end Update

def apply (registry : Registry) : Update → Except Issuer.Fault Registry
  | .put given keySet => registry.withKeySet given keySet
  | .erase given => registry.withoutIssuer given

/-- One update after another, up to the first that cannot be done. -/
def applyAll (registry : Registry) (updates : List Update) : Except Issuer.Fault Registry := updates.foldlM apply registry

/-- What an update comes to under the name of its issuer. A removal writes no key set. -/
structure Write where
  name : Bytes
  keySet? : Option KeySet

def Update.write? (update : Update) : Option Write := update.issuer.name?.map fun name => ⟨name, update.keySet?⟩

def write (registry : Registry) (write : Write) : Registry :=
  match write.keySet? with
  | some keySet => ⟨Assoc.put write.name keySet registry.entries⟩
  | none => ⟨Assoc.erase write.name registry.entries⟩

theorem apply_of_write {update : Update} {written : Write} (writes : update.write? = some written)
    (registry : Registry) : registry.apply update = .ok (registry.write written) := by
  obtain ⟨name, named, rfl⟩ := Option.map_eq_some_iff.1 writes
  cases update with
  | put given keySet => exact Result.bind_ok_iff.2 ⟨name, nameOf_ok_iff.2 named, rfl⟩
  | erase given => exact Result.bind_ok_iff.2 ⟨name, nameOf_ok_iff.2 named, rfl⟩

theorem apply_error {update : Update} (unnamed : update.issuer.name? = none) (registry : Registry) :
    ∃ cause, registry.apply update = .error cause := by
  obtain ⟨cause, fails⟩ := nameOf_error unnamed
  cases update with
  | put given keySet => exact ⟨cause, Result.bind_error_iff.2 (.inl fails)⟩
  | erase given => exact ⟨cause, Result.bind_error_iff.2 (.inl fails)⟩

theorem apply_ok_iff {update : Update} {registry updated : Registry} :
    registry.apply update = .ok updated ↔ ∃ written, update.write? = some written ∧ updated = registry.write written := by
  constructor
  · intro done
    cases writes : update.write? with
    | none =>
      obtain ⟨cause, fails⟩ := apply_error (Option.map_eq_none_iff.1 writes) registry
      cases fails.symm.trans done
    | some written => exact ⟨written, rfl, Except.ok.inj (done.symm.trans (apply_of_write writes registry))⟩
  · intro parts
    obtain ⟨written, writes, rfl⟩ := parts
    exact apply_of_write writes registry

theorem applyAll_of_writes {updates : List Update} {log : List Write} (named : updates.mapM Update.write? = some log)
    (registry : Registry) : registry.applyAll updates = .ok (log.foldl write registry) := by
  induction updates generalizing registry log with
  | nil =>
    rw [List.mapM_nil] at named
    cases named
    rfl
  | cons update rest ih =>
    rw [List.mapM_cons] at named
    obtain ⟨written, writes, named⟩ := Option.bind_eq_some_iff.1 named
    obtain ⟨later, rests, same⟩ := Option.bind_eq_some_iff.1 named
    cases same
    rw [applyAll, List.foldlM_cons, apply_of_write writes]
    exact ih rests (registry.write written)

theorem applyAll_error {updates : List Update} (unnamed : updates.mapM Update.write? = none) (registry : Registry) :
    ∃ cause, registry.applyAll updates = .error cause := by
  induction updates generalizing registry with
  | nil =>
    rw [List.mapM_nil] at unnamed
    cases unnamed
  | cons update rest ih =>
    rw [List.mapM_cons] at unnamed
    rw [applyAll, List.foldlM_cons]
    cases writes : update.write? with
    | none =>
      obtain ⟨cause, fails⟩ := apply_error (Option.map_eq_none_iff.1 writes) registry
      exact ⟨cause, Result.bind_error_iff.2 (.inl fails)⟩
    | some written =>
      have rests : rest.mapM Update.write? = none := by
        rw [writes] at unnamed
        cases later : rest.mapM Update.write? with
        | none => rfl
        | some log =>
          rw [later] at unnamed
          cases unnamed
      rw [apply_of_write writes]
      exact ih rests (registry.write written)

/-- The key set of the last write under a name, unless that is a removal. -/
def current? (log : List Write) (name : Bytes) : Option KeySet :=
  (log.filter (·.name = name)).getLast?.bind Write.keySet?

theorem current?_append (log : List Write) (written : Write) (name : Bytes) :
    current? (log ++ [written]) name = if written.name = name then written.keySet? else current? log name := by
  by_cases named : written.name = name <;> simp [current?, List.filter_append, named]

theorem keySetAt?_write (registry : Registry) (written : Write) (name : Bytes) :
    (registry.write written).keySetAt? name = if written.name = name then written.keySet? else registry.keySetAt? name := by
  unfold write
  cases written.keySet? with
  | some keySet => exact Assoc.get?_put written.name name keySet registry.entries
  | none => exact Assoc.get?_erase written.name name registry.entries

/-- The write by which an issuer has its place: it was not there before, and was not removed since. -/
structure Placed (log : List Write) (name : Bytes) (moment : Nat) : Prop where
  written : ∃ keySet, log[moment]? = some ⟨name, some keySet⟩
  absent : current? (log.take moment) name = none
  stays : ∀ later, moment < later → log[later]? ≠ some ⟨name, none⟩

namespace Placed

variable {log : List Write} {name : Bytes} {moment : Nat}

theorem inside (placed : Placed log name moment) : moment < log.length := by
  obtain ⟨keySet, found⟩ := placed.written
  exact (List.getElem?_eq_some_iff.1 found).1

theorem append (placed : Placed log name moment) {written : Write} (kept : written ≠ ⟨name, none⟩) :
    Placed (log ++ [written]) name moment := by
  have inside := placed.inside
  refine ⟨?_, ?_, ?_⟩
  · rw [List.getElem?_append_left inside]
    exact placed.written
  · rw [List.take_append_of_le_length (Nat.le_of_lt inside)]
    exact placed.absent
  · intro later after found
    rcases Nat.lt_trichotomy later log.length with earlier | rfl | beyond
    · rw [List.getElem?_append_left earlier] at found
      exact placed.stays later after found
    · rw [List.getElem?_concat_length] at found
      exact kept (Option.some.inj found)
    · have short : (log ++ [written]).length ≤ later := by
        rw [List.length_append, List.length_singleton]
        exact beyond
      rw [List.getElem?_eq_none short] at found
      cases found

theorem fresh (absent : current? log name = none) (keySet : KeySet) :
    Placed (log ++ [⟨name, some keySet⟩]) name log.length := by
  refine ⟨⟨keySet, List.getElem?_concat_length⟩, ?_, ?_⟩
  · rw [List.take_left]
    exact absent
  · intro later after found
    have short : (log ++ [(⟨name, some keySet⟩ : Write)]).length ≤ later := by
      rw [List.length_append, List.length_singleton]
      exact after
    rw [List.getElem?_eq_none short] at found
    cases found

end Placed

/-- The first of two issuers was there before the second came in. -/
def Precedes (log : List Write) (first second : Bytes) : Prop :=
  ∃ earlier later, Placed log first earlier ∧ Placed log second later ∧ earlier < later

theorem Precedes.append {log : List Write} {first second : Bytes} {written : Write} (precedes : Precedes log first second)
    (keptFirst : written ≠ ⟨first, none⟩) (keptSecond : written ≠ ⟨second, none⟩) :
    Precedes (log ++ [written]) first second := by
  obtain ⟨earlier, later, placed, placedLater, before⟩ := precedes
  exact ⟨earlier, later, placed.append keptFirst, placedLater.append keptSecond, before⟩

/-- What every write keeps: a snapshot has the names and the key sets that its log left, in order. -/
structure Reflects (registry : Registry) (log : List Write) : Prop where
  current : ∀ name, registry.keySetAt? name = current? log name
  distinct : registry.issuers.Nodup
  sized : ∀ name ∈ registry.issuers, 1 ≤ name.length ∧ name.length ≤ 256
  placed : ∀ name ∈ registry.issuers, ∃ moment, Placed log name moment
  ordered : registry.issuers.Pairwise (Precedes log)

namespace Reflects

variable {registry : Registry} {log : List Write}

theorem empty : Reflects ⟨[]⟩ [] :=
  ⟨fun _ => rfl, List.nodup_nil, nofun, nofun, .nil⟩

theorem mem_issuers_iff (reflects : Reflects registry log) (name : Bytes) :
    name ∈ registry.issuers ↔ (current? log name).isSome := by
  rw [← reflects.current]
  exact Assoc.mem_names_iff

theorem current_write (reflects : Reflects registry log) (written : Write) (name : Bytes) :
    (registry.write written).keySetAt? name = current? (log ++ [written]) name := by
  rw [keySetAt?_write, current?_append, reflects.current]

private theorem replace (reflects : Reflects registry log) {name : Bytes} (keySet : KeySet)
    (known : name ∈ registry.issuers) : Reflects (registry.write ⟨name, some keySet⟩) (log ++ [⟨name, some keySet⟩]) := by
  have same : (registry.write ⟨name, some keySet⟩).issuers = registry.issuers :=
    (Assoc.names_put name keySet registry.entries).trans (if_pos known)
  have kept : ∀ other, (⟨name, some keySet⟩ : Write) ≠ ⟨other, none⟩ := by
    intro other impossible
    cases impossible
  refine ⟨reflects.current_write _, ?_, ?_, ?_, ?_⟩
  · rw [same]
    exact reflects.distinct
  · rw [same]
    exact reflects.sized
  · rw [same]
    intro other member
    obtain ⟨moment, placed⟩ := reflects.placed other member
    exact ⟨moment, placed.append (kept other)⟩
  · rw [same]
    exact reflects.ordered.imp fun precedes => precedes.append (kept _) (kept _)

private theorem insert (reflects : Reflects registry log) {name : Bytes} (keySet : KeySet)
    (unknown : name ∉ registry.issuers) (filled : 1 ≤ name.length) (short : name.length ≤ 256) :
    Reflects (registry.write ⟨name, some keySet⟩) (log ++ [⟨name, some keySet⟩]) := by
  have longer : (registry.write ⟨name, some keySet⟩).issuers = registry.issuers ++ [name] :=
    (Assoc.names_put name keySet registry.entries).trans (if_neg unknown)
  have kept : ∀ other, (⟨name, some keySet⟩ : Write) ≠ ⟨other, none⟩ := by
    intro other impossible
    cases impossible
  have absent : current? log name = none := by
    rw [reflects.mem_issuers_iff, Option.not_isSome_iff_eq_none] at unknown
    exact unknown
  have fresh := Placed.fresh absent keySet
  refine ⟨reflects.current_write _, ?_, ?_, ?_, ?_⟩
  · rw [longer, ← List.concat_eq_append, List.nodup_concat]
    exact ⟨unknown, reflects.distinct⟩
  · rw [longer]
    intro other member
    rcases List.mem_append.1 member with old | new
    · exact reflects.sized other old
    · cases List.mem_singleton.1 new
      exact ⟨filled, short⟩
  · rw [longer]
    intro other member
    rcases List.mem_append.1 member with old | new
    · obtain ⟨moment, placed⟩ := reflects.placed other old
      exact ⟨moment, placed.append (kept other)⟩
    · cases List.mem_singleton.1 new
      exact ⟨log.length, fresh⟩
  · rw [longer, List.pairwise_append]
    refine ⟨reflects.ordered.imp fun precedes => precedes.append (kept _) (kept _), List.pairwise_singleton _ _, ?_⟩
    intro other old last new
    cases List.mem_singleton.1 new
    obtain ⟨moment, placed⟩ := reflects.placed other old
    exact ⟨moment, log.length, placed.append (kept other), fresh, placed.inside⟩

private theorem remove (reflects : Reflects registry log) (name : Bytes) :
    Reflects (registry.write ⟨name, none⟩) (log ++ [⟨name, none⟩]) := by
  have fewer : (registry.write ⟨name, none⟩).issuers = registry.issuers.filter (· ≠ name) :=
    Assoc.names_erase name registry.entries
  have kept : ∀ other, other ≠ name → (⟨name, none⟩ : Write) ≠ ⟨other, none⟩ := by
    rintro other others ⟨⟩
    exact others rfl
  have left : ∀ other ∈ registry.issuers.filter (· ≠ name), other ∈ registry.issuers ∧ other ≠ name := by
    intro other member
    obtain ⟨old, others⟩ := List.mem_filter.1 member
    exact ⟨old, of_decide_eq_true others⟩
  refine ⟨reflects.current_write _, ?_, ?_, ?_, ?_⟩
  · rw [fewer]
    exact reflects.distinct.filter _
  · rw [fewer]
    intro other member
    exact reflects.sized other (left other member).1
  · rw [fewer]
    intro other member
    obtain ⟨old, others⟩ := left other member
    obtain ⟨moment, placed⟩ := reflects.placed other old
    exact ⟨moment, placed.append (kept other others)⟩
  · rw [fewer]
    refine (reflects.ordered.filter _).imp_of_mem ?_
    intro first second member memberToo precedes
    exact precedes.append (kept first (left first member).2) (kept second (left second memberToo).2)

theorem write (reflects : Reflects registry log) {update : Update} {written : Write}
    (writes : update.write? = some written) : Reflects (registry.write written) (log ++ [written]) := by
  obtain ⟨name, named, rfl⟩ := Option.map_eq_some_iff.1 writes
  obtain ⟨-, filled, short⟩ := Argument.name?_some_iff.1 named
  cases update with
  | put given keySet =>
    by_cases known : name ∈ registry.issuers
    · exact reflects.replace keySet known
    · exact reflects.insert keySet known filled short
  | erase given => exact reflects.remove name

theorem writes (reflects : Reflects registry log) {updates : List Update} {more : List Write}
    (named : updates.mapM Update.write? = some more) : Reflects (more.foldl Registry.write registry) (log ++ more) := by
  induction updates generalizing registry log more with
  | nil =>
    rw [List.mapM_nil] at named
    cases named
    rw [List.append_nil]
    exact reflects
  | cons update rest ih =>
    rw [List.mapM_cons] at named
    obtain ⟨first, writes, named⟩ := Option.bind_eq_some_iff.1 named
    obtain ⟨later, rests, same⟩ := Option.bind_eq_some_iff.1 named
    cases same
    rw [List.append_cons]
    exact ih (reflects.write writes) rests

end Reflects

/-- All that a snapshot answers, from the log of the writes that led to it. -/
structure Refines (registry : Registry) (log : List Write) : Prop extends Reflects registry log where
  listed : ∀ name, name ∈ registry.issuers ↔ (current? log name).isSome
  resolves : ∀ name kid key, registry.resolve name kid = some key ↔ ∃ keySet,
    current? log name = some keySet ∧ keySet.enabled = true ∧ keySet.keys.find? (·.kid = kid) = some key
  answers : ∀ given name, given.name? = some name →
    registry.keySet? given = .ok (current? log name) ∧ (registry.contains given = true ↔ name ∈ registry.issuers)
  refuses : ∀ given, given.name? = none → registry.contains given = false ∧
    (∃ cause, registry.keySet? given = .error cause) ∧
    ∀ update : Update, update.issuer = given → ∃ cause, registry.apply update = .error cause

theorem Reflects.refines {registry : Registry} {log : List Write} (reflects : Reflects registry log) :
    Refines registry log where
  toReflects := reflects
  listed := reflects.mem_issuers_iff
  resolves := by
    intro name kid key
    rw [resolve, reflects.current, Option.bind_eq_some_iff]
    refine exists_congr fun keySet => and_congr_right fun _ => ?_
    unfold KeySet.get?
    cases keySet.enabled <;> simp
  answers := by
    intro given name named
    have found := nameOf_ok_iff.2 named
    refine ⟨Result.bind_ok_iff.2 ⟨name, found, by rw [reflects.current]⟩, ?_⟩
    simp only [contains, found, reflects.mem_issuers_iff, reflects.current]
  refuses := by
    intro given unnamed
    obtain ⟨cause, fails⟩ := nameOf_error unnamed
    refine ⟨?_, ⟨cause, Result.bind_error_iff.2 (.inl fails)⟩, ?_⟩
    · rw [contains, fails]
    · intro update same
      exact apply_error (same ▸ unnamed) registry

def puts (pairs : List (Argument × KeySet)) : List Update := pairs.map fun pair => .put pair.1 pair.2

/-- A registry of given pairs is made by putting in one after another. -/
theorem ofPairs_eq (pairs : List (Argument × KeySet)) : ofPairs pairs = applyAll ⟨[]⟩ (puts pairs) := by
  have general : ∀ entries : Assoc Bytes KeySet, (do
      let named ← pairs.mapM fun pair => do .ok (← nameOf pair.1, pair.2)
      .ok ⟨named.foldl (fun entries pair => Assoc.put pair.1 pair.2 entries) entries⟩ : Except Issuer.Fault Registry) =
        applyAll ⟨entries⟩ (puts pairs) := by
    induction pairs with
    | nil => exact fun _ => rfl
    | cons pair rest ih =>
      intro entries
      obtain ⟨given, keySet⟩ := pair
      rw [List.mapM_cons, puts, List.map_cons, applyAll, List.foldlM_cons]
      cases named : nameOf given with
      | error cause =>
        have fails : apply ⟨entries⟩ (.put given keySet) = .error cause := Result.bind_error_iff.2 (.inl named)
        simp only [fails]
        rfl
      | ok name =>
        have done : apply ⟨entries⟩ (.put given keySet) = .ok ⟨Assoc.put name keySet entries⟩ :=
          Result.bind_ok_iff.2 ⟨name, named, rfl⟩
        have later := ih (Assoc.put name keySet entries)
        simp only [done]
        refine Eq.trans ?_ later
        generalize (rest.mapM fun pair => do .ok (← nameOf pair.1, pair.2)) = others
        cases others <;> rfl
  exact general []

/-- An update asked of one of the snapshots made so far. -/
structure Demand where
  base : Nat
  update : Update

/-- What can be done gives one more snapshot. -/
def advance (snapshots : List Registry) (demand : Demand) : List Registry :=
  match snapshots[demand.base]? with
  | none => snapshots
  | some registry =>
    match registry.apply demand.update with
    | .ok next => snapshots ++ [next]
    | .error _ => snapshots

/-- The log of a snapshot is that of its base and one write more. -/
def record (logs : List (List Write)) (demand : Demand) : List (List Write) :=
  match logs[demand.base]?, demand.update.write? with
  | some log, some written => logs ++ [log ++ [written]]
  | _, _ => logs

theorem prefix_advance (snapshots : List Registry) (demand : Demand) : snapshots <+: advance snapshots demand := by
  unfold advance
  split
  · exact List.prefix_rfl
  · split
    · exact List.prefix_append _ _
    · exact List.prefix_rfl

theorem prefix_foldl_advance (snapshots : List Registry) (demands : List Demand) :
    snapshots <+: demands.foldl advance snapshots := by
  induction demands generalizing snapshots with
  | nil => exact List.prefix_rfl
  | cons demand rest ih => exact (prefix_advance snapshots demand).trans (ih (advance snapshots demand))

private theorem getElem?_related {first : List Registry} {second : List (List Write)}
    (related : List.Forall₂ Reflects first second) (index : Nat) :
    (first[index]? = none ∧ second[index]? = none) ∨
      ∃ registry log, first[index]? = some registry ∧ second[index]? = some log ∧ Reflects registry log := by
  induction related generalizing index with
  | nil => exact .inl ⟨rfl, rfl⟩
  | @cons registry log _ _ reflects _ ih =>
    cases index with
    | zero => exact .inr ⟨registry, log, rfl, rfl, reflects⟩
    | succ index => exact ih index

theorem reflects_advance {snapshots : List Registry} {logs : List (List Write)}
    (related : List.Forall₂ Reflects snapshots logs) (demand : Demand) :
    List.Forall₂ Reflects (advance snapshots demand) (record logs demand) := by
  unfold advance record
  rcases getElem?_related related demand.base with ⟨missing, missingToo⟩ | ⟨registry, log, found, foundToo, reflects⟩
  · simp only [missing, missingToo]
    exact related
  · cases writes : demand.update.write? with
    | none =>
      obtain ⟨cause, fails⟩ := apply_error (Option.map_eq_none_iff.1 writes) registry
      simp only [found, foundToo, fails]
      exact related
    | some written =>
      simp only [found, foundToo, apply_of_write writes]
      exact List.rel_append related (.cons (reflects.write writes) .nil)

theorem reflects_foldl {snapshots : List Registry} {logs : List (List Write)}
    (related : List.Forall₂ Reflects snapshots logs) (demands : List Demand) :
    List.Forall₂ Reflects (demands.foldl advance snapshots) (demands.foldl record logs) := by
  induction demands generalizing snapshots logs with
  | nil => exact related
  | cons demand rest ih => exact ih (reflects_advance related demand)

/-- Whatever is asked of whichever snapshots, each answers from the log of the writes that led to it, and what was
made first is still there, unchanged. A registry is not made at all of pairs of which one cannot be named. -/
theorem snapshots_refine (pairs : List (Argument × KeySet)) (demands : List Demand) :
    match (puts pairs).mapM Update.write? with
    | none => ∃ cause, ofPairs pairs = .error cause
    | some log => ∃ registry, ofPairs pairs = .ok registry ∧
        List.Forall₂ Refines (demands.foldl advance [registry]) (demands.foldl record [log]) ∧
        ∀ count, (demands.take count).foldl advance [registry] <+: demands.foldl advance [registry] := by
  cases named : (puts pairs).mapM Update.write? with
  | none =>
    obtain ⟨cause, fails⟩ := applyAll_error named ⟨[]⟩
    exact ⟨cause, (ofPairs_eq pairs).trans fails⟩
  | some log =>
    have made : ofPairs pairs = .ok (log.foldl write ⟨[]⟩) := (ofPairs_eq pairs).trans (applyAll_of_writes named ⟨[]⟩)
    have first : Reflects (log.foldl write ⟨[]⟩) log := Reflects.empty.writes named
    refine ⟨_, made, ?_, ?_⟩
    · exact (reflects_foldl (.cons first .nil) demands).imp fun _ _ reflects => reflects.refines
    · intro count
      have whole : demands.foldl advance [log.foldl write ⟨[]⟩] = (demands.drop count).foldl advance
          ((demands.take count).foldl advance [log.foldl write ⟨[]⟩]) := by
        rw [← List.foldl_append, List.take_append_drop]
      rw [whole]
      exact prefix_foldl_advance _ _

example : (do
    let registry ← applyAll ⟨[]⟩ [.put (.text "a") ⟨[], true⟩, .put (.text "b") ⟨[], true⟩, .put (.text "c") ⟨[], true⟩,
      .erase (.bytes [0x61]), .put (.buffer [0x62]) ⟨[], false⟩, .put (.text "a") ⟨[], true⟩]
    .ok registry.issuers : Except Issuer.Fault (List Bytes)) = .ok [[0x62], [0x63], [0x61]] := rfl

end Registry

end Credential
