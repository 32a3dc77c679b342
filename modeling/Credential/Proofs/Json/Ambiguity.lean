import Credential.Proofs.Json.Grammar

/-! Texts of one meaning. A strict reader gives a tree where a reader that takes every text does, unless the text
names a member of an object twice, a number that is not finite, or half of a surrogate pair. Readers that differ in
which of two members of one name they keep therefore see one document in whatever a strict reader accepts. -/

namespace Credential

namespace Assoc

variable {κ : Type u} {ν : Type v} [DecidableEq κ]

def firsts : List (κ × ν) → Assoc κ ν
  | [] => []
  | (name, value) :: rest => (name, value) :: erase name (firsts rest)

theorem put_fresh {key : κ} {entries : Assoc κ ν} (fresh : key ∉ names entries) (value : ν) :
    put key value entries = entries ++ [(key, value)] := by
  induction entries with
  | nil => rfl
  | cons entry rest ih =>
    obtain ⟨name, old⟩ := entry
    rw [names, List.map_cons, List.mem_cons, not_or] at fresh
    rw [put, if_neg (Ne.symm fresh.1), ih fresh.2]
    rfl

theorem foldl_put_distinct {members : List (κ × ν)} {kept : Assoc κ ν} (distinct : (names (kept ++ members)).Nodup) :
    members.foldl (fun entries pair => put pair.1 pair.2 entries) kept = kept ++ members := by
  induction members generalizing kept with
  | nil => exact (List.append_nil kept).symm
  | cons member rest ih =>
    have moved : kept ++ member :: rest = (kept ++ [member]) ++ rest := by
      rw [List.append_assoc]
      rfl
    rw [moved] at distinct ⊢
    have fresh : member.1 ∉ names kept := by
      intro again
      rw [names, List.map_append, List.map_append] at distinct
      have apart := (List.nodup_append.1 (List.nodup_append.1 distinct).1).2.2
      exact apart member.1 again member.1 (List.mem_singleton_self _) rfl
    rw [List.foldl_cons, put_fresh fresh, ih distinct]

theorem ofList_distinct {members : List (κ × ν)} (distinct : (names members).Nodup) : ofList members = members :=
  @foldl_put_distinct _ _ _ members [] distinct

theorem erase_absent {key : κ} {entries : Assoc κ ν} (absent : key ∉ names entries) : erase key entries = entries := by
  apply List.filter_eq_self.2
  intro entry member
  apply decide_eq_true
  rintro rfl
  exact absent (List.mem_map_of_mem member)

theorem firsts_distinct {members : List (κ × ν)} (distinct : (names members).Nodup) : firsts members = members := by
  induction members with
  | nil => rfl
  | cons member rest ih =>
    obtain ⟨name, value⟩ := member
    rw [names, List.map_cons, List.nodup_cons] at distinct
    rw [firsts, ih distinct.2, erase_absent distinct.1]

end Assoc

namespace Json

section Collapse

/-- Refuses no text. Of the members of an object it keeps what it chooses. -/
def Reading.lenient (choose : List (Text × Json Text) → List (Text × Json Text)) : Reading where
  object members := .ok (choose members)
  constant name := .ok name.value

def Reading.earliest : Reading := .lenient Assoc.firsts

theorem plain_eq : Reading.plain = .lenient Assoc.ofList := rfl

variable (choose : List (Text × Json Text) → List (Text × Json Text))

mutual

/-- What is left of a tree where only the chosen members count. -/
def collapse : Json Text → Json Text
  | .null => .null
  | .bool value => .bool value
  | .int value => .int value
  | .real value => .real value
  | .string value => .string value
  | .array items => .array (collapseItems items)
  | .object members => .object (choose (collapseMembers members))

def collapseItems : List (Json Text) → List (Json Text)
  | [] => []
  | item :: rest => collapse item :: collapseItems rest

def collapseMembers : List (Text × Json Text) → List (Text × Json Text)
  | [] => []
  | (name, value) :: rest => (name, collapse value) :: collapseMembers rest

end

theorem collapseItems_eq (items : List (Json Text)) : collapseItems choose items = items.map (collapse choose) := by
  induction items with
  | nil => rfl
  | cons item rest ih => rw [collapseItems, List.map_cons, ih]

theorem collapseMembers_eq (members : List (Text × Json Text)) :
    collapseMembers choose members = members.map fun member => (member.1, collapse choose member.2) := by
  induction members with
  | nil => rfl
  | cons member rest ih => rw [collapseMembers, List.map_cons, ih]

theorem collapseItems_reverse (items : List (Json Text)) :
    collapseItems choose items.reverse = (collapseItems choose items).reverse := by
  rw [collapseItems_eq, collapseItems_eq, List.map_reverse]

theorem collapseMembers_reverse (members : List (Text × Json Text)) :
    collapseMembers choose members.reverse = (collapseMembers choose members).reverse := by
  rw [collapseMembers_eq, collapseMembers_eq, List.map_reverse]

def Frame.collapse : Frame → Frame
  | .array items => .array (collapseItems choose items)
  | .member members name => .member (collapseMembers choose members) name

abbrev collapseOuter (outer : List Frame) : List Frame := outer.map (Frame.collapse choose)

def State.collapse : State → State
  | .value outer => .value (collapseOuter choose outer)
  | .arrayStart outer => .arrayStart (collapseOuter choose outer)
  | .afterItem items outer => .afterItem (collapseItems choose items) (collapseOuter choose outer)
  | .objectStart outer => .objectStart (collapseOuter choose outer)
  | .memberName members outer => .memberName (collapseMembers choose members) (collapseOuter choose outer)
  | .afterName members name outer => .afterName (collapseMembers choose members) name (collapseOuter choose outer)
  | .afterMember members outer => .afterMember (collapseMembers choose members) (collapseOuter choose outer)
  | .done whole => .done (whole.collapse choose)

theorem deliver_collapse (value : Json Text) (outer : List Frame) :
    deliver (value.collapse choose) (collapseOuter choose outer) = (deliver value outer).collapse choose := by
  cases outer with
  | nil => rfl
  | cons frame outer => cases frame <;> rfl

private theorem delivered_collapse (value : Json Text) (outer : List Frame) :
    (Except.ok (deliver (value.collapse choose) (collapseOuter choose outer)) : Except Fault State) =
      (Except.ok (deliver value outer)).map (State.collapse choose) :=
  congrArg Except.ok (deliver_collapse choose value outer)

theorem beginValue_collapse (outer : List Frame) (lexeme : Lexeme Text) :
    beginValue (.lenient choose) (collapseOuter choose outer) lexeme =
      (beginValue .verbatim outer lexeme).map (State.collapse choose) := by
  cases lexeme with
  | null => exact delivered_collapse choose .null outer
  | bool value => exact delivered_collapse choose (.bool value) outer
  | int value => exact delivered_collapse choose (.int value) outer
  | real value => exact delivered_collapse choose (.real value) outer
  | string value => exact delivered_collapse choose (.string value) outer
  | constant name => exact delivered_collapse choose (.real name.value) outer
  | _ => rfl

theorem closeObject_collapse (members : List (Text × Json Text)) (outer : List Frame) :
    closeObject (.lenient choose) (collapseMembers choose members) (collapseOuter choose outer) =
      (closeObject .verbatim members outer).map (State.collapse choose) := by
  have delivered := delivered_collapse choose (.object members.reverse) outer
  rw [collapse, collapseMembers_reverse] at delivered
  exact delivered

/-- Step by step a reader that chooses keeps what is left of all that there is. -/
theorem step_collapse (state : State) (lexeme : Lexeme Text) :
    step (.lenient choose) (state.collapse choose) lexeme =
      (step .verbatim state lexeme).map (State.collapse choose) := by
  cases state with
  | value outer => exact beginValue_collapse choose outer lexeme
  | arrayStart outer =>
    have begins := beginValue_collapse choose (.array [] :: outer) lexeme
    cases lexeme with
    | closeArray => exact delivered_collapse choose (.array []) outer
    | _ => exact begins
  | afterItem items outer =>
    have delivered := delivered_collapse choose (.array items.reverse) outer
    rw [collapse, collapseItems_reverse] at delivered
    cases lexeme with
    | closeArray => exact delivered
    | _ => rfl
  | objectStart outer =>
    cases lexeme with
    | closeObject => exact closeObject_collapse choose [] outer
    | _ => rfl
  | afterMember members outer =>
    cases lexeme with
    | closeObject => exact closeObject_collapse choose members outer
    | _ => rfl
  | _ => cases lexeme <;> rfl

theorem foldlM_collapse (lexemes : List (Lexeme Text)) (state : State) :
    lexemes.foldlM (step (.lenient choose)) (state.collapse choose) =
      (lexemes.foldlM (step .verbatim) state).map (State.collapse choose) := by
  induction lexemes generalizing state with
  | nil => rfl
  | cons lexeme rest ih =>
    rw [List.foldlM_cons, List.foldlM_cons, step_collapse]
    cases step .verbatim state lexeme with
    | error fault => rfl
    | ok next => exact ih next

/-- No text is read by one such reader and not by another, and what they make of a text they make of one tree. -/
theorem read_lenient (source : Text) :
    read (.lenient choose) source = (read .verbatim source).map (collapse choose) := by
  have folded := foldlM_collapse choose (Lexeme.ofText source) (.value [])
  rw [read, readLexemes, read, readLexemes]
  change (List.foldlM (step (.lenient choose)) (State.collapse choose (.value [])) _ >>= finish) = _
  rw [folded]
  cases (Lexeme.ofText source).foldlM (step .verbatim) (.value []) with
  | error fault => rfl
  | ok state => cases state <;> rfl

end Collapse

/-- No object at any depth has two members of one name. -/
def Distinct (tree : Json Text) : Prop :=
  ∀ members, Within (.object members) tree → (Assoc.names members).Nodup

section Distinctness

theorem distinct_array {items : List (Json Text)} :
    Distinct (.array items) ↔ ∀ item ∈ items, item.Distinct := by
  constructor
  · intro distinct item among members deeper
    exact distinct members (.item among deeper)
  · intro distinct members deep
    cases deep with
    | item among deeper => exact distinct _ among members deeper

theorem distinct_object {members : List (Text × Json Text)} :
    Distinct (.object members) ↔ (Assoc.names members).Nodup ∧ ∀ member ∈ members, member.2.Distinct := by
  constructor
  · intro distinct
    exact ⟨distinct members .here, fun member among inner deeper => distinct inner (.member among deeper)⟩
  · intro parts inner deep
    obtain ⟨here, below⟩ := parts
    cases deep with
    | here => exact here
    | member among deeper => exact below _ among inner deeper

theorem distinct_atom {lexeme : Lexeme Text} {value : Json Text} (stands : lexeme.atom? = some value) :
    value.Distinct := by
  intro members deep
  cases lexeme <;> cases stands <;> cases deep

def KeepsDistinct (choose : List (Text × Json Text) → List (Text × Json Text)) : Prop :=
  ∀ members, (Assoc.names members).Nodup → choose members = members

variable {choose : List (Text × Json Text) → List (Text × Json Text)}

mutual

theorem collapse_distinct (keeps : KeepsDistinct choose) :
    ∀ {tree : Json Text}, tree.Distinct → tree.collapse choose = tree
  | .null, _ => rfl
  | .bool _, _ => rfl
  | .int _, _ => rfl
  | .real _, _ => rfl
  | .string _, _ => rfl
  | .array items, distinct => by
    rw [collapse, collapseItems_distinct keeps (distinct_array.1 distinct)]
  | .object members, distinct => by
    obtain ⟨here, below⟩ := distinct_object.1 distinct
    rw [collapse, collapseMembers_distinct keeps below, keeps members here]

theorem collapseItems_distinct (keeps : KeepsDistinct choose) : ∀ {items : List (Json Text)}, (∀ item ∈ items, item.Distinct) →
    collapseItems choose items = items
  | [], _ => rfl
  | item :: rest, distinct => by
    have first := collapse_distinct keeps (distinct item List.mem_cons_self)
    have later := collapseItems_distinct keeps fun item among => distinct item (List.mem_cons_of_mem _ among)
    rw [collapseItems, first, later]

theorem collapseMembers_distinct (keeps : KeepsDistinct choose) :
    ∀ {members : List (Text × Json Text)}, (∀ member ∈ members, member.2.Distinct) → collapseMembers choose members = members
  | [], _ => rfl
  | (name, value) :: rest, distinct => by
    have first := collapse_distinct keeps (distinct (name, value) List.mem_cons_self)
    have later := collapseMembers_distinct keeps fun member among => distinct member (List.mem_cons_of_mem _ among)
    rw [collapseMembers, first, later]

end

end Distinctness

section Strictness

def Frame.values : Frame → List (Json Text)
  | .array items => items
  | .member members _ => members.map Prod.snd

def State.values : State → List (Json Text)
  | .value outer | .arrayStart outer | .objectStart outer => outer.flatMap Frame.values
  | .afterItem items outer => items ++ outer.flatMap Frame.values
  | .memberName members outer | .afterName members _ outer | .afterMember members outer =>
    members.map Prod.snd ++ outer.flatMap Frame.values
  | .done whole => [whole]

def State.Clean (state : State) : Prop := ∀ value ∈ state.values, value.Distinct

theorem values_deliver (value : Json Text) (outer : List Frame) :
    (deliver value outer).values = value :: outer.flatMap Frame.values := by
  cases outer with
  | nil => rfl
  | cons frame outer => cases frame <;> rfl

theorem clean_deliver {value : Json Text} {outer : List Frame} :
    (deliver value outer).Clean ↔ value.Distinct ∧ ∀ value ∈ outer.flatMap Frame.values, value.Distinct := by
  rw [State.Clean, values_deliver, List.forall_mem_cons]

/-- What a strict reader asks of a step. -/
structure Unambiguously (state : State) (lexeme : Lexeme Text) : Prop where
  finite : ∀ name, lexeme ≠ .constant name
  distinct : ∀ members outer, state = .afterMember members outer → lexeme = .closeObject →
    (Assoc.names members.reverse).Nodup

variable {state next : State} {lexeme : Lexeme Text}

theorem strict_object {members : List (Text × Json Text)} (distinct : (Assoc.names members).Nodup) :
    Reading.strict.object members = .ok members := by
  have single : Assoc.repeated? [] (Assoc.names members) = none :=
    Assoc.repeated?_eq_none_iff.2 ⟨distinct, fun _ _ => List.not_mem_nil⟩
  simp only [Reading.strict, single]

theorem strict_object_iff {members kept : List (Text × Json Text)} :
    Reading.strict.object members = .ok kept ↔ (Assoc.names members).Nodup ∧ kept = members := by
  constructor
  · intro closes
    unfold Reading.strict at closes
    dsimp only at closes
    split at closes
    · cases closes
    next single =>
      cases closes
      exact ⟨(Assoc.repeated?_eq_none_iff.1 single).1, rfl⟩
  · intro parts
    obtain ⟨distinct, rfl⟩ := parts
    exact strict_object distinct

theorem Begins.strict_iff {outer : List Frame} : Begins .strict outer lexeme next ↔
    Begins .verbatim outer lexeme next ∧ ∀ name, lexeme ≠ .constant name := by
  constructor
  · intro begins
    cases begins with
    | atom stands =>
      refine ⟨.atom stands, ?_⟩
      rintro name rfl
      cases stands
    | constant passes => cases passes
    | array => exact ⟨.array, by simp⟩
    | object => exact ⟨.object, by simp⟩
  · intro parts
    obtain ⟨begins, finite⟩ := parts
    cases begins with
    | atom stands => exact .atom stands
    | constant passes => exact absurd rfl (finite _)
    | array => exact .array
    | object => exact .object

theorem Moves.strict_iff : Moves .strict state lexeme next ↔
    Moves .verbatim state lexeme next ∧ Unambiguously state lexeme := by
  constructor
  · intro moves
    cases moves with
    | value begins =>
      obtain ⟨begins, finite⟩ := Begins.strict_iff.1 begins
      exact ⟨.value begins, finite, by simp⟩
    | firstItem begins =>
      obtain ⟨begins, finite⟩ := Begins.strict_iff.1 begins
      exact ⟨.firstItem begins, finite, by simp⟩
    | emptyObject closes =>
      obtain ⟨-, rfl⟩ := strict_object_iff.1 closes
      exact ⟨.emptyObject rfl, by simp, by simp⟩
    | @closeObject members outer _ closes =>
      obtain ⟨distinct, rfl⟩ := strict_object_iff.1 closes
      refine ⟨.closeObject rfl, by simp, ?_⟩
      rintro _ _ ⟨⟩ -
      exact distinct
    | _ => exact ⟨by constructor, by simp, by simp⟩
  · intro parts
    obtain ⟨moves, clear⟩ := parts
    cases moves with
    | value begins => exact .value (Begins.strict_iff.2 ⟨begins, clear.finite⟩)
    | firstItem begins => exact .firstItem (Begins.strict_iff.2 ⟨begins, clear.finite⟩)
    | emptyObject closes =>
      cases closes
      exact .emptyObject (strict_object List.nodup_nil)
    | @closeObject members outer _ closes =>
      cases closes
      exact .closeObject (strict_object (clear.distinct members outer rfl rfl))
    | _ => constructor

theorem Begins.clean_iff {outer : List Frame} (begins : Begins .verbatim outer lexeme next) :
    next.Clean ↔ ∀ value ∈ outer.flatMap Frame.values, value.Distinct := by
  cases begins with
  | atom stands => rw [clean_deliver, and_iff_right (distinct_atom stands)]
  | @constant _ value passes =>
    have single : Lexeme.atom? (.real value) = some (.real value) := rfl
    rw [clean_deliver, and_iff_right (distinct_atom single)]
  | array => rfl
  | object => rfl

/-- Only where an object is closed can a state become ambiguous, and none becomes clean again. -/
theorem Moves.clean_iff (moves : Moves .verbatim state lexeme next) (finite : ∀ name, lexeme ≠ .constant name) :
    next.Clean ↔ state.Clean ∧ Unambiguously state lexeme := by
  cases moves with
  | value begins =>
    rw [begins.clean_iff]
    exact (and_iff_left ⟨finite, by simp⟩).symm
  | firstItem begins =>
    rw [begins.clean_iff]
    exact (and_iff_left ⟨finite, by simp⟩).symm
  | emptyArray =>
    rw [clean_deliver, and_iff_right (distinct_array.2 fun _ impossible => by cases impossible)]
    exact (and_iff_left ⟨finite, by simp⟩).symm
  | closeArray =>
    rw [and_iff_left ⟨finite, by simp⟩, clean_deliver, distinct_array, State.Clean, State.values, List.forall_mem_append]
    simp only [List.mem_reverse]
  | emptyObject closes =>
    cases closes
    have empty : Distinct (.object []) := distinct_object.2 ⟨List.nodup_nil, fun _ impossible => by cases impossible⟩
    rw [clean_deliver, and_iff_right empty]
    exact (and_iff_left ⟨finite, by simp⟩).symm
  | @closeObject members outer _ closes =>
    cases closes
    have clear : Unambiguously (.afterMember members outer) .closeObject ↔ (Assoc.names members.reverse).Nodup :=
      ⟨fun clear => clear.distinct members outer rfl rfl, fun distinct => ⟨finite, by rintro _ _ ⟨⟩ -; exact distinct⟩⟩
    rw [clear, clean_deliver, distinct_object, State.Clean, State.values, List.forall_mem_append, List.forall_mem_map]
    simp only [List.mem_reverse]
    exact ⟨fun ⟨⟨distinct, inner⟩, rest⟩ => ⟨⟨inner, rest⟩, distinct⟩,
      fun ⟨⟨inner, rest⟩, distinct⟩ => ⟨⟨distinct, inner⟩, rest⟩⟩
  | _ => exact (and_iff_left ⟨finite, by simp⟩).symm

theorem step_strict_iff : step .strict state lexeme = .ok next ∧ state.Clean ↔
    step .verbatim state lexeme = .ok next ∧ next.Clean ∧ ∀ name, lexeme ≠ .constant name := by
  rw [step_ok_iff, step_ok_iff, Moves.strict_iff]
  constructor
  · intro parts
    obtain ⟨⟨moves, clear⟩, clean⟩ := parts
    exact ⟨moves, (moves.clean_iff clear.finite).2 ⟨clean, clear⟩, clear.finite⟩
  · intro parts
    obtain ⟨moves, clean, finite⟩ := parts
    obtain ⟨before, clear⟩ := (moves.clean_iff finite).1 clean
    exact ⟨⟨moves, clear⟩, before⟩

theorem foldlM_strict_iff {lexemes : List (Lexeme Text)} :
    lexemes.foldlM (step .strict) state = .ok next ∧ state.Clean ↔
      lexemes.foldlM (step .verbatim) state = .ok next ∧ next.Clean ∧ ∀ name, .constant name ∉ lexemes := by
  induction lexemes generalizing state with
  | nil =>
    constructor
    · intro parts
      obtain ⟨⟨⟩, clean⟩ := parts
      exact ⟨rfl, clean, fun _ => List.not_mem_nil⟩
    · intro parts
      obtain ⟨⟨⟩, clean, -⟩ := parts
      exact ⟨rfl, clean⟩
  | cons lexeme rest ih =>
    rw [List.foldlM_cons, List.foldlM_cons, Result.bind_ok_iff, Result.bind_ok_iff]
    constructor
    · intro parts
      obtain ⟨⟨middle, steps, reads⟩, clean⟩ := parts
      obtain ⟨keeps, between, finite⟩ := step_strict_iff.1 ⟨steps, clean⟩
      obtain ⟨kept, after, finiteToo⟩ := ih.1 ⟨reads, between⟩
      refine ⟨⟨middle, keeps, kept⟩, after, fun name among => ?_⟩
      rcases List.mem_cons.1 among with same | later
      · exact finite name same.symm
      · exact finiteToo name later
    · intro parts
      obtain ⟨⟨middle, keeps, kept⟩, after, finite⟩ := parts
      obtain ⟨reads, between⟩ := ih.2 ⟨kept, after, fun name later => finite name (List.mem_cons_of_mem _ later)⟩
      obtain ⟨steps, clean⟩ := step_strict_iff.2
        ⟨keeps, between, fun name same => finite name (same ▸ List.mem_cons_self)⟩
      exact ⟨⟨middle, steps, reads⟩, clean⟩

theorem read_strict_iff {source : Text} {tree : Json Text} : read .strict source = .ok tree ↔
    Says source tree ∧ tree.Distinct ∧ ∀ name, .constant name ∉ Lexeme.ofText source := by
  rw [← read_verbatim_iff]
  have start : (State.value []).Clean := fun _ impossible => by cases impossible
  have finished : (State.done tree).Clean ↔ tree.Distinct := by
    rw [State.Clean, State.values, List.forall_mem_singleton]
  constructor
  · intro reads
    obtain ⟨state, reads, ends⟩ := Result.bind_ok_iff.1 reads
    cases finish_ok_iff.1 ends
    obtain ⟨kept, clean, finite⟩ := foldlM_strict_iff.1 ⟨reads, start⟩
    exact ⟨Result.bind_ok_iff.2 ⟨_, kept, rfl⟩, finished.1 clean, finite⟩
  · intro parts
    obtain ⟨kept, distinct, finite⟩ := parts
    obtain ⟨state, kept, ends⟩ := Result.bind_ok_iff.1 kept
    cases finish_ok_iff.1 ends
    obtain ⟨reads, -⟩ := foldlM_strict_iff.2 ⟨kept, finished.2 distinct, finite⟩
    exact Result.bind_ok_iff.2 ⟨_, reads, rfl⟩

end Strictness

end Json

end Credential
