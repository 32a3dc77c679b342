import Credential.Json.Printer
import Credential.Json.Reading
import Credential.Proofs.Result

/-! What a reader accepts, against what a value spells. A state stands for the lexemes that have led to it: those of
the containers that are open, one inside the other, and those of the value delivered last. Each step adds its lexeme
to them, so that a reader that keeps every member accepts just the lexemes of a tree, and gives the tree. -/

namespace Credential.Json

/-- At any depth of a value, the value itself included. -/
inductive Within (part : Json text) : Json text → Prop where
  | here : Within part part
  | item {items : List (Json text)} {item : Json text} (among : item ∈ items) (deeper : Within part item) :
    Within part (.array items)
  | member {members : List (text × Json text)} {name : text} {value : Json text} (among : (name, value) ∈ members)
    (deeper : Within part value) : Within part (.object members)

/-- A name for a number counts as the number. -/
def Lexeme.evaluated : Lexeme Text → Lexeme Text
  | .constant name => .real name.value
  | lexeme => lexeme

/-- Lexeme by lexeme the text says the tree, members of one name and all. -/
def Says (source : Text) (tree : Json Text) : Prop := (Lexeme.ofText source).map Lexeme.evaluated = tree.lexemes

theorem evaluated_of_unnamed {lexemes : List (Lexeme Text)} (unnamed : ∀ name, .constant name ∉ lexemes) :
    lexemes.map Lexeme.evaluated = lexemes := by
  have same : ∀ lexeme ∈ lexemes, lexeme.evaluated = id lexeme := by
    intro lexeme among
    cases lexeme with
    | constant name => exact absurd among (unnamed name)
    | _ => rfl
  rw [List.map_congr_left same, List.map_id]

section Steps

def Lexeme.atom? : Lexeme Text → Option (Json Text)
  | .null => some .null
  | .bool value => some (.bool value)
  | .int value => some (.int value)
  | .real value => some (.real value)
  | .string value => some (.string value)
  | _ => none

inductive Begins (reading : Reading) (outer : List Frame) : Lexeme Text → State → Prop where
  | atom {lexeme : Lexeme Text} {value : Json Text} (stands : lexeme.atom? = some value) :
    Begins reading outer lexeme (deliver value outer)
  | constant {name : Constant} {value : Binary64} (passes : reading.constant name = .ok value) :
    Begins reading outer (.constant name) (deliver (.real value) outer)
  | array : Begins reading outer .openArray (.arrayStart outer)
  | object : Begins reading outer .openObject (.objectStart outer)

/-- All that a step can do. -/
inductive Moves (reading : Reading) : State → Lexeme Text → State → Prop where
  | value {outer lexeme next} (begins : Begins reading outer lexeme next) : Moves reading (.value outer) lexeme next
  | emptyArray {outer} : Moves reading (.arrayStart outer) .closeArray (deliver (.array []) outer)
  | firstItem {outer lexeme next} (begins : Begins reading (.array [] :: outer) lexeme next) :
    Moves reading (.arrayStart outer) lexeme next
  | nextItem {items outer} : Moves reading (.afterItem items outer) .comma (.value (.array items :: outer))
  | closeArray {items outer} :
    Moves reading (.afterItem items outer) .closeArray (deliver (.array items.reverse) outer)
  | emptyObject {outer kept} (closes : reading.object [] = .ok kept) :
    Moves reading (.objectStart outer) .closeObject (deliver (.object kept) outer)
  | firstName {name outer} : Moves reading (.objectStart outer) (.string name) (.afterName [] name outer)
  | laterName {members name outer} :
    Moves reading (.memberName members outer) (.string name) (.afterName members name outer)
  | colon {members name outer} :
    Moves reading (.afterName members name outer) .colon (.value (.member members name :: outer))
  | nextMember {members outer} : Moves reading (.afterMember members outer) .comma (.memberName members outer)
  | closeObject {members outer kept} (closes : reading.object members.reverse = .ok kept) :
    Moves reading (.afterMember members outer) .closeObject (deliver (.object kept) outer)

variable {reading : Reading} {state next : State} {lexeme : Lexeme Text}

theorem beginValue_ok_iff {outer : List Frame} :
    beginValue reading outer lexeme = .ok next ↔ Begins reading outer lexeme next := by
  constructor
  · intro begins
    cases lexeme with
    | constant name =>
      obtain ⟨value, passes, same⟩ := Result.bind_ok_iff.1 begins
      cases same
      exact .constant passes
    | openArray =>
      cases begins
      exact .array
    | openObject =>
      cases begins
      exact .object
    | _ => cases begins <;> exact .atom rfl
  · intro begins
    cases begins with
    | atom stands => cases lexeme <;> cases stands <;> rfl
    | constant passes => exact Result.bind_ok_iff.2 ⟨_, passes, rfl⟩
    | array => rfl
    | object => rfl

theorem closeObject_ok_iff {members : List (Text × Json Text)} {outer : List Frame} :
    closeObject reading members outer = .ok next ↔
      ∃ kept, reading.object members.reverse = .ok kept ∧ next = deliver (.object kept) outer := by
  rw [closeObject, Result.bind_ok_iff]
  simp only [Except.ok.injEq, eq_comm]

theorem step_ok_iff : step reading state lexeme = .ok next ↔ Moves reading state lexeme next := by
  constructor
  · intro steps
    unfold step at steps
    split at steps
    · exact .value (beginValue_ok_iff.1 steps)
    · cases steps
      exact .emptyArray
    · exact .firstItem (beginValue_ok_iff.1 steps)
    · cases steps
      exact .nextItem
    · cases steps
      exact .closeArray
    · obtain ⟨kept, closes, rfl⟩ := closeObject_ok_iff.1 steps
      exact .emptyObject closes
    · cases steps
      exact .firstName
    · cases steps
      exact .laterName
    · cases steps
      exact .colon
    · cases steps
      exact .nextMember
    · obtain ⟨kept, closes, rfl⟩ := closeObject_ok_iff.1 steps
      exact .closeObject closes
    · cases steps
  · intro moves
    cases moves with
    | value begins => exact beginValue_ok_iff.2 begins
    | firstItem begins =>
      have steps := beginValue_ok_iff.2 begins
      cases lexeme <;> first | exact steps | cases steps
    | emptyObject closes => exact closeObject_ok_iff.2 ⟨_, closes, rfl⟩
    | closeObject closes => exact closeObject_ok_iff.2 ⟨_, closes, rfl⟩
    | _ => rfl

end Steps

section Spelling

/-- What is spelled one after another, with a comma between each two, as each with its comma and the last without. -/
private theorem spelled_snoc {part : Type} (spelled : part → List (Lexeme Text)) (later : List part → List (Lexeme Text))
    {close : Lexeme Text} (none : later [] = [close])
    (more : ∀ next rest, later (next :: rest) = .comma :: spelled next ++ later rest) (last : part) :
    ∀ first rest, spelled first ++ later (rest ++ [last]) =
      (first :: rest).flatMap (fun each => spelled each ++ [.comma]) ++ spelled last ++ [close] := by
  intro first rest
  induction rest generalizing first with
  | nil => simp [more, none]
  | cons next rest ih => simp [more, ih]

def itemsBefore (items : List (Json Text)) : List (Lexeme Text) := items.flatMap fun item => item.lexemes ++ [.comma]

def memberLexemes (member : Text × Json Text) : List (Lexeme Text) :=
  .string member.1 :: .colon :: member.2.lexemes

def membersBefore (members : List (Text × Json Text)) : List (Lexeme Text) :=
  members.flatMap fun member => memberLexemes member ++ [.comma]

theorem lexemes_array_snoc (before : List (Json Text)) (last : Json Text) :
    (Json.array (before ++ [last])).lexemes = .openArray :: itemsBefore before ++ last.lexemes ++ [.closeArray] := by
  cases before with
  | nil => rfl
  | cons first rest =>
    have same := spelled_snoc lexemes laterItems rfl (fun _ _ => rfl) last first rest
    rw [List.cons_append, lexemes, List.cons_append, same]
    rfl

theorem lexemes_object_snoc (before : List (Text × Json Text)) (last : Text × Json Text) :
    (Json.object (before ++ [last])).lexemes =
      .openObject :: membersBefore before ++ memberLexemes last ++ [.closeObject] := by
  cases before with
  | nil => rfl
  | cons first rest =>
    have same := spelled_snoc memberLexemes laterMembers rfl (fun _ _ => rfl) last first rest
    rw [List.cons_append, lexemes]
    exact congrArg (.openObject :: ·) same

end Spelling

section Soundness

def Frame.lexemes : Frame → List (Lexeme Text)
  | .array items => .openArray :: itemsBefore items.reverse
  | .member members name => .openObject :: membersBefore members.reverse ++ [.string name, .colon]

def opened : List Frame → List (Lexeme Text)
  | [] => []
  | frame :: outer => opened outer ++ frame.lexemes

/-- The lexemes before the state, in what is kept of them. -/
def State.Follows : State → List (Lexeme Text) → Prop
  | .value outer, before => before = opened outer
  | .arrayStart outer, before => before = opened outer ++ [.openArray]
  | .afterItem items outer, before =>
    ∃ item rest, items = item :: rest ∧ before = opened (.array rest :: outer) ++ item.lexemes
  | .objectStart outer, before => before = opened outer ++ [.openObject]
  | .memberName members outer, before => before = opened outer ++ .openObject :: membersBefore members.reverse
  | .afterName members name outer, before =>
    before = opened outer ++ .openObject :: membersBefore members.reverse ++ [.string name]
  | .afterMember members outer, before => ∃ name value rest, members = (name, value) :: rest ∧
    before = opened (.member rest name :: outer) ++ value.lexemes
  | .done whole, before => before = whole.lexemes

theorem follows_deliver (value : Json Text) (outer : List Frame) :
    (deliver value outer).Follows (opened outer ++ value.lexemes) := by
  cases outer with
  | nil => rfl
  | cons frame outer =>
    cases frame with
    | array items => exact ⟨value, items, rfl, rfl⟩
    | member members name => exact ⟨name, value, members, rfl, rfl⟩

variable {state next : State} {lexeme : Lexeme Text} {before : List (Lexeme Text)}

theorem Begins.follows {outer : List Frame} (begins : Begins .verbatim outer lexeme next) :
    next.Follows (opened outer ++ [lexeme.evaluated]) := by
  cases begins with
  | @atom _ value stands =>
    have spelled : value.lexemes = [lexeme.evaluated] := by
      cases lexeme <;> cases stands <;> rfl
    rw [← spelled]
    exact follows_deliver value outer
  | @constant _ value passes =>
    cases passes
    exact follows_deliver _ outer
  | array => rfl
  | object => rfl

/-- A step adds its lexeme. -/
theorem Moves.follows (moves : Moves .verbatim state lexeme next) (follows : state.Follows before) :
    next.Follows (before ++ [lexeme.evaluated]) := by
  cases moves with
  | value begins =>
    cases follows
    exact begins.follows
  | emptyArray =>
    cases follows
    rw [List.append_assoc]
    exact follows_deliver (.array []) _
  | firstItem begins =>
    cases follows
    exact begins.follows
  | nextItem =>
    obtain ⟨item, rest, rfl, rfl⟩ := follows
    simp [State.Follows, opened, Frame.lexemes, itemsBefore, Lexeme.evaluated]
  | closeArray =>
    obtain ⟨item, rest, rfl, rfl⟩ := follows
    have delivered := follows_deliver (.array (item :: rest).reverse) ‹List Frame›
    rw [List.reverse_cons, lexemes_array_snoc] at delivered
    simpa [opened, Frame.lexemes, Lexeme.evaluated] using delivered
  | emptyObject closes =>
    cases follows
    cases closes
    rw [List.append_assoc]
    exact follows_deliver (.object []) _
  | firstName =>
    cases follows
    rfl
  | laterName =>
    cases follows
    rfl
  | colon =>
    cases follows
    simp [State.Follows, opened, Frame.lexemes, Lexeme.evaluated]
  | nextMember =>
    obtain ⟨name, value, rest, rfl, rfl⟩ := follows
    simp [State.Follows, opened, Frame.lexemes, membersBefore, memberLexemes, Lexeme.evaluated]
  | closeObject closes =>
    obtain ⟨name, value, rest, rfl, rfl⟩ := follows
    cases closes
    have delivered := follows_deliver (.object ((name, value) :: rest).reverse) ‹List Frame›
    rw [List.reverse_cons, lexemes_object_snoc] at delivered
    simpa [opened, Frame.lexemes, memberLexemes, Lexeme.evaluated] using delivered

theorem follows_foldlM {lexemes : List (Lexeme Text)} (reads : lexemes.foldlM (step .verbatim) state = .ok next)
    (follows : state.Follows before) : next.Follows (before ++ lexemes.map Lexeme.evaluated) := by
  induction lexemes generalizing state before with
  | nil =>
    cases reads
    rw [List.map_nil, List.append_nil]
    exact follows
  | cons lexeme rest ih =>
    obtain ⟨middle, steps, reads⟩ := Result.bind_ok_iff.1 reads
    have later := ih reads ((step_ok_iff.1 steps).follows follows)
    rw [List.append_assoc] at later
    exact later

end Soundness

section Completeness

abbrev keepOn (state : State) (lexemes : List (Lexeme Text)) : Except Fault State :=
  lexemes.foldlM (step .verbatim) state

theorem step_evaluated (state : State) (lexeme : Lexeme Text) :
    step .verbatim state lexeme.evaluated = step .verbatim state lexeme := by
  cases lexeme with
  | constant name => cases state <;> rfl
  | _ => rfl

theorem keepOn_evaluated (state : State) (lexemes : List (Lexeme Text)) :
    keepOn state (lexemes.map Lexeme.evaluated) = keepOn state lexemes := by
  unfold keepOn
  rw [List.foldlM_map]
  simp only [step_evaluated]

private theorem keepOn_arrayStart (value : Json Text) (outer : List Frame) (rest : List (Lexeme Text)) :
    keepOn (.arrayStart outer) (value.lexemes ++ rest) = keepOn (.value (.array [] :: outer)) (value.lexemes ++ rest) := by
  cases value with
  | array items => cases items <;> rfl
  | object members => cases members <;> rfl
  | _ => rfl

mutual

theorem keepOn_value : ∀ (value : Json Text) (outer : List Frame) (rest : List (Lexeme Text)),
    keepOn (.value outer) (value.lexemes ++ rest) = keepOn (deliver value outer) rest
  | .null, _, _ => rfl
  | .bool _, _, _ => rfl
  | .int _, _, _ => rfl
  | .real _, _, _ => rfl
  | .string _, _, _ => rfl
  | .array [], _, _ => rfl
  | .array (item :: items), outer, rest => by
    rw [lexemes, List.append_assoc]
    calc keepOn (.value outer) (.openArray :: (item.lexemes ++ (laterItems items ++ rest)))
        = keepOn (.value (.array [] :: outer)) (item.lexemes ++ (laterItems items ++ rest)) :=
          keepOn_arrayStart item outer _
      _ = keepOn (.afterItem [item] outer) (laterItems items ++ rest) := keepOn_value item _ _
      _ = keepOn (deliver (.array (item :: items)) outer) rest := keepOn_laterItems items [item] outer rest
  | .object [], _, _ => rfl
  | .object ((name, value) :: members), outer, rest => by
    rw [lexemes, List.append_assoc]
    calc keepOn (.value outer) (.openObject :: .string name :: .colon :: (value.lexemes ++ (laterMembers members ++ rest)))
        = keepOn (.value (.member [] name :: outer)) (value.lexemes ++ (laterMembers members ++ rest)) := rfl
      _ = keepOn (.afterMember [(name, value)] outer) (laterMembers members ++ rest) := keepOn_value value _ _
      _ = keepOn (deliver (.object ((name, value) :: members)) outer) rest :=
          keepOn_laterMembers members [(name, value)] outer rest

theorem keepOn_laterItems : ∀ (items before : List (Json Text)) (outer : List Frame) (rest : List (Lexeme Text)),
    keepOn (.afterItem before outer) (laterItems items ++ rest) =
      keepOn (deliver (.array (before.reverse ++ items)) outer) rest
  | [], before, outer, rest => by
    rw [List.append_nil]
    rfl
  | item :: items, before, outer, rest => by
    have later := keepOn_laterItems items (item :: before) outer rest
    rw [List.reverse_cons, List.append_assoc] at later
    rw [laterItems, List.append_assoc]
    calc keepOn (.afterItem before outer) (.comma :: (item.lexemes ++ (laterItems items ++ rest)))
        = keepOn (.value (.array before :: outer)) (item.lexemes ++ (laterItems items ++ rest)) := rfl
      _ = keepOn (.afterItem (item :: before) outer) (laterItems items ++ rest) := keepOn_value item _ _
      _ = keepOn (deliver (.array (before.reverse ++ item :: items)) outer) rest := later

theorem keepOn_laterMembers : ∀ (members before : List (Text × Json Text)) (outer : List Frame)
    (rest : List (Lexeme Text)),
    keepOn (.afterMember before outer) (laterMembers members ++ rest) =
      keepOn (deliver (.object (before.reverse ++ members)) outer) rest
  | [], before, outer, rest => by
    rw [List.append_nil]
    rfl
  | (name, value) :: members, before, outer, rest => by
    have later := keepOn_laterMembers members ((name, value) :: before) outer rest
    rw [List.reverse_cons, List.append_assoc] at later
    rw [laterMembers, List.append_assoc]
    calc keepOn (.afterMember before outer)
          (.comma :: .string name :: .colon :: (value.lexemes ++ (laterMembers members ++ rest)))
        = keepOn (.value (.member before name :: outer)) (value.lexemes ++ (laterMembers members ++ rest)) := rfl
      _ = keepOn (.afterMember ((name, value) :: before) outer) (laterMembers members ++ rest) := keepOn_value value _ _
      _ = keepOn (deliver (.object (before.reverse ++ (name, value) :: members)) outer) rest := later

end

end Completeness

theorem finish_ok_iff {state : State} {tree : Json Text} : finish state = .ok tree ↔ state = .done tree := by
  cases state <;> simp [finish]

theorem readLexemes_evaluated (lexemes : List (Lexeme Text)) :
    readLexemes .verbatim (lexemes.map Lexeme.evaluated) = readLexemes .verbatim lexemes :=
  congrArg (· >>= finish) (keepOn_evaluated (.value []) lexemes)

theorem readLexemes_lexemes (tree : Json Text) : readLexemes .verbatim tree.lexemes = .ok tree := by
  have whole := keepOn_value tree [] []
  rw [List.append_nil] at whole
  exact Result.bind_ok_iff.2 ⟨.done tree, whole, rfl⟩

theorem readLexemes_verbatim_iff {lexemes : List (Lexeme Text)} {tree : Json Text} :
    readLexemes .verbatim lexemes = .ok tree ↔ lexemes.map Lexeme.evaluated = tree.lexemes := by
  constructor
  · intro reads
    obtain ⟨state, reads, finished⟩ := Result.bind_ok_iff.1 reads
    cases finish_ok_iff.1 finished
    have nothing : (State.value []).Follows [] := rfl
    exact follows_foldlM reads nothing
  · intro same
    rw [← readLexemes_evaluated, same]
    exact readLexemes_lexemes tree

theorem read_verbatim_iff {source : Text} {tree : Json Text} : read .verbatim source = .ok tree ↔ Says source tree :=
  readLexemes_verbatim_iff

theorem evaluated_lexemes (tree : Json Text) : tree.lexemes.map Lexeme.evaluated = tree.lexemes :=
  readLexemes_verbatim_iff.1 (readLexemes_lexemes tree)

/-- No tree needs a name for a number to be said. -/
theorem constant_not_mem_lexemes (name : Constant) (tree : Json Text) : .constant name ∉ tree.lexemes := by
  rw [← evaluated_lexemes]
  intro among
  obtain ⟨lexeme, -, same⟩ := List.mem_map.1 among
  cases lexeme <;> cases same

end Credential.Json
