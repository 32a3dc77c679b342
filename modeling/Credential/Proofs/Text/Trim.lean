import Mathlib.Data.List.TakeWhile
import Credential.Proofs.Text.Ascii
import Credential.Text.Blank

/-! A trimmed text is told by its ends: neither of them would be dropped, and around it stands only what would. So
blanks around a list of items are blanks around its first and its last item, and trimming the list before it is split
leaves each item, trimmed, what it was. -/

namespace Credential.Text

def Tight (drop : Char → Bool) (text : List Char) : Prop :=
  (∀ c ∈ text.head?, drop c = false) ∧ ∀ c ∈ text.getLast?, drop c = false

/-- All of a text would be trimmed away. -/
def Blank (text : List Char) : Prop := ∀ c ∈ text, isBlank c = true

instance (text : List Char) : Decidable (Blank text) := decidable_of_iff (text.all isBlank = true) List.all_eq_true

section TrimBy

variable {drop : Char → Bool} {text core before after : List Char}

theorem dropWhile_padded (dropped : ∀ c ∈ before, drop c = true) (kept : ∀ c ∈ core.head?, drop c = false) :
    (before ++ core).dropWhile drop = core := by
  rw [List.dropWhile_append_of_pos dropped]
  cases core with
  | nil => rfl
  | cons first rest =>
    apply List.dropWhile_cons_of_neg
    rw [kept first rfl]
    exact Bool.false_ne_true

theorem dropWhile_kept (drop : Char → Bool) (text : List Char) : ∀ c ∈ (text.dropWhile drop).head?, drop c = false := by
  intro c first
  have kept := List.head?_dropWhile_not drop text
  rw [Option.mem_def.1 first] at kept
  exact kept

theorem tight_trimBy (drop : Char → Bool) (text : List Char) : Tight drop (trimBy drop text) := by
  unfold trimBy
  refine ⟨?_, ?_⟩
  · intro c first
    have parts := List.takeWhile_append_dropWhile (p := drop) (l := (text.dropWhile drop).reverse)
    have kept := dropWhile_kept drop text
    rw [← List.reverse_reverse (text.dropWhile drop), ← parts, List.reverse_append] at kept
    apply kept c
    rw [List.head?_append, Option.mem_def.1 first]
    rfl
  · rw [List.getLast?_reverse]
    exact dropWhile_kept drop _

theorem exists_trimBy (drop : Char → Bool) (text : List Char) : ∃ before after,
    text = before ++ trimBy drop text ++ after ∧ (∀ c ∈ before, drop c = true) ∧ ∀ c ∈ after, drop c = true := by
  refine ⟨text.takeWhile drop, ((text.dropWhile drop).reverse.takeWhile drop).reverse, ?_, ?_, ?_⟩
  · rw [trimBy, List.append_assoc, ← List.reverse_append, List.takeWhile_append_dropWhile, List.reverse_reverse,
      List.takeWhile_append_dropWhile]
  · intro c member
    exact List.mem_takeWhile_imp member
  · intro c member
    exact List.mem_takeWhile_imp (List.mem_reverse.1 member)

theorem trimBy_eq_iff : trimBy drop text = core ↔ Tight drop core ∧ ∃ before after,
    text = before ++ core ++ after ∧ (∀ c ∈ before, drop c = true) ∧ ∀ c ∈ after, drop c = true := by
  refine ⟨?_, ?_⟩
  · rintro rfl
    exact ⟨tight_trimBy drop text, exists_trimBy drop text⟩
  · rintro ⟨⟨first, last⟩, before, after, rfl, dropped, droppedToo⟩
    have rear : (core ++ after).reverse.dropWhile drop = core.reverse := by
      rw [List.reverse_append]
      apply dropWhile_padded
      · intro c member
        exact droppedToo c (List.mem_reverse.1 member)
      · rw [List.head?_reverse]
        exact last
    cases core with
    | nil =>
      have all : ∀ c ∈ before ++ after, drop c = true := List.forall_mem_append.2 ⟨dropped, droppedToo⟩
      have nothing : (before ++ after ++ []).dropWhile drop = [] := dropWhile_padded all nofun
      rw [List.append_nil] at nothing
      rw [trimBy, List.append_nil, nothing]
      rfl
    | cons c rest =>
      have kept : ∀ d ∈ (c :: rest ++ after).head?, drop d = false := first
      rw [trimBy, List.append_assoc, dropWhile_padded dropped kept, rear, List.reverse_reverse]

theorem trimBy_eq_self (tight : Tight drop text) : trimBy drop text = text := by
  refine trimBy_eq_iff.2 ⟨tight, [], [], ?_, nofun, nofun⟩
  rw [List.nil_append, List.append_nil]

theorem trimBy_eq_nil_iff : trimBy drop text = [] ↔ ∀ c ∈ text, drop c = true := by
  rw [trimBy_eq_iff]
  refine ⟨?_, ?_⟩
  · rintro ⟨-, before, after, rfl, dropped, droppedToo⟩
    rw [List.append_nil]
    exact List.forall_mem_append.2 ⟨dropped, droppedToo⟩
  · intro dropped
    refine ⟨⟨nofun, nofun⟩, text, [], ?_, dropped, nofun⟩
    rw [List.append_nil, List.append_nil]

end TrimBy

variable {separator : Char} {text before after : List Char} {items : List (List Char)}

theorem trim_eq_nil_iff : trim text = [] ↔ Blank text := trimBy_eq_nil_iff

theorem trim_padded (blank : Blank before) (blankToo : Blank after) : trim (before ++ text ++ after) = trim text := by
  obtain ⟨first, last, same, dropped, droppedToo⟩ := exists_trimBy isBlank text
  refine trimBy_eq_iff.2 ⟨tight_trimBy isBlank text, before ++ first, last ++ after, ?_, ?_, ?_⟩
  · calc before ++ text ++ after
        = before ++ (first ++ trim text ++ last) ++ after := congrArg (before ++ · ++ after) same
      _ = before ++ first ++ trim text ++ (last ++ after) := by simp only [List.append_assoc]
  · exact List.forall_mem_append.2 ⟨blank, dropped⟩
  · exact List.forall_mem_append.2 ⟨droppedToo, blankToo⟩

theorem not_mem_of_mem_split {part : List Char} (member : part ∈ split separator text) : separator ∉ part := by
  induction text generalizing part with
  | nil =>
    rw [split, List.mem_singleton] at member
    rw [member]
    exact List.not_mem_nil
  | cons c rest ih =>
    rw [split] at member
    split at member
    next here =>
      rcases List.mem_cons.1 member with rfl | later
      · exact List.not_mem_nil
      · exact ih later
    next other =>
      split at member
      next parts => exact absurd parts (split_ne_nil separator rest)
      next first parts found =>
        rw [found] at ih
        rcases List.mem_cons.1 member with rfl | later
        · exact List.not_mem_cons_of_ne_of_not_mem (Ne.symm other) (ih List.mem_cons_self)
        · exact ih (List.mem_cons_of_mem first later)

theorem map_trim_split_padded (solid : isBlank separator = false) (clear : ∀ item ∈ items, separator ∉ item)
    (given : items ≠ []) (blank : Blank before) (blankToo : Blank after) :
    (split separator (before ++ join separator items ++ after)).map trim = items.map trim := by
  have absent : ∀ padding, Blank padding → separator ∉ padding := by
    intro padding blanks member
    rw [blanks separator member] at solid
    cases solid
  induction items generalizing before with
  | nil => exact absurd rfl given
  | cons item rest ih =>
    obtain ⟨clear, clearToo⟩ := List.forall_mem_cons.1 clear
    have leading : separator ∉ before ++ item := List.not_mem_append (absent before blank) clear
    cases rest with
    | nil =>
      have whole : separator ∉ before ++ item ++ after := List.not_mem_append leading (absent after blankToo)
      rw [join, split_clear whole, List.map_singleton, List.map_singleton, trim_padded blank blankToo]
    | cons next more =>
      have nothing : Blank [] := List.forall_mem_nil _
      have first : trim (before ++ item ++ []) = trim item := trim_padded blank nothing
      have later := ih clearToo (List.cons_ne_nil next more) nothing
      rw [List.append_nil] at first
      rw [List.nil_append] at later
      have parts : before ++ join separator (item :: next :: more) ++ after =
          before ++ item ++ separator :: (join separator (next :: more) ++ after) := by
        simp only [join, List.append_assoc, List.cons_append]
      rw [parts, split_append leading, List.map_cons, first, later]
      rfl

theorem map_trim_split_trim (solid : isBlank separator = false) (clear : ∀ item ∈ items, separator ∉ item)
    (given : items ≠ []) : (split separator (trim (join separator items))).map trim = items.map trim := by
  obtain ⟨before, after, same, blank, blankToo⟩ := exists_trimBy isBlank (join separator items)
  have nothing : Blank [] := List.forall_mem_nil _
  have inner := map_trim_split_padded solid (fun part member => not_mem_of_mem_split member)
    (split_ne_nil separator (trim (join separator items))) blank blankToo
  have outer := map_trim_split_padded solid clear given nothing nothing
  rw [join_split] at inner
  rw [List.nil_append, List.append_nil, same] at outer
  exact inner.symm.trans outer

end Credential.Text
