import Mathlib.Data.List.Basic
import Credential.Text.Split

/-! A text is cut at the first separator or after the last, and each is told by the part that holds none. -/

namespace Credential.Text

variable {separator : Char} {text before after : List Char}

theorem not_mem_of_kind {kind : Char → Bool} (symbols : ∀ c ∈ text, kind c = true) (other : kind separator = false) :
    separator ∉ text := by
  intro member
  have symbol := symbols separator member
  rw [other] at symbol
  cases symbol

theorem cut_clear (clear : separator ∉ text) : cut separator text = (text, none) := by
  induction text with
  | nil => rfl
  | cons c rest ih =>
    have here := List.ne_of_not_mem_cons clear
    rw [cut, if_neg (Ne.symm here), ih (List.not_mem_of_not_mem_cons clear)]

theorem cut_append (clear : separator ∉ before) (after : List Char) :
    cut separator (before ++ separator :: after) = (before, some after) := by
  induction before with
  | nil => exact if_pos rfl
  | cons c rest ih =>
    have here := List.ne_of_not_mem_cons clear
    rw [List.cons_append, cut, if_neg (Ne.symm here), ih (List.not_mem_of_not_mem_cons clear)]

theorem cut_eq_some_iff :
    cut separator text = (before, some after) ↔ text = before ++ separator :: after ∧ separator ∉ before := by
  constructor
  · intro found
    by_cases present : separator ∈ text
    · obtain ⟨first, last, rfl, clear⟩ := List.eq_append_cons_of_mem present
      rw [cut_append clear] at found
      cases found
      exact ⟨rfl, clear⟩
    · rw [cut_clear present] at found
      cases found
  · rintro ⟨rfl, clear⟩
    exact cut_append clear after

theorem exists_parts (separator : Char) (text : List Char) :
    ∃ before rest, text = before ++ rest ∧ separator ∉ before ∧ ∀ c ∈ rest.head?, c = separator := by
  by_cases present : separator ∈ text
  · obtain ⟨before, after, rfl, clear⟩ := List.eq_append_cons_of_mem present
    exact ⟨before, separator :: after, rfl, clear, fun c same => (Option.some.inj same).symm⟩
  · exact ⟨text, [], (List.append_nil text).symm, present, fun c impossible => by cases impossible⟩

theorem cut_parts (clear : separator ∉ before) {rest : List Char} (opens : ∀ c ∈ rest.head?, c = separator) :
    cut separator (before ++ rest) = (before, rest.tail?) := by
  cases rest with
  | nil => rw [List.append_nil, cut_clear clear, List.tail?_nil]
  | cons first after =>
    obtain rfl := opens first rfl
    rw [cut_append clear, List.tail?_cons]

private theorem takeWhile_clear (clear : separator ∉ text) (rest : List Char) :
    (text ++ rest).takeWhile (· ≠ separator) = text ++ rest.takeWhile (· ≠ separator) := by
  apply List.takeWhile_append_of_pos
  intro c member
  apply decide_eq_true
  rintro rfl
  exact clear member

theorem afterLast_clear (clear : separator ∉ text) : afterLast separator text = text := by
  have all := takeWhile_clear (fun member => clear (List.mem_reverse.1 member)) []
  rw [List.append_nil, List.takeWhile_nil, List.append_nil] at all
  rw [afterLast, all, List.reverse_reverse]

theorem afterLast_append (before : List Char) (clear : separator ∉ after) :
    afterLast separator (before ++ separator :: after) = after := by
  have reversed : (before ++ separator :: after).reverse = after.reverse ++ separator :: before.reverse := by
    rw [List.reverse_append, List.reverse_cons, List.append_assoc]
    rfl
  have stops : (separator :: before.reverse).takeWhile (· ≠ separator) = [] := List.takeWhile_cons_of_neg (by simp)
  rw [afterLast, reversed, takeWhile_clear (fun member => clear (List.mem_reverse.1 member)), stops, List.append_nil,
    List.reverse_reverse]

theorem exists_last (present : separator ∈ text) :
    ∃ before after, text = before ++ separator :: after ∧ separator ∉ after := by
  obtain ⟨after, before, reversed, clear⟩ := List.eq_append_cons_of_mem (List.mem_reverse.2 present)
  refine ⟨before.reverse, after.reverse, ?_, fun member => clear (List.mem_reverse.1 member)⟩
  rw [← List.reverse_reverse text, reversed]
  simp

end Credential.Text
