import Mathlib.Data.List.Basic
import Credential.Proofs.Text.Letters
import Credential.Text.Split

/-! Texts that are the same but for letter case in ASCII. A character without case has the same places in both, so they
are cut in the same way there. -/

namespace Credential.Text

/-- The same but for letter case in ASCII. -/
def Alike (one two : List Char) : Prop := one.map Char.toLower = two.map Char.toLower

structure Uncased (c : Char) : Prop where
  lower : c.toLower = c
  upper : c.toUpper = c

namespace Uncased

variable {c separator : Char} {text : List Char}

theorem toLower_eq_iff (uncased : Uncased separator) : c.toLower = separator ↔ c = separator := by
  constructor
  · intro same
    by_cases plain : c.toNat < 0x80
    · have either : c.toLower = c ∨ c.toLower.toUpper = c := by
        apply forall_ascii (motive := fun c => c.toLower = c ∨ c.toLower.toUpper = c)
        · decide
        · exact plain
      rw [same, uncased.upper] at either
      rcases either with other | other <;> exact other.symm
    · rw [toLower_eq_self (by omega)] at same
      exact same
  · rintro rfl
    exact uncased.lower

theorem mem_map_iff (uncased : Uncased separator) : separator ∈ text.map Char.toLower ↔ separator ∈ text := by
  simp only [List.mem_map, uncased.toLower_eq_iff, exists_eq_right]

theorem cut_map (uncased : Uncased separator) (text : List Char) : cut separator (text.map Char.toLower) =
    ((cut separator text).1.map Char.toLower, (cut separator text).2.map (List.map Char.toLower)) := by
  induction text with
  | nil => rfl
  | cons c rest ih =>
    rw [List.map_cons, cut, cut]
    by_cases here : c = separator
    · rw [if_pos here, if_pos (uncased.toLower_eq_iff.2 here)]
      rfl
    · rw [if_neg here, if_neg (mt uncased.toLower_eq_iff.1 here), ih]
      rfl

theorem split_map (uncased : Uncased separator) (text : List Char) :
    split separator (text.map Char.toLower) = (split separator text).map (List.map Char.toLower) := by
  induction text with
  | nil => rfl
  | cons c rest ih =>
    rw [List.map_cons, split, split]
    by_cases here : c = separator
    · rw [if_pos here, if_pos (uncased.toLower_eq_iff.2 here), ih]
      rfl
    · rw [if_neg here, if_neg (mt uncased.toLower_eq_iff.1 here), ih]
      cases split separator rest with
      | nil => rfl
      | cons part parts => rfl

end Uncased

namespace Alike

variable {one two : List Char} {separator : Char}

theorem mem_iff (alike : Alike one two) (uncased : Uncased separator) : separator ∈ one ↔ separator ∈ two := by
  rw [← uncased.mem_map_iff, alike, uncased.mem_map_iff]

theorem nil_iff (alike : Alike one two) : one = [] ↔ two = [] := by
  rw [← List.map_eq_nil_iff (f := Char.toLower), alike, List.map_eq_nil_iff]

theorem forall_iff {kind : Char → Prop} (alike : Alike one two) (closed : ∀ c, kind c.toLower ↔ kind c) :
    (∀ c ∈ one, kind c) ↔ ∀ c ∈ two, kind c := by
  have lowered : ∀ text : List Char, (∀ c ∈ text, kind c) ↔ ∀ c ∈ text.map Char.toLower, kind c := by
    intro text
    simp only [List.forall_mem_map, closed]
  rw [lowered one, lowered two, alike]

theorem cut_fst (alike : Alike one two) (uncased : Uncased separator) :
    Alike (cut separator one).1 (cut separator two).1 := by
  have same := congrArg (cut separator) alike
  rw [uncased.cut_map, uncased.cut_map] at same
  exact congrArg Prod.fst same

end Alike

end Credential.Text
