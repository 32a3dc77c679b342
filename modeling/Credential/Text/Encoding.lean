import Credential.Text.Quoted

/-! Text as octets, in UTF-8. A surrogate that stands on its own has no octets, so a text that holds one has none. What
goes wrong is told by the place of the first such surrogate and by those right after it. -/

namespace Credential.Text

/-- The first surrogates of a text that stand side by side, and how much precedes them. -/
structure Unencodable where
  position : Nat
  run : Text
deriving DecidableEq

def Unencodable.message (cause : Unencodable) : Text :=
  match cause.run with
  | [point] =>
    "'utf-8' codec can't encode character '" ++ escapedPoint point ++
      ("' in position " ++ toString cause.position ++ ": surrogates not allowed" : String)
  | run =>
    ("'utf-8' codec can't encode characters in position " ++ toString cause.position ++ "-" ++
      toString (cause.position + run.length - 1) ++ ": surrogates not allowed" : String)

def unencodable (text : Text) : Unencodable :=
  ⟨(text.takeWhile (·.char?.isSome)).length, (text.dropWhile (·.char?.isSome)).takeWhile (·.char?.isNone)⟩

def encode (text : Text) : Except Unencodable Bytes :=
  match text.toString? with
  | some value => .ok (Bytes.ofString value)
  | none => .error text.unencodable

/-- Holds no half of a surrogate pair without the other. -/
def Paired (text : Text) : Prop := ∀ offset, .surrogate offset ∉ text

theorem paired_ofString (value : String) : Paired (ofString value) := by
  intro offset among
  obtain ⟨_, -, impossible⟩ := List.mem_map.1 among
  cases impossible

theorem Paired.exists_string {text : Text} (paired : text.Paired) : ∃ value, text = ofString value := by
  have chars : ∃ chars, text = ofChars chars := by
    induction text with
    | nil => exact ⟨[], rfl⟩
    | cons point rest ih =>
      obtain ⟨chars, same⟩ := ih fun offset later => paired offset (List.mem_cons_of_mem _ later)
      cases point with
      | char c => exact ⟨c :: chars, congrArg (.char c :: ·) same⟩
      | surrogate offset => exact absurd List.mem_cons_self (paired offset)
  obtain ⟨chars, rfl⟩ := chars
  exact ⟨String.ofList chars, by rw [ofString, String.toList_ofList]⟩

@[simp] theorem encode_ofString (value : String) : encode (ofString value) = .ok (Bytes.ofString value) := by
  rw [encode, toString?_ofString]

theorem encode_ok_iff {text : Text} {bytes : Bytes} :
    text.encode = .ok bytes ↔ ∃ value, text = ofString value ∧ bytes = Bytes.ofString value := by
  constructor
  · intro encoded
    unfold encode at encoded
    split at encoded
    next value found =>
      cases encoded
      exact ⟨value, toString?_eq_some_iff.1 found, rfl⟩
    · cases encoded
  · rintro ⟨value, rfl, rfl⟩
    exact encode_ofString value

theorem encode_error_iff {text : Text} {cause : Unencodable} :
    text.encode = .error cause ↔ ¬text.Paired ∧ cause = text.unencodable := by
  by_cases paired : text.Paired
  · obtain ⟨value, rfl⟩ := paired.exists_string
    simp [paired]
  · have textless : text.toString? = none := by
      cases found : text.toString? with
      | none => rfl
      | some value => exact absurd (toString?_eq_some_iff.1 found ▸ paired_ofString value) paired
    simp [encode, textless, paired, eq_comm]

end Credential.Text
