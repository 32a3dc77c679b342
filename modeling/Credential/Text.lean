import Credential.Bytes

/-! Text as a sequence of code points. A JSON string may hold half of a surrogate pair on its
own, which no `String` can, so keys read from a document and all messages are `Text`. -/

namespace Credential

inductive CodePoint where
  | char (c : Char)
  /-- The code point U+D800 plus the offset, standing alone. -/
  | surrogate (offset : Fin 2048)
deriving DecidableEq

abbrev Text := List CodePoint

namespace CodePoint

def value : CodePoint → Nat
  | .char c => c.toNat
  | .surrogate offset => 0xD800 + offset

def ofNat? (number : Nat) : Option CodePoint :=
  if isSurrogate : 0xD800 ≤ number ∧ number < 0xE000 then
    some (.surrogate ⟨number - 0xD800, by omega⟩)
  else if number < 0x110000 then some (.char (Char.ofNat number))
  else none

/-- The code point that two UTF-16 units encode together, if they are a pair. -/
def ofPair? (high low : Nat) : Option CodePoint :=
  if 0xD800 ≤ high ∧ high < 0xDC00 ∧ 0xDC00 ≤ low ∧ low < 0xE000 then
    some (.char (Char.ofNat (0x10000 + (high - 0xD800) * 0x400 + (low - 0xDC00))))
  else none

def char? : CodePoint → Option Char
  | .char c => some c
  | .surrogate _ => none

/-- One UTF-16 unit or the two of a pair. -/
def units16 (point : CodePoint) : List Nat :=
  if point.value < 0x10000 then [point.value]
  else [0xD800 + (point.value - 0x10000) / 0x400, 0xDC00 + (point.value - 0x10000) % 0x400]

end CodePoint

namespace Text

def ofChars (chars : List Char) : Text := chars.map .char

def ofString (text : String) : Text := ofChars text.toList

def chars? (text : Text) : Option (List Char) := text.mapM CodePoint.char?

/-- Fails on an unpaired surrogate. -/
def toString? (text : Text) : Option String := text.chars?.map String.ofList

instance : Coe String Text := ⟨ofString⟩
instance : HAppend String Text Text := ⟨fun first second => ofString first ++ second⟩
instance : HAppend Text String Text := ⟨fun first second => first ++ ofString second⟩

theorem chars?_ofChars (chars : List Char) : chars? (ofChars chars) = some chars := by
  unfold chars? ofChars
  induction chars with
  | nil => rfl
  | cons c rest ih => simp [List.map_cons, List.mapM_cons, CodePoint.char?, ih]

@[simp] theorem toString?_ofString (text : String) : toString? (ofString text) = some text := by
  simp [toString?, ofString, chars?_ofChars]

theorem chars?_eq_some_iff {text : Text} {chars : List Char} : text.chars? = some chars ↔ text = ofChars chars := by
  constructor
  · intro decoded
    induction text generalizing chars with
    | nil =>
      cases decoded
      rfl
    | cons point rest ih =>
      rw [chars?, List.mapM_cons] at decoded
      obtain ⟨c, single, decoded⟩ := Option.bind_eq_some_iff.1 decoded
      obtain ⟨later, decodes, same⟩ := Option.bind_eq_some_iff.1 decoded
      cases same
      cases point with
      | char other =>
        cases single
        exact congrArg (.char c :: ·) (ih decodes)
      | surrogate offset => cases single
  · rintro rfl
    exact chars?_ofChars chars

theorem toString?_eq_some_iff {text : Text} {value : String} : text.toString? = some value ↔ text = ofString value := by
  constructor
  · intro decoded
    obtain ⟨chars, decodes, rfl⟩ := Option.map_eq_some_iff.1 decoded
    rw [chars?_eq_some_iff.1 decodes, ofString, String.toList_ofList]
  · rintro rfl
    exact toString?_ofString value

theorem ofString_inj {first second : String} : ofString first = ofString second ↔ first = second :=
  ⟨fun same => Option.some.inj (by rw [← toString?_ofString, same, toString?_ofString]),
    fun same => same ▸ rfl⟩

end Text

end Credential
