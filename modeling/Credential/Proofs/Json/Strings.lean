import Credential.Issuance
import Credential.Json.Reading

/-! What is written between quotes is read back, in either way of writing. A character comes back as the
pieces it was written as, and the pieces of one character never join with those of the next. -/

namespace Credential

theorem Text.ofChars_append (first second : List Char) :
    Text.ofChars (first ++ second) = Text.ofChars first ++ Text.ofChars second :=
  List.map_append

namespace Json

open Lexeme

/-- The text is read as exactly these pieces, whatever follows it. -/
def Reads (written : List Char) (pieces : List Piece) : Prop :=
  ∀ rest, pieces? (Text.ofChars written ++ rest) = (pieces? rest).map fun (more, rest) => (pieces ++ more, rest)

/-- The pieces join to exactly this character, whatever follows them. -/
def Means (pieces : List Piece) (c : Char) : Prop :=
  ∀ more, joinPieces (pieces ++ more) = .char c :: joinPieces more

def Faithful (write : Char → List Char) : Prop :=
  ∀ c, ∃ pieces, Reads (write c) pieces ∧ Means pieces c

theorem Reads.nil : Reads [] [] := by
  intro rest
  cases found : pieces? rest <;> simp [Text.ofChars, found]

theorem Reads.append {first second : List Char} {pieces more : List Piece} (one : Reads first pieces)
    (two : Reads second more) : Reads (first ++ second) (pieces ++ more) := by
  intro rest
  rw [Text.ofChars_append, List.append_assoc, one, two]
  cases pieces? rest with
  | none => rfl
  | some found => simp [List.append_assoc]

theorem Means.plain (c : Char) : Means [.plain (.char c)] c := fun _ => rfl

theorem hexUnit?_digits {unit : Nat} (small : unit < 0x10000) :
    hexUnit? (Text.ofChars (Hex.digits 4 unit)) = some unit := by
  simp only [Hex.digits, Text.ofChars, hexUnit?, List.nil_append, List.cons_append, List.map_cons, List.map_nil,
    List.foldlM_cons, List.foldlM_nil, CodePoint.char?, Option.bind_eq_bind, Option.bind_some,
    Hex.value?_digit (Nat.mod_lt _ (by decide : 0 < 16)), Option.pure_def, Option.some.injEq]
  omega

theorem Reads.unit {unit : Nat} (small : unit < 0x10000) : Reads (unitEscape unit) [.unit unit] := by
  intro rest
  have read := hexUnit?_digits small
  simp only [unitEscape, Hex.digits, Text.ofChars, List.nil_append, List.cons_append, List.map_cons, List.map_nil]
    at read ⊢
  rw [pieces?, read]
  cases pieces? rest <;> rfl

theorem Reads.short {c mark : Char} (marked : shortEscape c = some mark) :
    Reads ['\\', mark] [.plain (.char c)] := by
  intro rest
  unfold shortEscape at marked
  split at marked
  all_goals
    cases marked
  all_goals
    cases found : pieces? rest <;> simp [Text.ofChars, pieces?, shortEscape?, found]

theorem Reads.plain {c : Char} (unmarked : shortEscape c = none) (visible : 0x20 ≤ c.toNat) :
    Reads [c] [.plain (.char c)] := by
  intro rest
  have quote : c ≠ '"' := by
    rintro rfl
    cases unmarked
  have backslash : c ≠ '\\' := by
    rintro rfl
    cases unmarked
  have allowed : ¬(CodePoint.char c = .char '\\' ∨ (CodePoint.char c).value < 0x20) := by
    intro refused
    rcases refused with same | control
    · exact backslash (CodePoint.char.inj same)
    · exact absurd control (Nat.not_lt.2 visible)
  rw [Text.ofChars, List.map_cons, List.map_nil, List.cons_append, List.nil_append, pieces?, if_neg allowed]
  · cases pieces? rest <;> rfl
  · exact fun same => quote (CodePoint.char.inj same)
  · exact fun _ _ _ _ _ same _ => backslash (CodePoint.char.inj same)
  · exact fun _ _ same _ => backslash (CodePoint.char.inj same)

private theorem toNat_range (c : Char) : c.toNat < 0xD800 ∨ 0xE000 ≤ c.toNat ∧ c.toNat < 0x110000 := by
  have valid := c.valid
  simp only [UInt32.isValidChar, Nat.isValidChar] at valid
  unfold Char.toNat
  omega

theorem Means.unit {c : Char} (small : c.toNat < 0x10000) : Means [.unit c.toNat] c := by
  have alone : ∀ low, CodePoint.ofPair? c.toNat low = none := by
    intro low
    have range := toNat_range c
    exact if_neg (by omega)
  have found : CodePoint.ofNat? c.toNat = some (.char c) := by
    have range := toNat_range c
    rw [CodePoint.ofNat?, dif_neg (by omega), if_pos (by omega), Char.ofNat_toNat]
  intro more
  cases more with
  | nil => simp [joinPieces, found]
  | cons next rest =>
    cases next with
    | plain point => simp [joinPieces, found]
    | unit low => simp [joinPieces, found, alone]

theorem Means.pair {c : Char} (large : 0x10000 ≤ c.toNat) :
    Means [.unit (0xD800 + (c.toNat - 0x10000) / 0x400), .unit (0xDC00 + (c.toNat - 0x10000) % 0x400)] c := by
  have range := toNat_range c
  intro more
  have joined : CodePoint.ofPair? (0xD800 + (c.toNat - 0x10000) / 0x400) (0xDC00 + (c.toNat - 0x10000) % 0x400) =
      some (.char c) := by
    have sum : 0x10000 + (0xD800 + (c.toNat - 0x10000) / 0x400 - 0xD800) * 0x400 +
        (0xDC00 + (c.toNat - 0x10000) % 0x400 - 0xDC00) = c.toNat := by omega
    rw [CodePoint.ofPair?, if_pos (by omega), sum, Char.ofNat_toNat]
  rw [List.cons_append, List.cons_append, List.nil_append, joinPieces, joined]

theorem escaped_faithful : Faithful fun c => escapedPoint (.char c) := by
  intro c
  have range := toNat_range c
  simp only [escapedPoint, CodePoint.char?, Option.bind_some]
  split
  next mark marked => exact ⟨_, .short marked, .plain c⟩
  next unmarked =>
    split
    next visible => exact ⟨_, .plain unmarked visible.1, .plain c⟩
    next hidden =>
      by_cases small : c.toNat < 0x10000
      · refine ⟨_, ?_, .unit small⟩
        simpa [CodePoint.units16, CodePoint.value, small] using Reads.unit small
      · refine ⟨_, ?_, .pair (Nat.not_lt.1 small)⟩
        have high : 0xD800 + (c.toNat - 0x10000) / 0x400 < 0x10000 := by omega
        have low : 0xDC00 + (c.toNat - 0x10000) % 0x400 < 0x10000 := by omega
        simpa [CodePoint.units16, CodePoint.value, small] using (Reads.unit high).append (.unit low)

theorem raw_faithful : Faithful rawChar := by
  intro c
  unfold rawChar
  split
  next mark marked => exact ⟨_, .short marked, .plain c⟩
  next unmarked =>
    split
    next control =>
      have small : c.toNat < 0x10000 := by omega
      exact ⟨_, .unit small, .unit small⟩
    next visible => exact ⟨_, .plain unmarked (Nat.not_lt.1 visible), .plain c⟩

theorem Faithful.string? {write : Char → List Char} (faithful : Faithful write) (chars : List Char) (rest : Text) :
    Lexeme.string? (Text.ofChars (chars.flatMap write ++ ['"']) ++ rest) = some (Text.ofChars chars, rest) := by
  have whole : ∃ pieces, Reads (chars.flatMap write) pieces ∧ joinPieces pieces = Text.ofChars chars := by
    induction chars with
    | nil => exact ⟨[], .nil, rfl⟩
    | cons c more ih =>
      obtain ⟨later, reads, joined⟩ := ih
      obtain ⟨pieces, written, means⟩ := faithful c
      refine ⟨pieces ++ later, written.append reads, ?_⟩
      rw [means, joined]
      rfl
  obtain ⟨pieces, reads, joined⟩ := whole
  have closed : pieces? (.char '"' :: rest) = some ([], rest) := rfl
  rw [Text.ofChars_append, List.append_assoc, Lexeme.string?, reads]
  simp [Text.ofChars, closed, joined]

/-- In either way of writing, a quoted text is a mark, what is read back as the text, and a mark. -/
theorem Quoting.quote_string? (quoting : Quoting) (value : String) : ∃ inside,
    quoting.quote value = '"' :: inside ∧
    ∀ rest, Lexeme.string? (Text.ofChars inside ++ rest) = some (Text.ofString value, rest) := by
  cases quoting with
  | escaped =>
    refine ⟨_, rfl, fun rest => ?_⟩
    have same : (Text.ofString value).flatMap escapedPoint = value.toList.flatMap fun c => escapedPoint (.char c) :=
      List.flatMap_map _ _ _
    rw [same]
    exact escaped_faithful.string? value.toList rest
  | raw => exact ⟨_, rfl, fun rest => raw_faithful.string? value.toList rest⟩

end Json

end Credential
