import Credential.Json.Described
import Credential.Proofs.Json.Numbers

/-! A compact text falls into the lexemes it was written from. Only the end of a number depends on what follows,
and in a compact text a comma, a closing bracket or nothing does. -/

namespace Credential.Json

open Lexeme

/-- The same lexeme as a reader finds it. -/
def Lexeme.seen : Lexeme String → Lexeme Text
  | .openArray => .openArray
  | .closeArray => .closeArray
  | .openObject => .openObject
  | .closeObject => .closeObject
  | .comma => .comma
  | .colon => .colon
  | .null => .null
  | .bool value => .bool value
  | .int value => .int value
  | .real value => .real (readBack value)
  | .constant name => .constant name
  | .string value => .string (Text.ofString value)
  | .junk => .junk

/-- A lexeme that is read alike wherever it is written before this rest. -/
def Lexeme.StandsBefore (rest : Text) : Lexeme String → Prop
  | .constant _ => False
  | .junk => False
  | .int _ => Ends rest
  | .real value => value.isFinite = true ∧ Ends rest
  | _ => True

/-- Whatever the lexeme, it is found again at the start, and the text does not start with a blank. -/
theorem start?_spell {lexeme : Lexeme String} {rest : Text} (quoting : Quoting) (stands : lexeme.StandsBefore rest) :
    start? (Text.ofChars (lexeme.spell quoting.quote) ++ rest) = some (lexeme.seen, rest) := by
  cases lexeme with
  | openArray => rfl
  | closeArray => rfl
  | openObject => rfl
  | closeObject => rfl
  | comma => rfl
  | colon => rfl
  | null => rfl
  | bool value => cases value <;> rfl
  | int value => exact start?_intText value stands
  | real value => exact start?_realText stands.1 stands.2
  | constant name => cases stands
  | string value =>
    obtain ⟨inside, quoted, read⟩ := quoting.quote_string? value
    have opened : Text.ofChars (quoting.quote value) ++ rest = .char '"' :: (Text.ofChars inside ++ rest) := by
      rw [quoted]
      rfl
    rw [Lexeme.spell, opened, start?, read]
    rfl
  | junk => cases stands

private theorem spell_ne_nil {lexeme : Lexeme String} {rest : Text} (quoting : Quoting)
    (stands : lexeme.StandsBefore rest) : lexeme.spell quoting.quote ≠ [] := by
  cases lexeme with
  | openArray => simp [Lexeme.spell]
  | closeArray => simp [Lexeme.spell]
  | openObject => simp [Lexeme.spell]
  | closeObject => simp [Lexeme.spell]
  | comma => simp [Lexeme.spell]
  | colon => simp [Lexeme.spell]
  | null => simp [Lexeme.spell]
  | bool value => cases value <;> simp [Lexeme.spell]
  | int value =>
    change intText value ≠ []
    unfold intText
    split
    · exact List.cons_ne_nil _ _
    · exact Nat.toDigits_ne_nil
  | real value => exact realText_ne_nil stands.1
  | constant name => cases stands
  | string value =>
    obtain ⟨inside, quoted, _⟩ := quoting.quote_string? value
    rw [Lexeme.spell, quoted]
    exact List.cons_ne_nil _ _
  | junk => cases stands

private theorem start?_blank {point : CodePoint} {more : Text} (blank : isBlank point = true) :
    start? (point :: more) = none := by
  simp only [isBlank, Bool.or_eq_true, decide_eq_true_eq] at blank
  rcases blank with ((rfl | rfl) | rfl) | rfl <;> rfl

/-- However far a reader may go, it finds these lexemes. -/
def Scans (source : Text) (found : List (Lexeme Text)) : Prop :=
  ∀ fuel, source.length ≤ fuel → within fuel source = found

theorem Scans.nil : Scans [] [] := by
  intro fuel _
  cases fuel <;> rfl

theorem Scans.cons {lexeme : Lexeme String} {rest : Text} {found : List (Lexeme Text)} (quoting : Quoting)
    (stands : lexeme.StandsBefore rest) (scans : Scans rest found) :
    Scans (Text.ofChars (lexeme.spell quoting.quote) ++ rest) (lexeme.seen :: found) := by
  have starts := start?_spell quoting stands
  intro fuel enough
  cases spelled : Text.ofChars (lexeme.spell quoting.quote) with
  | nil => exact absurd (List.map_eq_nil_iff.1 spelled) (spell_ne_nil quoting stands)
  | cons point more =>
    rw [spelled] at starts enough
    cases fuel with
    | zero => cases enough
    | succ fuel =>
      have solid : isBlank point = false := by
        apply Bool.eq_false_iff.2
        intro blank
        rw [List.cons_append, start?_blank blank] at starts
        cases starts
      have later := scans fuel (by simp only [List.cons_append, List.length_cons, List.length_append] at enough; omega)
      rw [List.cons_append] at starts
      simp only [within, List.cons_append, List.dropWhile_cons, solid, Bool.false_eq_true, if_false, starts, later]

mutual

/-- A value that a compact text can say: its numbers are finite, and no object has two members of one name. -/
def Legible : Json String → Prop
  | .real value => value.isFinite = true
  | .array items => LegibleItems items
  | .object members => (Assoc.names members).Nodup ∧ LegibleMembers members
  | _ => True

def LegibleItems : List (Json String) → Prop
  | [] => True
  | item :: rest => Legible item ∧ LegibleItems rest

def LegibleMembers : List (String × Json String) → Prop
  | [] => True
  | (_, value) :: rest => Legible value ∧ LegibleMembers rest

end

section Writing

variable (quoting : Quoting)

def written (lexemes : List (Lexeme String)) : Text := Text.ofChars (lexemes.flatMap (Lexeme.spell quoting.quote))

theorem written_cons (lexeme : Lexeme String) (rest : List (Lexeme String)) :
    written quoting (lexeme :: rest) = Text.ofChars (lexeme.spell quoting.quote) ++ written quoting rest := by
  rw [written, List.flatMap_cons, Text.ofChars_append, written]

theorem written_append (first second : List (Lexeme String)) :
    written quoting (first ++ second) = written quoting first ++ written quoting second := by
  rw [written, List.flatMap_append, Text.ofChars_append, written, written]

variable {quoting}

private theorem Scans.prepend {lexeme : Lexeme String} {lexemes : List (Lexeme String)} {rest : Text}
    {found : List (Lexeme Text)} (scans : Scans (written quoting lexemes ++ rest) (lexemes.map Lexeme.seen ++ found))
    (stands : lexeme.StandsBefore (written quoting lexemes ++ rest)) :
    Scans (written quoting (lexeme :: lexemes) ++ rest) ((lexeme :: lexemes).map Lexeme.seen ++ found) := by
  rw [written_cons, List.append_assoc]
  exact .cons quoting stands scans

private theorem Scans.single {lexeme : Lexeme String} {rest : Text} {found : List (Lexeme Text)}
    (scans : Scans rest found) (stands : lexeme.StandsBefore rest) :
    Scans (written quoting [lexeme] ++ rest) ([lexeme].map Lexeme.seen ++ found) :=
  @Scans.prepend quoting lexeme [] rest found scans stands

private theorem laterItems_ends (items : List (Json String)) (rest : Text) :
    Ends (written quoting (laterItems items) ++ rest) := by
  cases items with
  | nil => exact .inr (.inl rfl)
  | cons item more => exact .inl rfl

private theorem laterMembers_ends (members : List (String × Json String)) (rest : Text) :
    Ends (written quoting (laterMembers members) ++ rest) := by
  cases members with
  | nil => exact .inr (.inr rfl)
  | cons member more => exact .inl rfl

private theorem Scans.followed {first second : List (Lexeme String)} {rest : Text} {found : List (Lexeme Text)}
    (scans : Scans (written quoting first ++ (written quoting second ++ rest))
      (first.map Lexeme.seen ++ (second.map Lexeme.seen ++ found))) :
    Scans (written quoting (first ++ second) ++ rest) ((first ++ second).map Lexeme.seen ++ found) := by
  rw [written_append, List.map_append, List.append_assoc, List.append_assoc]
  exact scans

mutual

/-- A value before an end is scanned as its own lexemes, whatever comes after the end. -/
theorem Scans.lexemes : ∀ {value : Json String}, value.Legible → ∀ {rest : Text} {found : List (Lexeme Text)},
    Ends rest → Scans rest found →
    Scans (written quoting value.lexemes ++ rest) (value.lexemes.map Lexeme.seen ++ found)
  | .null, _, _, _, _, scans => .single scans trivial
  | .bool _, _, _, _, _, scans => .single scans trivial
  | .int _, _, _, _, ends, scans => .single scans ends
  | .real _, finite, _, _, ends, scans => .single scans ⟨finite, ends⟩
  | .string _, _, _, _, _, scans => .single scans trivial
  | .array [], _, _, _, _, scans => .prepend (.single scans trivial) trivial
  | .array (_ :: items), sound, rest, _, _, scans => by
    have later := Scans.laterItems sound.2 scans
    have whole := Scans.lexemes sound.1 (laterItems_ends items rest) later
    exact .prepend (.followed whole) trivial
  | .object [], _, _, _, _, scans => .prepend (.single scans trivial) trivial
  | .object ((_, _) :: members), sound, rest, _, _, scans => by
    have later := Scans.laterMembers sound.2.2 scans
    have whole := Scans.lexemes sound.2.1 (laterMembers_ends members rest) later
    exact .prepend (.prepend (.prepend (.followed whole) trivial) trivial) trivial

theorem Scans.laterItems : ∀ {items : List (Json String)}, LegibleItems items → ∀ {rest : Text}
    {found : List (Lexeme Text)}, Scans rest found →
    Scans (written quoting (Json.laterItems items) ++ rest) ((Json.laterItems items).map Lexeme.seen ++ found)
  | [], _, _, _, scans => .single scans trivial
  | _ :: items, sound, rest, _, scans => by
    have later := Scans.laterItems sound.2 scans
    have whole := Scans.lexemes sound.1 (laterItems_ends items rest) later
    exact .prepend (.followed whole) trivial

theorem Scans.laterMembers : ∀ {members : List (String × Json String)}, LegibleMembers members → ∀ {rest : Text}
    {found : List (Lexeme Text)}, Scans rest found →
    Scans (written quoting (Json.laterMembers members) ++ rest) ((Json.laterMembers members).map Lexeme.seen ++ found)
  | [], _, _, _, scans => .single scans trivial
  | (_, _) :: members, sound, rest, _, scans => by
    have later := Scans.laterMembers sound.2 scans
    have whole := Scans.lexemes sound.1 (laterMembers_ends members rest) later
    exact .prepend (.prepend (.prepend (.followed whole) trivial) trivial) trivial

end

theorem ofText_render {value : Json String} (sound : value.Legible) :
    Lexeme.ofText (Text.ofChars (value.render quoting.quote)) = value.lexemes.map Lexeme.seen := by
  have nothing : Ends [] := trivial
  have scans : Scans (written quoting value.lexemes ++ []) _ := Scans.lexemes sound nothing .nil
  rw [List.append_nil, List.append_nil] at scans
  exact scans _ (Nat.le_refl _)

end Writing

end Credential.Json
