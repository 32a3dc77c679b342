import Credential.Proofs.Json.Numbers
import Credential.Proofs.Number.Overflow

/-! The numbers of a text, as they are written. What a reader makes of one that has a fraction or an exponent is the
nearest number there is, and so what is written decides whether that is a finite one. -/

namespace Credential.Json

open Lexeme

/-- A number as it is written: the digits before the point, those after it, and the power of ten, if there are any. -/
structure Numeral where
  negative : Bool
  leading : List Char
  trailing : List Char
  power : Option Int

namespace Numeral

def digits (numeral : Numeral) : Nat := Text.decimalValue (numeral.leading ++ numeral.trailing)

def exponent (numeral : Numeral) : Int := numeral.power.getD 0 - numeral.trailing.length

def isInteger (numeral : Numeral) : Bool := numeral.trailing.isEmpty && numeral.power.isNone

/-- What is written, exactly, its sign apart. -/
def magnitude (numeral : Numeral) : ℚ := numeral.digits * 10 ^ numeral.exponent

def Overflows (numeral : Numeral) : Prop := numeral.isInteger = false ∧ Binary64.limit ≤ numeral.magnitude

def lexeme (numeral : Numeral) : Lexeme Text :=
  if numeral.isInteger then .int (if numeral.negative then -numeral.digits else numeral.digits)
  else .real (.ofDecimal numeral.negative numeral.digits numeral.exponent)

def unsigned? (negative : Bool) (source : Text) : Option (Numeral × Text) := do
  let (leading, rest) ← whole? source
  let (trailing, rest) := fraction rest
  match Lexeme.exponent? rest with
  | none => some (⟨negative, leading, trailing, none⟩, rest)
  | some (power, rest) => some (⟨negative, leading, trailing, some power⟩, rest)

def ofStart? : Text → Option (Numeral × Text)
  | .char '-' :: rest => unsigned? true rest
  | source => unsigned? false source

def within : Nat → Text → List Numeral
  | 0, _ => []
  | fuel + 1, source =>
    match source.dropWhile isBlank with
    | [] => []
    | source => match start? source with
      | some (_, rest) => ((ofStart? source).map Prod.fst).toList ++ within fuel rest
      | none => []

/-- The numbers that are written in a text where one of its lexemes starts. -/
def ofText (source : Text) : List Numeral := within source.length source

theorem number?_eq (negative : Bool) (source : Text) :
    number? negative source = (unsigned? negative source).map fun found => (found.1.lexeme, found.2) := by
  unfold number? unsigned?
  cases whole? source with
  | none => rfl
  | some found =>
    obtain ⟨leading, rest⟩ := found
    simp only [Option.bind_eq_bind, Option.bind_some]
    generalize fraction rest = parts
    obtain ⟨trailing, rest⟩ := parts
    dsimp only
    cases Lexeme.exponent? rest with
    | none => cases trailing <;> simp [lexeme, isInteger, digits, exponent]
    | some power => cases trailing <;> simp [lexeme, isInteger, digits, exponent]

theorem digits_starts {source : Text} (some : (Lexeme.digits source).1 ≠ []) :
    ∃ c more, source = .char c :: more ∧ c.isDigit = true := by
  unfold Lexeme.digits at some
  split at some
  next c more =>
    by_cases decimal : c.isDigit = true
    · exact ⟨c, more, rfl, decimal⟩
    · rw [if_neg decimal] at some
      exact absurd rfl some
  next => exact absurd rfl some

theorem whole?_starts {source rest : Text} {leading : List Char} (found : whole? source = some (leading, rest)) :
    ∃ c more, source = .char c :: more ∧ c.isDigit = true := by
  unfold whole? at found
  split at found
  next more => exact ⟨'0', more, rfl, rfl⟩
  next =>
    split at found
    next => cases found
    next given =>
      apply digits_starts
      intro empty
      exact given _ (Prod.ext empty rfl)

theorem unsigned?_starts {negative : Bool} {source rest : Text} {numeral : Numeral}
    (found : unsigned? negative source = some (numeral, rest)) :
    ∃ c more, source = .char c :: more ∧ c.isDigit = true := by
  obtain ⟨_, whole, -⟩ := Option.bind_eq_some_iff.1 found
  exact whole?_starts whole

theorem start?_of_ofStart? {source rest : Text} {numeral : Numeral} (found : ofStart? source = some (numeral, rest)) :
    start? source = some (numeral.lexeme, rest) := by
  unfold ofStart? at found
  split at found
  next after =>
    obtain ⟨c, more, rfl, decimal⟩ := unsigned?_starts found
    rw [start?_minus decimal, number?_eq, found]
    rfl
  next =>
    obtain ⟨c, more, rfl, decimal⟩ := unsigned?_starts found
    rw [start?_digit decimal, number?_eq, found]
    rfl

private theorem word?_lexeme {word : String} {lexeme other : Lexeme Text} {source rest : Text}
    (found : word? word lexeme source = some (other, rest)) : other = lexeme := by
  obtain ⟨_, -, same⟩ := Option.map_eq_some_iff.1 found
  exact (Prod.ext_iff.1 same).1.symm

private theorem word?_not_real {word : String} {lexeme : Lexeme Text} {source rest : Text} {value : Binary64}
    (other : lexeme ≠ .real value) : word? word lexeme source ≠ some (.real value, rest) :=
  fun found => other (word?_lexeme found).symm

theorem ofStart?_of_real {source rest : Text} {value : Binary64} (found : start? source = some (.real value, rest)) :
    ∃ numeral, ofStart? source = some (numeral, rest) ∧ numeral.lexeme = .real value := by
  have written : ∀ {negative source}, number? negative source = some (.real value, rest) →
      ∃ numeral, unsigned? negative source = some (numeral, rest) ∧ numeral.lexeme = .real value := by
    intro negative source found
    rw [number?_eq] at found
    obtain ⟨⟨numeral, _⟩, unsigned, same⟩ := Option.map_eq_some_iff.1 found
    obtain ⟨real, rfl⟩ := Prod.ext_iff.1 same
    exact ⟨numeral, unsigned, real⟩
  unfold start? at found
  split at found
  iterate 6 next => cases found
  next =>
    obtain ⟨_, -, same⟩ := Option.map_eq_some_iff.1 found
    cases same
  next =>
    split at found
    next named =>
      rw [Option.some.inj found] at named
      exact absurd named (word?_not_real nofun)
    next => exact written found
  iterate 5 next => exact absurd found (word?_not_real nofun)
  next unlike _ =>
    obtain ⟨numeral, unsigned, real⟩ := written found
    refine ⟨numeral, ?_, real⟩
    unfold ofStart?
    split
    next after => simp_all
    next => exact unsigned

/-- Whether the lexeme that starts here is a real number depends on what is written here. -/
theorem real_iff {place rest : Text} {lexeme : Lexeme Text} {value : Binary64}
    (found : start? place = some (lexeme, rest)) :
    lexeme = .real value ↔ ∃ numeral ∈ ((ofStart? place).map Prod.fst).toList, numeral.lexeme = .real value := by
  simp only [Option.mem_toList, Option.map_eq_some_iff, Prod.exists, exists_and_right, exists_eq_right]
  constructor
  · rintro rfl
    obtain ⟨numeral, written, real⟩ := ofStart?_of_real found
    exact ⟨numeral, ⟨rest, written⟩, real⟩
  · rintro ⟨numeral, ⟨_, written⟩, real⟩
    cases found.symm.trans (start?_of_ofStart? written)
    exact real

theorem mem_within_iff {fuel : Nat} {source : Text} {value : Binary64} :
    .real value ∈ Lexeme.within fuel source ↔ ∃ numeral ∈ within fuel source, numeral.lexeme = .real value := by
  induction fuel generalizing source with
  | zero => simp [Lexeme.within, within]
  | succ fuel ih =>
    rw [Lexeme.within, within]
    generalize source.dropWhile isBlank = place
    cases place with
    | nil => simp
    | cons point more =>
      cases found : start? (point :: more) with
      | none => simp [found]
      | some parts =>
        obtain ⟨lexeme, rest⟩ := parts
        simp only [found, List.mem_cons, List.mem_append, ih, or_and_right, exists_or]
        rw [eq_comm, real_iff found]

/-- A number that is written is read as one that is finite, or is too large and read as infinite with its sign. -/
theorem lexeme_cases (numeral : Numeral) : (numeral.Overflows ∧ numeral.lexeme = .real (.infinity numeral.negative)) ∨
    (¬numeral.Overflows ∧ ∀ value, numeral.lexeme = .real value → value.isFinite = true) := by
  obtain ⟨infinite, finite⟩ := Binary64.ofDecimal_limit numeral.negative numeral.digits numeral.exponent
  unfold lexeme Overflows
  split
  next integer =>
    refine .inr ⟨fun overflows => ?_, nofun⟩
    exact absurd integer (Bool.eq_false_iff.1 overflows.1)
  next real =>
    rcases le_or_gt Binary64.limit numeral.magnitude with reaches | short
    · exact .inl ⟨⟨Bool.eq_false_iff.2 real, reaches⟩, congrArg Lexeme.real (infinite reaches)⟩
    · refine .inr ⟨fun overflows => not_le.2 short overflows.2, fun value same => ?_⟩
      cases same
      exact finite short

theorem lexeme_infinity_iff {numeral : Numeral} {negative : Bool} :
    numeral.lexeme = .real (.infinity negative) ↔ numeral.Overflows ∧ numeral.negative = negative := by
  rcases numeral.lexeme_cases with ⟨overflows, infinite⟩ | ⟨fits, finite⟩
  · simp [infinite, overflows]
  · refine iff_of_false (fun same => ?_) fun parts => fits parts.1
    cases finite _ same

theorem lexeme_ne_nan (numeral : Numeral) : numeral.lexeme ≠ .real .nan := by
  intro same
  rcases numeral.lexeme_cases with ⟨-, infinite⟩ | ⟨-, finite⟩
  · cases infinite.symm.trans same
  · cases finite _ same

theorem infinity_mem_iff {source : Text} {negative : Bool} : .real (.infinity negative) ∈ Lexeme.ofText source ↔
    ∃ numeral ∈ ofText source, numeral.Overflows ∧ numeral.negative = negative := by
  rw [Lexeme.ofText, mem_within_iff]
  simp only [lexeme_infinity_iff]
  rfl

theorem nan_not_mem (source : Text) : .real .nan ∉ Lexeme.ofText source := by
  intro among
  obtain ⟨numeral, -, same⟩ := mem_within_iff.1 among
  exact numeral.lexeme_ne_nan same

end Numeral

end Credential.Json
