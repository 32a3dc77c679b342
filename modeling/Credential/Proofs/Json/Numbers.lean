import Credential.Json.Printer
import Credential.Proofs.Json.Strings

/-! A written number is read up to its end. That depends on what follows, and in a compact text a comma, a closing
bracket or nothing does. An integer is read as itself. The text of any other finite number is one number too, which
has a fraction or an exponent. -/

namespace Credential.Json

open Lexeme

/-- Nothing here could belong to a number that ended before. -/
def Ends : Text → Prop
  | [] => True
  | point :: _ => point = .char ',' ∨ point = .char ']' ∨ point = .char '\x7d'

section Parts

variable {found : List Char} {rest : Text}

private theorem digits_ends (ends : Ends rest) : digits rest = ([], rest) := by
  cases rest with
  | nil => rfl
  | cons point more => rcases ends with rfl | rfl | rfl <;> rfl

private theorem fraction_ends (ends : Ends rest) : fraction rest = ([], rest) := by
  cases rest with
  | nil => rfl
  | cons point more => rcases ends with rfl | rfl | rfl <;> rfl

private theorem exponent?_ends (ends : Ends rest) : exponent? rest = none := by
  cases rest with
  | nil => rfl
  | cons point more => rcases ends with rfl | rfl | rfl <;> rfl

def Decimal (found : List Char) : Prop := ∀ c ∈ found, c.isDigit = true

/-- What may stand before a point: a zero alone, or digits that start with another one. -/
def Leading (found : List Char) : Prop :=
  found = ['0'] ∨ ∃ c more, found = c :: more ∧ c ≠ '0' ∧ Decimal found

private theorem digits_append (decimal : Decimal found) (stops : digits rest = ([], rest)) :
    digits (Text.ofChars found ++ rest) = (found, rest) := by
  induction found with
  | nil => exact stops
  | cons c more ih =>
    have later : digits (more.map .char ++ rest) = (more, rest) :=
      ih fun d member => decimal d (List.mem_cons_of_mem c member)
    have here : c.isDigit = true := decimal c List.mem_cons_self
    rw [Text.ofChars, List.map_cons, List.cons_append, digits, if_pos here, later]

private theorem whole?_leading (leading : Leading found) (stops : digits rest = ([], rest)) :
    whole? (Text.ofChars found ++ rest) = some (found, rest) := by
  rcases leading with rfl | ⟨c, more, rfl, other, decimal⟩
  · rfl
  · have read := digits_append decimal stops
    rw [whole?.eq_def]
    split
    next same =>
      rw [Text.ofChars, List.map_cons, List.cons_append] at same
      exact absurd (CodePoint.char.inj (List.cons.inj same).1) other
    next => rw [read]

private theorem Leading.starts (leading : Leading found) : ∃ c more, found = c :: more ∧ c.isDigit = true := by
  rcases leading with rfl | ⟨c, more, rfl, _, decimal⟩
  · exact ⟨'0', [], rfl, rfl⟩
  · exact ⟨c, more, rfl, decimal c List.mem_cons_self⟩

theorem toDigits_decimal (number : Nat) : Decimal (Nat.toDigits 10 number) :=
  fun _ member => Nat.isDigit_of_mem_toDigits (by decide) (by decide) member

theorem toDigits_leading {number : Nat} (positive : 0 < number) :
    ∃ c more, Nat.toDigits 10 number = c :: more ∧ c ≠ '0' := by
  induction number using Nat.strongRecOn with
  | ind number ih =>
    by_cases small : number < 10
    · have every : ∀ digit : Fin 10, 0 < digit.val → digit.val.digitChar ≠ '0' := by decide
      exact ⟨_, [], Nat.toDigits_of_lt_base small, every ⟨number, small⟩ positive⟩
    · obtain ⟨c, more, written, other⟩ := ih (number / 10) (by omega) (by omega)
      refine ⟨c, more ++ [(number % 10).digitChar], ?_, other⟩
      rw [Nat.toDigits_of_base_le (by decide) (Nat.not_lt.1 small), written, List.cons_append]

private theorem leading_toDigits (number : Nat) : Leading (Nat.toDigits 10 number) := by
  rcases Nat.eq_zero_or_pos number with rfl | positive
  · exact .inl rfl
  · obtain ⟨c, more, written, other⟩ := toDigits_leading positive
    exact .inr ⟨c, more, written, other, toDigits_decimal number⟩

private theorem decimalValue_toDigits (number : Nat) : Text.decimalValue (Nat.toDigits 10 number) = number := by
  have same := Nat.ofDigitChars_ten_toDigits (n := number)
  unfold Nat.ofDigitChars at same
  unfold Text.decimalValue
  simpa only [Nat.mul_comm] using same

private theorem signed_natAbs (value : Int) :
    (if value < 0 then -(value.natAbs : Int) else value.natAbs) = value := by
  split <;> omega

end Parts

section Starts

variable {rest : Text}

theorem start?_digit {c : Char} (decimal : c.isDigit = true) (more : Text) :
    start? (.char c :: more) = number? false (.char c :: more) := by
  rw [start?.eq_def]
  split
  all_goals first
    | rfl
    | exact absurd decimal (by simp_all)

theorem start?_minus {c : Char} (decimal : c.isDigit = true) (more : Text) :
    start? (.char '-' :: .char c :: more) = number? true (.char c :: more) := by
  have other : c ≠ 'I' := by
    intro same
    rw [same] at decimal
    cases decimal
  have unnamed : word? "Infinity" (.constant .negativeInfinity) (.char c :: more) = none := by
    have spelled : "Infinity".toList = 'I' :: "nfinity".toList := rfl
    rw [word?, spelled, after?, if_neg (Ne.symm other)]
    rfl
  rw [start?, unnamed]

def minus (negative : Bool) : List Char := if negative then ['-'] else []

theorem start?_signed {leading : List Char} (starts : ∃ c more, leading = c :: more ∧ c.isDigit = true)
    (negative : Bool) : start? (Text.ofChars (minus negative ++ leading) ++ rest) =
      number? negative (Text.ofChars leading ++ rest) := by
  obtain ⟨c, more, rfl, decimal⟩ := starts
  cases negative with
  | false => exact start?_digit decimal _
  | true => exact start?_minus decimal _

end Starts

section Integers

variable {rest : Text}

private theorem number?_toDigits (negative : Bool) (number : Nat) (ends : Ends rest) :
    number? negative (Text.ofChars (Nat.toDigits 10 number) ++ rest) =
      some (.int (if negative then -(number : Int) else number), rest) := by
  rw [number?, whole?_leading (leading_toDigits number) (digits_ends ends)]
  simp only [Option.bind_eq_bind, Option.bind_some, fraction_ends ends, exponent?_ends ends,
    decimalValue_toDigits]

theorem start?_intText (value : Int) (ends : Ends rest) :
    start? (Text.ofChars (intText value) ++ rest) = some (.int value, rest) := by
  have spelled : intText value = minus (decide (value < 0)) ++ Nat.toDigits 10 value.natAbs := by
    unfold intText minus
    split
    next negative => simp [negative]
    next positive => simp [positive]
  rw [spelled, start?_signed (leading_toDigits _).starts, number?_toDigits _ _ ends]
  simp only [decide_eq_true_eq, signed_natAbs]

end Integers

section Reals

variable {found : List Char} {rest : Text}

def pointed : List Char → List Char
  | [] => []
  | found => '.' :: found

def marked : Option Int → List Char
  | none => []
  | some power => Binary64.exponentText power

/-- A number that is not spelled as an integer is. -/
def Spelled (chars : List Char) : Prop :=
  ∃ leading trailing power, chars = leading ++ pointed trailing ++ marked power ∧ Leading leading ∧
    Decimal trailing ∧ (trailing ≠ [] ∨ power ≠ none)

private theorem fraction_pointed (decimal : Decimal found) (stops : digits rest = ([], rest))
    (clear : fraction rest = ([], rest)) : fraction (Text.ofChars (pointed found) ++ rest) = (found, rest) := by
  cases found with
  | nil => exact clear
  | cons c more =>
    have read := digits_append decimal stops
    change fraction (.char '.' :: (Text.ofChars (c :: more) ++ rest)) = _
    rw [fraction, read]

private theorem exponentText_digits (power : Int) :
    ∃ c more, Binary64.exponentText power = 'e' :: (if power < 0 then '-' else '+') :: c :: more ∧
      Decimal (c :: more) ∧ Text.decimalValue (c :: more) = power.natAbs := by
  by_cases short : (Nat.toDigits 10 power.natAbs).length < 2
  · refine ⟨'0', Nat.toDigits 10 power.natAbs, ?_, ?_, decimalValue_toDigits _⟩
    · simp only [Binary64.exponentText, if_pos short]
    · intro c member
      rcases List.mem_cons.1 member with rfl | later
      · rfl
      · exact toDigits_decimal _ c later
  · obtain ⟨c, more, written⟩ := List.exists_cons_of_ne_nil (Nat.toDigits_ne_nil (b := 10) (n := power.natAbs))
    refine ⟨c, more, ?_, written ▸ toDigits_decimal _, written ▸ decimalValue_toDigits _⟩
    rw [written] at short
    simp only [Binary64.exponentText, written, if_neg short]

private theorem exponent?_exponentText (power : Int) (ends : Ends rest) :
    exponent? (Text.ofChars (Binary64.exponentText power) ++ rest) = some (power, rest) := by
  obtain ⟨c, more, written, decimal, value⟩ := exponentText_digits power
  have read := digits_append decimal (digits_ends ends)
  have sign : signed (.char (if power < 0 then '-' else '+') :: (Text.ofChars (c :: more) ++ rest)) =
      (decide (power < 0), Text.ofChars (c :: more) ++ rest) := by
    by_cases negative : power < 0
    · simp only [negative, if_true, decide_true, signed]
    · simp only [negative, if_false, decide_false, signed]
  have spelled : Text.ofChars (Binary64.exponentText power) ++ rest =
      .char 'e' :: .char (if power < 0 then '-' else '+') :: (Text.ofChars (c :: more) ++ rest) := by
    rw [written]
    rfl
  rw [spelled, exponent?, if_pos (.inl rfl), sign]
  simp only [read, value, decide_eq_true_eq, signed_natAbs]

private theorem marked_ends (power : Option Int) (ends : Ends rest) :
    digits (Text.ofChars (marked power) ++ rest) = ([], Text.ofChars (marked power) ++ rest) ∧
      fraction (Text.ofChars (marked power) ++ rest) = ([], Text.ofChars (marked power) ++ rest) ∧
      exponent? (Text.ofChars (marked power) ++ rest) = power.map (·, rest) := by
  cases power with
  | none => exact ⟨digits_ends ends, fraction_ends ends, exponent?_ends ends⟩
  | some power => exact ⟨rfl, rfl, exponent?_exponentText power ends⟩

theorem Spelled.number? {chars : List Char} (spelled : Spelled chars) (negative : Bool) :
    ∃ value, ∀ rest, Ends rest →
      Lexeme.number? negative (Text.ofChars chars ++ rest) = some (.real value, rest) := by
  obtain ⟨leading, trailing, power, rfl, first, decimal, proper⟩ := spelled
  refine ⟨.ofDecimal negative (Text.decimalValue (leading ++ trailing)) (power.getD 0 - trailing.length), ?_⟩
  intro rest ends
  obtain ⟨stops, clear, raised⟩ := marked_ends power ends
  have after : digits (Text.ofChars (pointed trailing) ++ (Text.ofChars (marked power) ++ rest)) =
      ([], Text.ofChars (pointed trailing) ++ (Text.ofChars (marked power) ++ rest)) := by
    cases trailing with
    | nil => exact stops
    | cons c more => rfl
  rw [Text.ofChars_append, Text.ofChars_append, List.append_assoc, List.append_assoc, Lexeme.number?,
    whole?_leading first after]
  simp only [Option.bind_eq_bind, Option.bind_some, fraction_pointed decimal stops clear, raised]
  cases power with
  | some power => rfl
  | none =>
    cases trailing with
    | nil => exact absurd rfl (proper.resolve_right (absurd rfl))
    | cons c more => rfl

theorem Spelled.starts {chars : List Char} (spelled : Spelled chars) :
    ∃ c more, chars = c :: more ∧ c.isDigit = true := by
  obtain ⟨leading, trailing, power, rfl, first, -⟩ := spelled
  obtain ⟨c, more, rfl, decimal⟩ := first.starts
  exact ⟨c, _, rfl, decimal⟩

private theorem zeros_decimal (count : Nat) : Decimal (List.replicate count '0') := by
  intro c member
  rw [List.eq_of_mem_replicate member]
  rfl

private theorem spelled_zero : Spelled "0.0".toList :=
  ⟨['0'], ['0'], none, rfl, .inl rfl, zeros_decimal 1, .inl (List.cons_ne_nil _ _)⟩

private theorem dropZeros_cons {c : Char} (other : c ≠ '0') (more : List Char) :
    Binary64.dropZeros (c :: more) = c :: Binary64.dropZeros more := by
  have stays : ([c] : List Char).dropWhile (· = '0') = [c] := by simp [other]
  simp only [Binary64.dropZeros, List.reverse_cons, List.dropWhile_append, stays]
  split
  next empty => simp [List.isEmpty_iff.1 empty]
  next => simp

private theorem dropZeros_decimal (decimal : Decimal found) : Decimal (Binary64.dropZeros found) := by
  intro c member
  have inside := List.dropWhile_subset _ (List.mem_reverse.1 member)
  exact decimal c (List.mem_reverse.1 inside)

private theorem Decimal.append {first second : List Char} (one : Decimal first) (two : Decimal second) :
    Decimal (first ++ second) := by
  intro c member
  exact (List.mem_append.1 member).elim (one c) (two c)

section Layout

variable {c : Char} {more : List Char}

private theorem spelled_raised (other : c ≠ '0') (whole : Decimal (c :: more)) (power : Int) :
    Spelled (c :: pointed more ++ Binary64.exponentText power) := by
  have single : Decimal [c] := fun d member => whole d (List.mem_singleton.1 member ▸ List.mem_cons_self)
  exact ⟨[c], more, some power, rfl, .inr ⟨c, [], rfl, other, single⟩,
    fun d member => whole d (List.mem_cons_of_mem c member), .inr nofun⟩

private theorem spelled_below (whole : Decimal (c :: more)) (zeros : Nat) :
    Spelled ('0' :: '.' :: List.replicate zeros '0' ++ c :: more) := by
  have proper : List.replicate zeros '0' ++ c :: more ≠ [] := List.append_ne_nil_of_right_ne_nil _ (List.cons_ne_nil c more)
  refine ⟨['0'], List.replicate zeros '0' ++ c :: more, none, ?_, .inl rfl, (zeros_decimal zeros).append whole, .inl proper⟩
  obtain ⟨d, tail, same⟩ := List.exists_cons_of_ne_nil proper
  simp only [List.cons_append, List.nil_append, same, pointed, marked, List.append_nil]

private theorem spelled_above (other : c ≠ '0') (whole : Decimal (c :: more)) (zeros : Nat) :
    Spelled (c :: more ++ List.replicate zeros '0' ++ ['.', '0']) := by
  refine ⟨c :: more ++ List.replicate zeros '0', ['0'], none, ?_, ?_, zeros_decimal 1, .inl (List.cons_ne_nil _ _)⟩
  · simp only [pointed, marked, List.append_nil]
  · exact .inr ⟨c, more ++ List.replicate zeros '0', rfl, other, whole.append (zeros_decimal zeros)⟩

private theorem spelled_between (other : c ≠ '0') (whole : Decimal (c :: more)) {before : Nat}
    (inside : before < more.length) :
    Spelled ((c :: more).take (before + 1) ++ '.' :: (c :: more).drop (before + 1)) := by
  have after : more.drop before ≠ [] := fun empty => Nat.not_le.2 inside (List.drop_eq_nil_iff.1 empty)
  obtain ⟨d, tail, same⟩ := List.exists_cons_of_ne_nil after
  refine ⟨c :: more.take before, more.drop before, none, ?_, .inr ⟨c, more.take before, rfl, other, ?_⟩, ?_, .inl after⟩
  · simp only [List.take_succ_cons, List.drop_succ_cons, same, pointed, marked, List.append_nil]
  · exact fun d member => whole d (List.mem_of_mem_take (i := before + 1) member)
  · exact fun d member => whole d (List.mem_cons_of_mem c (List.mem_of_mem_drop member))

/-- Wherever the point falls among its digits, a decimal is spelled as a number. -/
private theorem layout_spelled {decimal : Binary64.Decimal} (positive : 0 < decimal.digits) :
    Spelled (Binary64.layout decimal) := by
  obtain ⟨c, more, written, other⟩ := toDigits_leading positive
  have digits : Binary64.dropZeros (Nat.toDigits 10 decimal.digits) = c :: Binary64.dropZeros more := by
    rw [written, dropZeros_cons other]
  have whole : Decimal (c :: Binary64.dropZeros more) := digits ▸ dropZeros_decimal (toDigits_decimal decimal.digits)
  unfold Binary64.layout
  simp only [digits]
  generalize Binary64.dropZeros more = later at whole
  generalize decimal.exponent + (Nat.toDigits 10 decimal.digits).length = point
  split
  · have raised := spelled_raised other whole (point - 1)
    cases later with
    | nil => exact raised
    | cons d tail => exact raised
  · split
    · exact spelled_below whole _
    next high =>
      split
      · exact spelled_above other whole _
      next inside =>
        obtain ⟨before, same⟩ : ∃ before, point.toNat = before + 1 := ⟨point.toNat - 1, by omega⟩
        rw [same] at inside ⊢
        exact spelled_between other whole (by rw [List.length_cons] at inside; omega)

end Layout

private theorem neighbour?_positive {mantissa count : Nat} {binary : Int} {decimal : Binary64.Decimal}
    (proper : mantissa ≠ 0) (found : Binary64.neighbour? mantissa binary count = some decimal) :
    0 < decimal.digits := by
  obtain ⟨digits, first, rfl⟩ := Option.map_eq_some_iff.1 found
  have reads := List.find?_some first
  replace reads := of_decide_eq_true reads
  apply Nat.pos_of_ne_zero
  rintro rfl
  rw [Binary64.ofDecimal, if_pos rfl] at reads
  exact proper (Binary64.finite.inj reads).2.1.symm

private theorem shortest_spelled {mantissa : Nat} (binary : Int) (proper : mantissa ≠ 0) :
    Spelled (Binary64.layout (Binary64.shortest mantissa binary)) := by
  unfold Binary64.shortest
  cases searched : (List.range 17).findSome? fun count => Binary64.neighbour? mantissa binary (count + 1) with
  | none => exact spelled_zero
  | some decimal =>
    obtain ⟨count, -, found⟩ := List.exists_of_findSome?_eq_some searched
    exact layout_spelled (neighbour?_positive proper found)

theorem realText_spelled {value : Binary64} (finite : value.isFinite = true) :
    ∃ negative chars, realText value = minus negative ++ chars ∧ Spelled chars := by
  cases value with
  | nan => cases finite
  | infinity negative => cases finite
  | finite negative mantissa binary =>
    refine ⟨negative, _, rfl, ?_⟩
    split
    · exact spelled_zero
    next proper => exact shortest_spelled binary proper

theorem realText_ne_nil {value : Binary64} (finite : value.isFinite = true) : realText value ≠ [] := by
  obtain ⟨negative, chars, written, spelled⟩ := realText_spelled finite
  obtain ⟨c, more, rfl, -⟩ := spelled.starts
  rw [written]
  exact List.append_ne_nil_of_right_ne_nil _ (List.cons_ne_nil c more)

def readBack (value : Binary64) : Binary64 :=
  match start? (Text.ofChars (realText value)) with
  | some (.real found, _) => found
  | _ => value

theorem start?_realText {value : Binary64} (finite : value.isFinite = true) (ends : Ends rest) :
    start? (Text.ofChars (realText value) ++ rest) = some (.real (readBack value), rest) := by
  obtain ⟨negative, chars, written, spelled⟩ := realText_spelled finite
  obtain ⟨found, reads⟩ := spelled.number? negative
  have starts : ∀ rest, Ends rest → start? (Text.ofChars (realText value) ++ rest) = some (.real found, rest) := by
    intro rest ends
    rw [written, start?_signed spelled.starts, reads rest ends]
  have alone := starts [] trivial
  rw [List.append_nil] at alone
  have same : readBack value = found := by simp only [readBack, alone]
  rw [same]
  exact starts rest ends

end Reals

end Credential.Json
