import Mathlib.Algebra.Order.Field.Power
import Mathlib.Algebra.Order.Ring.Rat
import Mathlib.Tactic.Linarith
import Mathlib.Tactic.Ring
import Credential.Number.Binary64

/-! When a number is too large for a finite one. The largest finite number and the next power of two are equally near
to the number half-way between them, of the two that power has the even mantissa, and so rounding ends at infinity
from there on, and not before. -/

namespace Credential.Binary64

/-- Half-way from the largest finite number to the power of two above it. -/
def limit : ℚ := 2 ^ 1024 - 2 ^ 970

theorem limit_eq : limit = (2 ^ 54 - 1) * 2 ^ (970 : Int) := by
  have doubled : (2 : ℚ) ^ 1024 = 2 ^ 54 * 2 ^ 970 := by rw [← pow_add]
  have same : (2 : ℚ) ^ (970 : Int) = 2 ^ 970 := zpow_ofNat 2 970
  rw [limit, doubled, same, sub_mul, one_mul]

theorem limit_bounds : (2 : ℚ) ^ (1023 : Int) < limit ∧ limit < 2 ^ (1024 : Int) := by
  have positive : (0 : ℚ) < 2 ^ (970 : Int) := zpow_pos (by norm_num) _
  have two : (2 : ℚ) ≠ 0 := by norm_num
  have lower : (2 : ℚ) ^ (1023 : Int) = 2 ^ (53 : Int) * 2 ^ (970 : Int) := by rw [← zpow_add₀ two]; rfl
  have upper : (2 : ℚ) ^ (1024 : Int) = 2 ^ (54 : Int) * 2 ^ (970 : Int) := by rw [← zpow_add₀ two]; rfl
  rw [limit_eq, lower, upper]
  constructor
  · exact mul_lt_mul_of_pos_right (by norm_num) positive
  · exact mul_lt_mul_of_pos_right (by norm_num) positive

theorem limit_positive : 0 < limit := lt_trans (zpow_pos (by norm_num) _) limit_bounds.1

/-- A half goes to the even whole above it, so that whole is found from a half below it on. -/
theorem divideHalfEven_eq_even {numerator denominator half : Nat} (positive : 0 < denominator)
    (below : numerator < 2 * (half + 1) * denominator) :
    divideHalfEven numerator denominator = 2 * (half + 1) ↔ (4 * half + 3) * denominator ≤ 2 * numerator := by
  have parts := Nat.div_add_mod numerator denominator
  have rest := Nat.mod_lt numerator positive
  have bound : numerator / denominator < 2 * (half + 1) := (Nat.div_lt_iff_lt_mul positive).2 below
  unfold divideHalfEven
  dsimp only
  generalize numerator / denominator = quotient at parts bound ⊢
  generalize numerator % denominator = remainder at parts rest ⊢
  have grid : (4 * half + 3) * denominator = 2 * (denominator * (2 * half + 1)) + denominator := by ring
  by_cases last : quotient = 2 * half + 1
  · subst last
    split <;> omega
  · have short : denominator * (quotient + 1) ≤ denominator * (2 * half + 1) :=
      Nat.mul_le_mul_left denominator (by omega)
    have next : denominator * (quotient + 1) = denominator * quotient + denominator := by ring
    split <;> omega

section Scaling

variable (numerator denominator : Nat) (exponent : Int)

theorem scaled_positive (positive : 0 < denominator) : 0 < (scaled numerator denominator exponent).2 :=
  Nat.mul_pos positive (Nat.pow_pos (by decide))

theorem scaled_quotient : ((scaled numerator denominator exponent).1 : ℚ) / (scaled numerator denominator exponent).2 =
    numerator / denominator / 2 ^ exponent := by
  rcases Int.le_total 0 exponent with above | below
  · obtain ⟨places, rfl⟩ := Int.eq_ofNat_of_zero_le above
    have none : (-(places : Int)).toNat = 0 := by omega
    simp only [scaled, none, Int.toNat_natCast, Nat.pow_eq, pow_zero, mul_one, Nat.cast_mul, Nat.cast_pow, Nat.cast_ofNat,
      zpow_natCast, div_div]
  · obtain ⟨places, same⟩ := Int.eq_ofNat_of_zero_le (Int.neg_nonneg_of_nonpos below)
    obtain rfl : exponent = -places := by omega
    have none : (-(places : Int)).toNat = 0 := by omega
    simp only [scaled, none, Int.neg_neg, Int.toNat_natCast, Nat.pow_eq, pow_zero, mul_one, Nat.cast_mul, Nat.cast_pow,
      Nat.cast_ofNat, zpow_neg, zpow_natCast, div_inv_eq_mul]
    rw [mul_div_right_comm]

theorem scaled_succ (places : Nat) : scaled numerator denominator (places + 1) =
    ((scaled numerator denominator places).1, 2 * (scaled numerator denominator places).2) := by
  have none : (-(places : Int)).toNat = 0 := by omega
  have noneToo : (-((places : Int) + 1)).toNat = 0 := by omega
  have more : ((places : Int) + 1).toNat = places + 1 := by omega
  simp only [scaled, none, noneToo, more, Int.toNat_natCast, Nat.pow_eq, pow_succ', Nat.mul_left_comm denominator 2]

theorem scaled_le_iff {denominator : Nat} (positive : 0 < denominator) (wholes : Nat) :
    wholes * (scaled numerator denominator exponent).2 ≤ (scaled numerator denominator exponent).1 ↔
      wholes * (2 : ℚ) ^ exponent ≤ numerator / denominator := by
  have below : (0 : ℚ) < (scaled numerator denominator exponent).2 := by
    exact_mod_cast scaled_positive numerator denominator exponent positive
  rw [← le_div_iff₀ (zpow_pos (by norm_num) exponent), ← scaled_quotient, le_div_iff₀ below]
  exact_mod_cast Iff.rfl

theorem scaled_lt_iff {denominator : Nat} (positive : 0 < denominator) (wholes : Nat) :
    (scaled numerator denominator exponent).1 < wholes * (scaled numerator denominator exponent).2 ↔
      (numerator : ℚ) / denominator < wholes * 2 ^ exponent :=
  lt_iff_lt_of_le_iff_le (scaled_le_iff numerator exponent positive wholes)

end Scaling

section Exponents

variable {numerator denominator : Nat}

theorem log2_bounds {number : Nat} (positive : 0 < number) :
    (2 : ℚ) ^ (number.log2 : Int) ≤ number ∧ (number : ℚ) < 2 ^ ((number.log2 : Int) + 1) := by
  constructor
  · rw [zpow_natCast]
    exact_mod_cast Nat.log2_self_le positive.ne'
  · have above := @Nat.lt_log2_self number
    rw [← Nat.cast_succ, zpow_natCast]
    exact_mod_cast above

/-- The logarithms of its parts place a quotient between powers of two that are two apart. -/
theorem quotient_bounds (above : 0 < numerator) (below : 0 < denominator) :
    (2 : ℚ) ^ ((numerator.log2 : Int) - denominator.log2 - 1) ≤ numerator / denominator ∧
      (numerator : ℚ) / denominator < 2 ^ ((numerator.log2 : Int) - denominator.log2 + 1) := by
  obtain ⟨least, most⟩ := log2_bounds above
  obtain ⟨leastToo, mostToo⟩ := log2_bounds below
  have positive : (0 : ℚ) < denominator := by exact_mod_cast below
  have two : (2 : ℚ) ≠ 0 := by norm_num
  constructor
  · rw [le_div_iff₀ positive]
    calc (2 : ℚ) ^ ((numerator.log2 : Int) - denominator.log2 - 1) * denominator
        ≤ 2 ^ ((numerator.log2 : Int) - denominator.log2 - 1) * 2 ^ ((denominator.log2 : Int) + 1) :=
          mul_le_mul_of_nonneg_left mostToo.le (zpow_nonneg (by norm_num) _)
      _ = 2 ^ (numerator.log2 : Int) := by
        rw [← zpow_add₀ two]
        congr 1
        omega
      _ ≤ numerator := least
  · rw [div_lt_iff₀ positive]
    calc (numerator : ℚ) < 2 ^ ((numerator.log2 : Int) + 1) := most
      _ = 2 ^ ((numerator.log2 : Int) - denominator.log2 + 1) * 2 ^ (denominator.log2 : Int) := by
        rw [← zpow_add₀ two]
        congr 1
        omega
      _ ≤ 2 ^ ((numerator.log2 : Int) - denominator.log2 + 1) * denominator :=
          mul_le_mul_of_nonneg_left leastToo (zpow_nonneg (by norm_num) _)

theorem exponentFor_bounds (above : 0 < numerator) (below : 0 < denominator) :
    (numerator : ℚ) / denominator < 2 ^ (exponentFor numerator denominator + 53) ∧
    (-1074 < exponentFor numerator denominator →
      (2 : ℚ) ^ (exponentFor numerator denominator + 52) ≤ numerator / denominator) := by
  obtain ⟨least, most⟩ := quotient_bounds above below
  obtain ⟨upper, defined⟩ : ∃ upper, upper = (numerator.log2 : Int) - denominator.log2 - 52 := ⟨_, rfl⟩
  have place : Nat.pow 2 52 * (scaled numerator denominator upper).2 ≤ (scaled numerator denominator upper).1 ↔
      (2 : ℚ) ^ (upper + 52) ≤ numerator / denominator := by
    rw [scaled_le_iff numerator upper below, zpow_add₀ (by norm_num : (2 : ℚ) ≠ 0), mul_comm]
    norm_num
  have chosen : exponentFor numerator denominator =
      max (-1074) (if (2 : ℚ) ^ (upper + 52) ≤ numerator / denominator then upper else upper - 1) := by
    rw [exponentFor, ← defined]
    simp only [place]
  -- before it is kept from falling below the least one, the exponent is exact
  obtain ⟨free, kept, beneath, reached⟩ : ∃ free, exponentFor numerator denominator = max (-1074) free ∧
      (numerator : ℚ) / denominator < 2 ^ (free + 53) ∧ (2 : ℚ) ^ (free + 52) ≤ numerator / denominator := by
    by_cases high : (2 : ℚ) ^ (upper + 52) ≤ numerator / denominator
    · rw [if_pos high] at chosen
      have same : (numerator.log2 : Int) - denominator.log2 + 1 = upper + 53 := by omega
      exact ⟨upper, chosen, same ▸ most, high⟩
    · rw [if_neg high] at chosen
      have same : (numerator.log2 : Int) - denominator.log2 - 1 = upper - 1 + 52 := by omega
      have next : upper - 1 + 53 = upper + 52 := by omega
      exact ⟨upper - 1, chosen, next ▸ not_le.1 high, same ▸ least⟩
  rw [kept]
  refine ⟨beneath.trans_le (zpow_le_zpow_right₀ (by norm_num) (by omega)), fun larger => ?_⟩
  have same : max (-1074) free = free := by omega
  exact same.symm ▸ reached

end Exponents

section Limit

variable {numerator denominator : Nat}

/-- Whether the exponent of the rounded quotient, carried if its mantissa is, is larger than any there is. -/
def Exceeds (numerator denominator : Nat) : Prop :=
  let exponent := exponentFor numerator denominator
  let (above, below) := scaled numerator denominator exponent
  971 < if divideHalfEven above below = Nat.pow 2 53 then exponent + 1 else exponent

theorem ofRatio_of_exceeds (negative : Bool) (above : 0 < numerator) (exceeds : Exceeds numerator denominator) :
    ofRatio negative numerator denominator = .infinity negative := by
  unfold Exceeds at exceeds
  dsimp only at exceeds
  unfold ofRatio
  rw [if_neg above.ne']
  dsimp only
  split at exceeds
  next carried => rw [if_pos carried, if_pos exceeds]
  next kept => rw [if_neg kept, if_pos exceeds]

theorem ofRatio_of_fits (negative : Bool) (fits : ¬Exceeds numerator denominator) :
    (ofRatio negative numerator denominator).isFinite = true := by
  unfold Exceeds at fits
  dsimp only at fits
  unfold ofRatio
  split
  · rfl
  · dsimp only
    split at fits
    next carried =>
      rw [if_pos carried, if_neg fits]
      rfl
    next kept =>
      rw [if_neg kept, if_neg fits]
      rfl

theorem carries_iff (below : 0 < denominator) (beneath : (numerator : ℚ) / denominator < 2 ^ (971 + 53 : Int)) :
    divideHalfEven (scaled numerator denominator 971).1 (scaled numerator denominator 971).2 = Nat.pow 2 53 ↔
      limit ≤ (numerator : ℚ) / denominator := by
  have positive := scaled_positive numerator denominator 971 below
  have short : (scaled numerator denominator 971).1 < 2 * (2 ^ 52 - 1 + 1) * (scaled numerator denominator 971).2 := by
    rw [scaled_lt_iff numerator 971 below]
    rw [zpow_add₀ (by norm_num : (2 : ℚ) ≠ 0), mul_comm] at beneath
    exact beneath.trans_eq (by norm_num)
  have whole : Nat.pow 2 53 = 2 * (2 ^ 52 - 1 + 1) := by norm_num
  have next : scaled numerator denominator 971 =
      ((scaled numerator denominator 970).1, 2 * (scaled numerator denominator 970).2) :=
    scaled_succ numerator denominator 970
  have halves : (4 * (2 ^ 52 - 1) + 3) * (scaled numerator denominator 971).2 ≤ 2 * (scaled numerator denominator 971).1 ↔
      (2 ^ 54 - 1) * (scaled numerator denominator 970).2 ≤ (scaled numerator denominator 970).1 := by
    rw [next]
    dsimp only
    omega
  rw [whole, divideHalfEven_eq_even positive short, halves, scaled_le_iff numerator 970 below, limit_eq]
  norm_num

theorem exceeds_iff (above : 0 < numerator) (below : 0 < denominator) :
    Exceeds numerator denominator ↔ limit ≤ (numerator : ℚ) / denominator := by
  obtain ⟨beneath, reached⟩ := exponentFor_bounds above below
  unfold Exceeds
  dsimp only
  generalize exponentFor numerator denominator = exponent at beneath reached ⊢
  rcases lt_trichotomy exponent 971 with small | rfl | large
  · have short : (numerator : ℚ) / denominator < limit := by
      calc (numerator : ℚ) / denominator < 2 ^ (exponent + 53) := beneath
        _ ≤ 2 ^ (1023 : Int) := zpow_le_zpow_right₀ (by norm_num) (by omega)
        _ < limit := limit_bounds.1
    refine iff_of_false ?_ (not_le.2 short)
    split <;> omega
  · rw [← carries_iff below beneath]
    constructor
    · intro exceeds
      split at exceeds
      next carried => exact carried
      next => omega
    · intro carried
      rw [if_pos carried]
      omega
  · have long : limit ≤ (numerator : ℚ) / denominator := by
      calc limit ≤ 2 ^ (1024 : Int) := limit_bounds.2.le
        _ ≤ 2 ^ (exponent + 52) := zpow_le_zpow_right₀ (by norm_num) (by omega)
        _ ≤ numerator / denominator := reached (by omega)
    refine iff_of_true ?_ long
    split <;> omega

end Limit

/-- Rounded, a quotient is infinite from the limit on, and finite below it. -/
theorem ofRatio_limit (negative : Bool) {numerator denominator : Nat} (below : 0 < denominator) :
    (limit ≤ (numerator : ℚ) / denominator → ofRatio negative numerator denominator = .infinity negative) ∧
    ((numerator : ℚ) / denominator < limit → (ofRatio negative numerator denominator).isFinite = true) := by
  rcases Nat.eq_zero_or_pos numerator with rfl | above
  · refine ⟨fun reaches => ?_, fun _ => rfl⟩
    rw [Nat.cast_zero, zero_div] at reaches
    exact absurd limit_positive (not_lt.2 reaches)
  · refine ⟨fun reaches => ofRatio_of_exceeds negative above ((exceeds_iff above below).2 reaches), fun short => ?_⟩
    exact ofRatio_of_fits negative fun exceeds => not_le.2 short ((exceeds_iff above below).1 exceeds)

theorem decimal_quotient (digits : Nat) (exponent : Int) :
    ((digits * Nat.pow 10 exponent.toNat : Nat) : ℚ) / (Nat.pow 10 (-exponent).toNat : Nat) = digits * 10 ^ exponent := by
  rcases Int.le_total 0 exponent with above | below
  · obtain ⟨places, rfl⟩ := Int.eq_ofNat_of_zero_le above
    have none : (-(places : Int)).toNat = 0 := by omega
    simp only [none, Int.toNat_natCast, Nat.pow_eq, pow_zero, Nat.cast_one, div_one, Nat.cast_mul, Nat.cast_pow,
      Nat.cast_ofNat, zpow_natCast]
  · obtain ⟨places, same⟩ := Int.eq_ofNat_of_zero_le (Int.neg_nonneg_of_nonpos below)
    obtain rfl : exponent = -places := by omega
    have none : (-(places : Int)).toNat = 0 := by omega
    simp only [none, Int.neg_neg, Int.toNat_natCast, Nat.pow_eq, pow_zero, mul_one, Nat.cast_pow, Nat.cast_ofNat,
      zpow_neg, zpow_natCast, div_eq_mul_inv]

theorem limit_le_of_long {digits : Nat} {exponent : Int} (some : digits ≠ 0) (long : 400 < exponent) :
    limit ≤ (digits : ℚ) * 10 ^ exponent := by
  have least : (1 : ℚ) ≤ digits := by exact_mod_cast Nat.one_le_iff_ne_zero.2 some
  calc limit ≤ 2 ^ (1024 : Int) := limit_bounds.2.le
    _ ≤ (2 : ℚ) ^ (3 * exponent) := zpow_le_zpow_right₀ (by norm_num) (by omega)
    _ = 8 ^ exponent := by
      rw [zpow_mul]
      norm_num
    _ ≤ 10 ^ exponent := zpow_le_zpow_left₀ (by omega) (by norm_num) (by norm_num)
    _ ≤ digits * 10 ^ exponent := le_mul_of_one_le_left (zpow_nonneg (by norm_num) _) least

theorem lt_limit_of_short {digits : Nat} {exponent : Int} (short : exponent < -(digits.log2 + 401 : Int)) :
    (digits : ℚ) * 10 ^ exponent < limit := by
  have most : (digits : ℚ) < 2 ^ (digits.log2 + 1) := by exact_mod_cast @Nat.lt_log2_self digits
  have ten : (10 : ℚ) ≠ 0 := by norm_num
  calc (digits : ℚ) * 10 ^ exponent
      ≤ 2 ^ (digits.log2 + 1) * 10 ^ exponent := mul_le_mul_of_nonneg_right most.le (zpow_nonneg (by norm_num) _)
    _ ≤ 10 ^ (digits.log2 + 1) * 10 ^ exponent :=
      mul_le_mul_of_nonneg_right (pow_le_pow_left₀ (by norm_num) (by norm_num) _) (zpow_nonneg (by norm_num) _)
    _ = 10 ^ ((digits.log2 + 1 : Nat) + exponent : Int) := by rw [zpow_add₀ ten, zpow_natCast]
    _ ≤ 10 ^ (0 : Int) := zpow_le_zpow_right₀ (by norm_num) (by omega)
    _ ≤ 2 ^ (1023 : Int) := one_le_zpow₀ (by norm_num) (by norm_num)
    _ < limit := limit_bounds.1

theorem ofDecimal_limit (negative : Bool) (digits : Nat) (exponent : Int) :
    (limit ≤ (digits : ℚ) * 10 ^ exponent → ofDecimal negative digits exponent = .infinity negative) ∧
    ((digits : ℚ) * 10 ^ exponent < limit → (ofDecimal negative digits exponent).isFinite = true) := by
  unfold ofDecimal
  split
  next none =>
    refine ⟨fun reaches => ?_, fun _ => rfl⟩
    rw [none, Nat.cast_zero, zero_mul] at reaches
    exact absurd limit_positive (not_lt.2 reaches)
  next some =>
    split
    next long => exact ⟨fun _ => rfl, fun below => absurd below (not_lt.2 (limit_le_of_long some long))⟩
    next =>
      split
      next short => exact ⟨fun reaches => absurd reaches (not_le.2 (lt_limit_of_short short)), fun _ => rfl⟩
      next =>
        rw [← decimal_quotient]
        exact ofRatio_limit negative (Nat.pow_pos (by decide))

end Credential.Binary64
