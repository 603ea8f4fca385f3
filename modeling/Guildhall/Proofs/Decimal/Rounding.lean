import Guildhall.Decimal.Binary64
import Mathlib.Algebra.Order.Field.Power
import Mathlib.Tactic.FieldSimp
import Mathlib.Tactic.Linarith
import Mathlib.Tactic.NormNum
import Mathlib.Tactic.Positivity
import Mathlib.Tactic.Ring

/-!
How far rounding moves a number. The mantissa of a double has 53 bits unless the exponent is the
least one, so that the nearest double differs from a number by at most its 2^53rd part and half of
the least double.
-/

namespace Guildhall.Binary64

def sign (negative : Bool) : ℚ := if negative then -1 else 1

def value (negative : Bool) (mantissa : Nat) (exponent : Int) : ℚ :=
  sign negative * (mantissa * 2 ^ exponent)

/-- The most that rounding moves a number by. -/
def slack (q : ℚ) : ℚ := |q| / 2 ^ 53 + 2 ^ (leastExponent - 1)

/-- The double is finite, and no farther from the number than rounding moves it. -/
def Rounds (x : Binary64) (q : ℚ) : Prop :=
  ∃ negative mantissa exponent, x = .finite negative mantissa exponent ∧
    |value negative mantissa exponent - q| ≤ slack q

theorem roundHalfEven_cases (num den : Nat) :
    (roundHalfEven num den = num / den ∧ 2 * (num % den) ≤ den) ∨
      (roundHalfEven num den = num / den + 1 ∧ den ≤ 2 * (num % den)) := by
  unfold roundHalfEven
  grind

theorem roundHalfEven_near (num : Nat) {den : Nat} (pos : 0 < den) :
    |(roundHalfEven num den : ℚ) - num / den| ≤ 1 / 2 := by
  have positive : (0 : ℚ) < den := Nat.cast_pos.mpr pos
  have whole : (num : ℚ) / den = (num / den : Nat) + (num % den : Nat) / den := by
    field_simp
    exact_mod_cast (Nat.div_add_mod num den).symm
  have fraction : (0 : ℚ) ≤ (num % den : Nat) / den := by positivity
  rw [whole, abs_le]
  rcases roundHalfEven_cases num den with ⟨down, half⟩ | ⟨up, half⟩
  · have low : ((num % den : Nat) : ℚ) / den ≤ 1 / 2 := by
      rw [div_le_iff₀ positive]
      have := (Nat.cast_le (α := ℚ)).mpr half
      push_cast at this
      linarith
    rw [down]
    constructor <;> linarith
  · have high : 1 / 2 ≤ ((num % den : Nat) : ℚ) / den := by
      rw [le_div_iff₀ positive]
      have := (Nat.cast_le (α := ℚ)).mpr half
      push_cast at this
      linarith
    have proper : ((num % den : Nat) : ℚ) / den ≤ 1 := by
      rw [div_le_one positive]
      exact_mod_cast (Nat.mod_lt num pos).le
    rw [up]
    push_cast
    constructor <;> linarith

section Scaling

variable {num den : Nat}

theorem scaled_den_pos (num : Nat) (pos : 0 < den) (exponent : Int) :
    0 < (scaled num den exponent).2 := by
  unfold scaled
  split
  · exact Nat.mul_pos pos (Nat.pow_pos Nat.two_pos)
  · exact pos

theorem scaled_ratio (num den : Nat) (exponent : Int) :
    ((scaled num den exponent).1 : ℚ) / (scaled num den exponent).2 =
      num / den / 2 ^ exponent := by
  unfold scaled
  split
  · rename_i whole
    obtain ⟨size, rfl⟩ := Int.eq_ofNat_of_zero_le whole
    rw [Int.toNat_natCast, zpow_natCast, div_div]
    push_cast [Nat.pow_eq]
    rfl
  · rename_i below
    obtain ⟨size, rfl⟩ : ∃ size : Nat, exponent = -size := ⟨(-exponent).toNat, by omega⟩
    rw [neg_neg, Int.toNat_natCast, zpow_neg, zpow_natCast, div_inv_eq_mul, mul_comm_div,
      mul_div_assoc']
    push_cast [Nat.pow_eq]
    rfl

theorem log2_bounds {n : Nat} (pos : 0 < n) :
    (2 : ℚ) ^ (Nat.log2 n : Int) ≤ n ∧ (n : ℚ) < 2 ^ ((Nat.log2 n : Int) + 1) := by
  have low := Nat.log2_self_le (Nat.ne_of_gt pos)
  have high := @Nat.lt_log2_self n
  constructor
  · rw [zpow_natCast]
    exact_mod_cast low
  · rw [← Nat.cast_succ, zpow_natCast]
    exact_mod_cast high

theorem ratio_low (numPos : 0 < num) (denPos : 0 < den) :
    (2 : ℚ) ^ 52 * 2 ^ ((Nat.log2 num : Int) - (Nat.log2 den : Int) - 53) ≤ num / den := by
  obtain ⟨numLow, -⟩ := log2_bounds numPos
  obtain ⟨-, denHigh⟩ := log2_bounds denPos
  have positive : (0 : ℚ) < den := Nat.cast_pos.mpr denPos
  have power : (2 : ℚ) ^ 52 * 2 ^ ((Nat.log2 num : Int) - (Nat.log2 den : Int) - 53) *
      2 ^ ((Nat.log2 den : Int) + 1) = 2 ^ (Nat.log2 num : Int) := by
    rw [← zpow_natCast, ← zpow_add₀ two_ne_zero, ← zpow_add₀ two_ne_zero]
    congr 1
    push_cast
    omega
  rw [le_div_iff₀ positive]
  calc (2 : ℚ) ^ 52 * 2 ^ ((Nat.log2 num : Int) - (Nat.log2 den : Int) - 53) * den
      ≤ 2 ^ 52 * 2 ^ ((Nat.log2 num : Int) - (Nat.log2 den : Int) - 53) *
          2 ^ ((Nat.log2 den : Int) + 1) := by gcongr
    _ = 2 ^ (Nat.log2 num : Int) := power
    _ ≤ num := numLow

/-- At its exponent a number has no less than 53 bits, unless the exponent is the least. -/
theorem exponentFor_tight (numPos : 0 < num) (denPos : 0 < den) :
    2 ^ 52 * 2 ^ exponentFor num den ≤ (num : ℚ) / den ∨
      exponentFor num den = leastExponent := by
  have low := ratio_low numPos denPos
  unfold exponentFor
  dsimp only
  generalize (Nat.log2 num : Int) - (Nat.log2 den : Int) - 53 = guess at low ⊢
  have scale : (0 : ℚ) < 2 ^ guess := zpow_pos two_pos guess
  have fitted : 2 ^ 52 * 2 ^ (if (scaled num den guess).1 / (scaled num den guess).2 <
      Nat.pow 2 53 then guess else guess + 1) ≤ (num : ℚ) / den := by
    split
    · exact low
    · rename_i long
      have bottom := scaled_den_pos num denPos guess
      have above : ((2 ^ 53 : Nat) : ℚ) ≤ (num : ℚ) / den / 2 ^ guess := by
        rw [← scaled_ratio, le_div_iff₀ (Nat.cast_pos.mpr bottom)]
        exact_mod_cast (Nat.le_div_iff_mul_le bottom).mp (Nat.not_lt.mp long)
      rw [le_div_iff₀ scale] at above
      rw [zpow_add_one₀ two_ne_zero]
      push_cast at above
      linarith
  rcases le_total (if (scaled num den guess).1 / (scaled num den guess).2 < Nat.pow 2 53 then
    guess else guess + 1) leastExponent with lesser | greater
  · exact Or.inr (max_eq_left lesser)
  · rw [max_eq_right greater]
    exact Or.inl fitted

end Scaling

section Rounding

variable {den : Nat}

theorem abs_sign (negative : Bool) : |sign negative| = 1 := by
  cases negative <;> simp [sign]

theorem slack_nonneg (q : ℚ) : 0 ≤ slack q := by
  unfold slack
  positivity

theorem slack_le {q bound : ℚ} (small : |q| ≤ bound) : slack q ≤ (bound + 1) / 2 ^ 53 := by
  have tiny : (2 : ℚ) ^ (leastExponent - 1) ≤ 2 ^ (-53 : Int) :=
    zpow_le_zpow_right₀ one_le_two (by decide)
  have least : (2 : ℚ) ^ (-53 : Int) = 1 / 2 ^ 53 := by
    rw [zpow_neg, one_div]
    rfl
  calc slack q = |q| / 2 ^ 53 + 2 ^ (leastExponent - 1) := rfl
    _ ≤ bound / 2 ^ 53 + 1 / 2 ^ 53 := by
      rw [← least]
      gcongr
    _ = (bound + 1) / 2 ^ 53 := (add_div bound 1 _).symm

theorem moderate_of_le {q : ℚ} (small : q ≤ 2 ^ 60) : q < 2 ^ 1023 :=
  small.trans_lt (pow_lt_pow_right₀ one_lt_two (by decide))

theorem rounds_zero (negative : Bool) : Rounds (.finite negative 0 leastExponent) 0 :=
  ⟨negative, 0, leastExponent, rfl, by simpa [value] using slack_nonneg 0⟩

theorem value_carry (negative : Bool) (exponent : Int) :
    value negative (2 ^ 52) (exponent + 1) = value negative (2 ^ 53) exponent := by
  unfold value
  rw [zpow_add_one₀ two_ne_zero]
  push_cast
  ring

section Mantissa

variable {q : ℚ} {exponent : Int}
  (tight : 2 ^ 52 * 2 ^ exponent ≤ q ∨ exponent = leastExponent)

include tight

theorem exponent_moderate (moderate : q < 2 ^ 1023) : exponent + 1 ≤ greatestExponent := by
  rcases tight with normal | least
  · have bounded : (2 : ℚ) ^ (52 + exponent) < 2 ^ (1023 : Int) := by
      rw [zpow_add₀ two_ne_zero]
      exact_mod_cast normal.trans_lt moderate
    have := (zpow_lt_zpow_iff_right₀ one_lt_two).mp bounded
    unfold greatestExponent
    omega
  · rw [least]
    decide

/-- Half of the last place is the 2^53rd part of the number at most, or half of the least double. -/
theorem mantissa_near (positive : 0 ≤ q) {mantissa : Nat}
    (near : |(mantissa : ℚ) - q / 2 ^ exponent| ≤ 1 / 2) :
    |(mantissa : ℚ) * 2 ^ exponent - q| ≤ slack q := by
  have scale : (0 : ℚ) < 2 ^ exponent := zpow_pos two_pos exponent
  have unscaled : (mantissa : ℚ) * 2 ^ exponent - q =
      (mantissa - q / 2 ^ exponent) * 2 ^ exponent := by
    field_simp
  have halved : |(mantissa : ℚ) * 2 ^ exponent - q| ≤ 1 / 2 * 2 ^ exponent := by
    rw [unscaled, abs_mul, abs_of_pos scale]
    gcongr
  refine halved.trans ?_
  rw [slack, abs_of_nonneg positive]
  rcases tight with normal | least
  · have : (0 : ℚ) ≤ 2 ^ (leastExponent - 1) := by positivity
    linarith
  · have half : (1 : ℚ) / 2 * 2 ^ exponent = 2 ^ (leastExponent - 1) := by
      rw [least, zpow_sub_one₀ two_ne_zero]
      ring
    have : 0 ≤ q / 2 ^ 53 := by positivity
    linarith

end Mantissa

theorem ofRatio_rounds (negative : Bool) {num : Nat} (pos : 0 < den)
    (moderate : (num : ℚ) / den < 2 ^ 1023) :
    Rounds (ofRatio negative num den) (sign negative * (num / den)) := by
  unfold ofRatio
  by_cases zero : num = 0
  · rw [if_pos zero, zero, Nat.cast_zero, zero_div, mul_zero]
    exact rounds_zero negative
  rw [if_neg zero]
  dsimp only
  have tight := exponentFor_tight (Nat.pos_of_ne_zero zero) pos
  have positive : (0 : ℚ) ≤ num / den := by positivity
  have near := roundHalfEven_near (scaled num den (exponentFor num den)).1
    (scaled_den_pos num pos (exponentFor num den))
  rw [scaled_ratio] at near
  generalize exponentFor num den = exponent at tight near ⊢
  generalize roundHalfEven _ _ = mantissa at near ⊢
  generalize (num : ℚ) / den = q at tight near positive moderate ⊢
  have small := exponent_moderate tight moderate
  have signed : |value negative mantissa exponent - sign negative * q| ≤
      slack (sign negative * q) := by
    rw [value, ← mul_sub, abs_mul, abs_sign, one_mul, slack, abs_mul, abs_sign, one_mul]
    exact mantissa_near tight positive near
  by_cases carried : mantissa = Nat.pow 2 53
  · rw [if_pos carried, if_neg (not_lt.mpr small)]
    refine ⟨negative, _, _, rfl, ?_⟩
    rw [carried] at signed
    exact (value_carry negative exponent).symm ▸ signed
  · rw [if_neg carried, if_neg (by omega)]
    exact ⟨negative, _, _, rfl, signed⟩

theorem ofFraction_rounds (zeroNegative : Bool) {num : Int} (pos : 0 < den)
    (moderate : |(num : ℚ) / den| < 2 ^ 1023) :
    Rounds (ofFraction zeroNegative num den) (num / den) := by
  unfold ofFraction
  by_cases zero : num = 0
  · rw [if_pos zero, zero, Int.cast_zero, zero_div]
    exact rounds_zero zeroNegative
  · rw [if_neg zero]
    have signed : (num : ℚ) / den = sign (decide (num < 0)) * (num.natAbs / den) := by
      rcases lt_or_ge num 0 with below | above
      · obtain ⟨size, rfl⟩ := Int.exists_eq_neg_ofNat below.le
        simp only [sign, below, decide_true, if_true, Int.natAbs_neg, Int.natAbs_natCast]
        push_cast
        ring
      · obtain ⟨size, rfl⟩ := Int.eq_ofNat_of_zero_le above
        simp [sign]
    rw [signed]
    refine ofRatio_rounds _ pos ?_
    rwa [signed, abs_mul, abs_sign, one_mul, abs_of_nonneg (by positivity)] at moderate

theorem fraction_den_pos (negative : Bool) (mantissa : Nat) (exponent : Int) :
    0 < (fraction negative mantissa exponent).2 := by
  unfold fraction
  by_cases whole : 0 ≤ exponent
  · simp only [if_pos whole, Nat.one_pos]
  · simp only [if_neg whole]
    exact Nat.pow_pos Nat.two_pos

theorem fraction_ratio (negative : Bool) (mantissa : Nat) (exponent : Int) :
    ((fraction negative mantissa exponent).1 : ℚ) / (fraction negative mantissa exponent).2 =
      value negative mantissa exponent := by
  unfold fraction value
  by_cases whole : 0 ≤ exponent
  · simp only [if_pos whole]
    obtain ⟨size, rfl⟩ := Int.eq_ofNat_of_zero_le whole
    cases negative <;> simp [sign]
  · simp only [if_neg whole]
    obtain ⟨size, rfl⟩ : ∃ size : Nat, exponent = -size := ⟨(-exponent).toNat, by omega⟩
    cases negative <;> simp [sign, div_eq_mul_inv]

variable {s t : Bool} {m n : Nat} {e f : Int}

theorem mul_rounds (moderate : |value s m e * value t n f| < 2 ^ 1023) :
    Rounds (mul (.finite s m e) (.finite t n f)) (value s m e * value t n f) := by
  have product : value s m e * value t n f =
      ((fraction s m e).1 * (fraction t n f).1 : Int) /
        ((fraction s m e).2 * (fraction t n f).2 : Nat) := by
    rw [← fraction_ratio s m e, ← fraction_ratio t n f, div_mul_div_comm]
    push_cast
    rfl
  rw [product] at moderate ⊢
  exact ofFraction_rounds (s != t)
    (Nat.mul_pos (fraction_den_pos s m e) (fraction_den_pos t n f)) moderate

end Rounding

end Guildhall.Binary64
