import Mathlib.Algebra.Order.Field.Power
import Mathlib.Algebra.Order.Ring.Rat
import Mathlib.Tactic.NormNum
import Delivery.Binary64.Basic
set_option autoImplicit false

namespace Delivery.Binary64

section Units

variable (num den : Nat) (exponent : Int)

theorem two_power_pos : (0 : ℚ) < 2 ^ exponent := zpow_pos (by norm_num) exponent

theorem in_units_quotient :
    ((inUnits num den exponent).1 : ℚ) / (inUnits num den exponent).2 = (num : ℚ) / den / 2 ^ exponent := by
  unfold inUnits
  split
  · next positive =>
      obtain ⟨power, rfl⟩ := Int.eq_ofNat_of_zero_le positive
      simp [div_div]
  · next negative =>
      obtain ⟨power, rfl⟩ : ∃ power : Nat, exponent = -(power : Int) := ⟨(-exponent).toNat, by omega⟩
      simp [mul_div_right_comm]

variable {num den exponent}

theorem in_units_den_pos (denPositive : 0 < den) : 0 < (inUnits num den exponent).2 := by
  unfold inUnits
  split
  · exact Nat.mul_pos denPositive (Nat.pow_pos (by decide))
  · exact denPositive

theorem quotient_lt_power {most : Nat} {power : Int} (denPositive : 0 < den) (same : (most : ℚ) = 2 ^ power) :
    (inUnits num den exponent).1 / (inUnits num den exponent).2 < most ↔
      (num : ℚ) / den < 2 ^ (exponent + power) := by
  have positive : 0 < (inUnits num den exponent).2 := in_units_den_pos denPositive
  have quotient := in_units_quotient num den exponent
  have units : (0 : ℚ) < (inUnits num den exponent).2 := by exact_mod_cast positive
  rw [zpow_add₀ (by norm_num), mul_comm, ← div_lt_iff₀ (two_power_pos exponent), ← quotient, ← same,
    div_lt_iff₀ units, Nat.div_lt_iff_lt_mul positive]
  norm_cast

end Units

section Exponents

variable {num den : Nat}

def guess (num den : Nat) : Int :=
  (Nat.log2 num : Int) - Nat.log2 den - 52

theorem log_bounds {n : Nat} (positive : 0 < n) :
    (2 : ℚ) ^ (Nat.log2 n : Int) ≤ n ∧ (n : ℚ) < 2 ^ ((Nat.log2 n : Int) + 1) := by
  constructor
  · exact_mod_cast Nat.log2_self_le positive.ne'
  · exact_mod_cast Nat.lt_log2_self (n := n)

theorem guess_bounds (numPositive : 0 < num) (denPositive : 0 < den) :
    (2 : ℚ) ^ (guess num den + 51) < (num : ℚ) / den ∧ (num : ℚ) / den < 2 ^ (guess num den + 53) := by
  obtain ⟨numLow, numHigh⟩ := log_bounds numPositive
  obtain ⟨denLow, denHigh⟩ := log_bounds denPositive
  have above : (0 : ℚ) < den := by exact_mod_cast denPositive
  have two : (2 : ℚ) ≠ 0 := by norm_num
  constructor
  · rw [lt_div_iff₀ above]
    calc (2 : ℚ) ^ (guess num den + 51) * den
        < 2 ^ (guess num den + 51) * 2 ^ ((Nat.log2 den : Int) + 1) :=
          mul_lt_mul_of_pos_left denHigh (two_power_pos _)
      _ = 2 ^ (Nat.log2 num : Int) := by
          rw [← zpow_add₀ two]
          congr 1
          simp only [guess]
          omega
      _ ≤ num := numLow
  · rw [div_lt_iff₀ above]
    calc (num : ℚ) < 2 ^ ((Nat.log2 num : Int) + 1) := numHigh
      _ = 2 ^ (guess num den + 53) * 2 ^ (Nat.log2 den : Int) := by
          rw [← zpow_add₀ two]
          congr 1
          simp only [guess]
          omega
      _ ≤ 2 ^ (guess num den + 53) * den := mul_le_mul_of_nonneg_left denLow (two_power_pos _).le

theorem unit_exponent_eq (numPositive : 0 < num) (denPositive : 0 < den) :
    ∃ exact : Int, unitExponent num den = max minExponent exact ∧
      (2 : ℚ) ^ (exact + 52) ≤ (num : ℚ) / den ∧ (num : ℚ) / den < 2 ^ (exact + 53) := by
  obtain ⟨low, high⟩ := guess_bounds numPositive denPositive
  have unit : unitExponent num den = max minExponent (if (inUnits num den (guess num den)).1 /
      (inUnits num den (guess num den)).2 < leastNormal then guess num den - 1 else guess num den) := rfl
  have normal : (inUnits num den (guess num den)).1 / (inUnits num den (guess num den)).2 < leastNormal ↔
      (num : ℚ) / den < 2 ^ (guess num den + 52) := quotient_lt_power denPositive (by norm_num [leastNormal])
  rw [unit]
  split
  · next small =>
      refine ⟨_, rfl, ?_, ?_⟩
      · rw [show guess num den - 1 + 52 = guess num den + 51 by omega]
        exact low.le
      · rw [show guess num den - 1 + 53 = guess num den + 52 by omega]
        exact normal.mp small
  · next large => exact ⟨_, rfl, not_lt.mp fun small => large (normal.mpr small), high⟩

end Exponents

section Ratios

variable {negative : Bool} {num den : Nat} {x : Binary64}

theorem quotient_bounds (numPositive : 0 < num) (denPositive : 0 < den) :
    (inUnits num den (unitExponent num den)).1 / (inUnits num den (unitExponent num den)).2 < significandBound ∧
      (unitExponent num den = minExponent ∨
        leastNormal ≤ (inUnits num den (unitExponent num den)).1 / (inUnits num den (unitExponent num den)).2) := by
  obtain ⟨exact, unit, low, high⟩ := unit_exponent_eq numPositive denPositive
  have full : ((significandBound : Nat) : ℚ) = 2 ^ (53 : Int) := by norm_num [significandBound]
  have normal : ((leastNormal : Nat) : ℚ) = 2 ^ (52 : Int) := by norm_num [leastNormal]
  constructor
  · rw [quotient_lt_power denPositive full]
    refine high.trans_le (zpow_le_zpow_right₀ (by norm_num) ?_)
    omega
  · by_cases least : unitExponent num den = minExponent
    · exact .inl least
    · refine .inr (not_lt.mp fun small => ?_)
      rw [quotient_lt_power denPositive normal] at small
      have same : unitExponent num den = exact := by omega
      rw [same] at small
      exact absurd low (not_le.mpr small)

theorem le_round_even (num den : Nat) : num / den ≤ roundEven num den := by
  simp only [roundEven]
  split <;> omega

theorem round_even_le (num den : Nat) : roundEven num den ≤ num / den + 1 := by
  simp only [roundEven]
  split <;> omega

def carried (negative : Bool) (rounded : Nat) (exponent : Int) : Binary64 :=
  if rounded = significandBound then ⟨negative, leastNormal, exponent + 1⟩ else ⟨negative, rounded, exponent⟩

theorem carried_canonical {rounded : Nat} {exponent : Int} (bounded : rounded ≤ significandBound)
    (least : minExponent ≤ exponent) (normal : exponent = minExponent ∨ leastNormal ≤ rounded)
    (finite : (carried negative rounded exponent).exponent ≤ maxExponent) :
    (carried negative rounded exponent).Canonical := by
  unfold carried at finite ⊢
  split at finite
  · next full =>
      rw [if_pos full]
      have fits : leastNormal < significandBound := by decide
      exact ⟨fits, least.trans (Int.le_add_one le_rfl), finite, .inl le_rfl⟩
  · next partly =>
      rw [if_neg partly]
      exact ⟨lt_of_le_of_ne bounded partly, least, finite, normal.symm⟩

theorem of_ratio_nonzero (nonzero : num ≠ 0) (rounded : ofRatio negative num den = some x) :
    x = carried negative (roundEven (inUnits num den (unitExponent num den)).1
        (inUnits num den (unitExponent num den)).2) (unitExponent num den) ∧ x.exponent ≤ maxExponent := by
  rw [ofRatio, if_neg nonzero] at rounded
  obtain ⟨finite, same⟩ := Option.ite_none_right_eq_some.mp rounded
  cases same
  exact ⟨rfl, finite⟩

theorem zero_canonical (negative : Bool) : (zero negative).Canonical := by
  have fits : 0 < significandBound := by decide
  have least : minExponent ≤ maxExponent := by decide
  exact ⟨fits, le_rfl, least, .inr rfl⟩

theorem of_ratio_canonical (denPositive : 0 < den) (rounded : ofRatio negative num den = some x) : x.Canonical := by
  by_cases nonzero : num = 0
  · rw [ofRatio, if_pos nonzero] at rounded
    cases rounded
    exact zero_canonical negative
  · obtain ⟨below, normal⟩ := quotient_bounds (Nat.pos_of_ne_zero nonzero) denPositive
    obtain ⟨rfl, finite⟩ := of_ratio_nonzero nonzero rounded
    have down := le_round_even (inUnits num den (unitExponent num den)).1 (inUnits num den (unitExponent num den)).2
    have up := round_even_le (inUnits num den (unitExponent num den)).1 (inUnits num den (unitExponent num den)).2
    exact carried_canonical (up.trans below) (le_max_left _ _) (normal.imp_right fun large => large.trans down) finite

end Ratios

section Decimals

variable {negative : Bool} {x y z : Binary64}

theorem ratio_den_pos (x : Binary64) : 0 < x.ratio.2 := by
  unfold ratio
  split
  · exact Nat.one_pos
  · exact Nat.pow_pos (by decide)

theorem ratio_num_pos (nonzero : x.significand ≠ 0) : 0 < x.ratio.1 := by
  unfold ratio
  split
  · exact Nat.mul_pos (Nat.pos_of_ne_zero nonzero) (Nat.pow_pos (by decide))
  · exact Nat.pos_of_ne_zero nonzero

theorem mul_canonical (product : x.mul? y = some z) : z.Canonical :=
  of_ratio_canonical (Nat.mul_pos x.ratio_den_pos y.ratio_den_pos) product

theorem div_canonical (nonzero : y.significand ≠ 0) (quotient : x.div? y = some z) : z.Canonical :=
  of_ratio_canonical (Nat.mul_pos x.ratio_den_pos (ratio_num_pos nonzero)) quotient

theorem ten_power_nonzero : ∀ exponent ≤ maxTenPower, (tenPower exponent).significand ≠ 0 := by
  decide +kernel

theorem shrink_canonical (canonical : x.Canonical) (exponent : Nat) : (x.shrink exponent).Canonical := by
  have divided : ∀ (x : Binary64) (power : Nat), power ≤ maxTenPower →
      ((x.div? (tenPower power)).getD (zero x.negative)).Canonical := by
    intro x power small
    cases quotient : x.div? (tenPower power) with
    | none => exact zero_canonical x.negative
    | some z => exact div_canonical (ten_power_nonzero power small) quotient
  induction exponent using Nat.strongRecOn generalizing x with
  | ind exponent ih =>
      rw [shrink]
      split
      · exact canonical
      · split
        · next small => exact divided x exponent small
        · next large =>
            refine ih _ ?_ (divided x maxTenPower le_rfl)
            simp only [maxTenPower] at large ⊢
            omega

theorem canonical_of_sign (canonical : x.Canonical) (negative : Bool) : ({ x with negative } : Binary64).Canonical :=
  canonical

/-- Every decimal is read as a canonical number. -/
theorem of_decimal_canonical {significand : Nat} {exponent : Int}
    (read : ofDecimal negative significand exponent = some x) : x.Canonical := by
  obtain ⟨whole, rounded, read⟩ := Option.bind_eq_some_iff.mp read
  have canonical : whole.Canonical := of_ratio_canonical Nat.one_pos rounded
  split at read
  · split at read
    · cases read
      exact canonical
    · split at read
      · obtain ⟨scaled, product, read⟩ := Option.bind_eq_some_iff.mp read
        cases read
        exact canonical_of_sign (mul_canonical product) negative
      · cases read
  · cases read
    exact shrink_canonical (canonical_of_sign canonical false) _

end Decimals

end Delivery.Binary64
