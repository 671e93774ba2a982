import Mathlib.Tactic.GCongr
import Mathlib.Tactic.Linarith
import Mathlib.Tactic.Positivity
import Delivery.Binary64.Shortest
import Delivery.Proofs.Binary64.Rounding
set_option autoImplicit false

namespace Delivery.Binary64

variable {x : Binary64}

section Scales

theorem scale_binary_pos (unit exponent : Int) : 0 < (scale unit exponent).binary :=
  Nat.mul_pos (Nat.pow_pos (by decide)) (Nat.pow_pos (by decide))

theorem power_split {base : ℚ} (nonzero : base ≠ 0) (exponent : Int) :
    base ^ exponent * base ^ (-exponent).toNat = base ^ exponent.toNat := by
  rw [← zpow_natCast, ← zpow_natCast, ← zpow_add₀ nonzero]
  congr 1
  omega

theorem scale_decimal_lt {unit exponent : Int} (fine : (10 : ℚ) ^ exponent < 2 ^ (unit - 2)) :
    (scale unit exponent).decimal < (scale unit exponent).binary := by
  have ten := power_split (show (10 : ℚ) ≠ 0 by norm_num) exponent
  have two := power_split (show (2 : ℚ) ≠ 0 by norm_num) (unit - 2)
  have positive : (0 : ℚ) < 2 ^ (-(unit - 2)).toNat * 10 ^ (-exponent).toNat := by positivity
  have scaled := mul_lt_mul_of_pos_right fine positive
  have below : (10 : ℚ) ^ exponent.toNat * 2 ^ (-(unit - 2)).toNat <
      2 ^ (unit - 2).toNat * 10 ^ (-exponent).toNat := by
    rw [← ten, ← two]
    linarith
  have exact : 10 ^ exponent.toNat * 2 ^ (-(unit - 2)).toNat < 2 ^ (unit - 2).toNat * 10 ^ (-exponent).toNat := by
    exact_mod_cast below
  exact exact

end Scales

section Magnitude

theorem ratio_quotient (x : Binary64) : (x.ratio.1 : ℚ) / x.ratio.2 = x.significand * 2 ^ x.exponent := by
  unfold ratio
  split
  · next positive =>
      obtain ⟨power, same⟩ := Int.eq_ofNat_of_zero_le positive
      simp [same]
  · next negative =>
      obtain ⟨power, same⟩ : ∃ power : Nat, x.exponent = -(power : Int) := ⟨(-x.exponent).toNat, by omega⟩
      simp [same, div_eq_mul_inv]

theorem power_le_of_digits {n : Nat} (nonzero : n ≠ 0) : 10 ^ ((Nat.toDigits 10 n).length - 1) ≤ n := by
  by_cases single : (Nat.toDigits 10 n).length - 1 = 0
  · rw [single]
    exact Nat.one_le_iff_ne_zero.mpr nonzero
  · by_contra less
    have short := (Nat.length_toDigits_le_iff (by decide) (Nat.pos_of_ne_zero single)).mpr (not_le.mp less)
    omega

theorem lt_power_digits (n : Nat) : n < 10 ^ (Nat.toDigits 10 n).length :=
  (Nat.length_toDigits_le_iff (by decide) Nat.length_toDigits_pos).mp le_rfl

theorem power_magnitude_le (nonzero : x.significand ≠ 0) :
    (10 : ℚ) ^ x.magnitude ≤ x.significand * 2 ^ x.exponent := by
  have denPositive : (0 : ℚ) < x.ratio.2 := by exact_mod_cast x.ratio_den_pos
  have numPositive := ratio_num_pos nonzero
  rw [← ratio_quotient, le_div_iff₀ denPositive]
  simp only [magnitude]
  split
  · next large =>
      have whole : x.ratio.1 / x.ratio.2 ≠ 0 := (Nat.div_pos large x.ratio_den_pos).ne'
      have digits : (0 : Nat) < (Nat.toDigits 10 (x.ratio.1 / x.ratio.2)).length := Nat.length_toDigits_pos
      have power := Nat.mul_le_of_le_div _ _ _ (power_le_of_digits whole)
      rw [show ((Nat.toDigits 10 (x.ratio.1 / x.ratio.2)).length : Int) - 1 =
        (((Nat.toDigits 10 (x.ratio.1 / x.ratio.2)).length - 1 : Nat) : Int) by omega, zpow_natCast]
      exact_mod_cast power
  · have power := lt_power_digits ((x.ratio.2 - 1) / x.ratio.1)
    rw [Nat.div_lt_iff_lt_mul numPositive] at power
    have below : x.ratio.2 ≤ 10 ^ (Nat.toDigits 10 ((x.ratio.2 - 1) / x.ratio.1)).length * x.ratio.1 := by omega
    rw [zpow_neg, zpow_natCast, inv_mul_le_iff₀ (by positivity)]
    exact_mod_cast below

end Magnitude

section Grid

theorem quarters_apart (x : Binary64) : x.quarters.2.1 + 1 ≤ x.quarters.2.2 := by
  simp [quarters]

theorem quarters_low (nonzero : x.significand ≠ 0) : x.quarters.1 + 1 ≤ x.quarters.2.1 ∧ 0 < x.quarters.1 := by
  simp only [quarters]
  split <;> omega

theorem reads_back_between {s : Scale} {digits : Nat} (above : x.quarters.1 * s.binary < digits * s.decimal)
    (below : digits * s.decimal < x.quarters.2.2 * s.binary) : x.readsBack s digits = true := by
  simp only [readsBack]
  split
  · simp [above.le, below.le]
  · simp [above, below]

theorem zero_not_read_back (nonzero : x.significand ≠ 0) (unit exponent : Int) :
    x.readsBack (scale unit exponent) 0 = false := by
  have low : 0 < x.quarters.1 * (scale unit exponent).binary :=
    Nat.mul_pos (quarters_low nonzero).2 (scale_binary_pos unit exponent)
  simp only [readsBack, Nat.zero_mul]
  split
  · simp [Nat.not_le.mpr low]
  · simp

def nearer (x : Binary64) (s : Scale) : Nat :=
  let below := x.quarters.2.1 * s.binary / s.decimal
  let twice := 2 * (x.quarters.2.1 * s.binary % s.decimal)
  if twice < s.decimal || (twice == s.decimal && below % 2 == 0) then below else below + 1

theorem nearer_cases (x : Binary64) (s : Scale) :
    x.nearer s = x.quarters.2.1 * s.binary / s.decimal ∨ x.nearer s = x.quarters.2.1 * s.binary / s.decimal + 1 := by
  simp only [nearer]
  split
  · exact .inl rfl
  · exact .inr rfl

theorem on_grid_eq (x : Binary64) (exponent : Int) :
    ∃ farther, x.onGrid exponent =
      if x.readsBack (scale x.exponent exponent) (x.nearer (scale x.exponent exponent)) then
        some ⟨x.nearer (scale x.exponent exponent), exponent⟩
      else if x.readsBack (scale x.exponent exponent) farther then some ⟨farther, exponent⟩ else none :=
  ⟨_, rfl⟩

theorem on_grid_nonzero (nonzero : x.significand ≠ 0) {exponent : Int} {d : Decimal}
    (found : x.onGrid exponent = some d) : d.digits ≠ 0 := by
  have apart : ∀ digits : Nat, x.readsBack (scale x.exponent exponent) digits = true → digits ≠ 0 := by
    rintro digits read rfl
    rw [zero_not_read_back nonzero] at read
    cases read
  obtain ⟨farther, tried⟩ := x.on_grid_eq exponent
  rw [tried] at found
  split at found
  · next near =>
      cases found
      exact apart _ near
  · obtain ⟨far, same⟩ := Option.ite_none_right_eq_some.mp found
    cases same
    exact apart _ far

theorem on_grid_of_fine (nonzero : x.significand ≠ 0) {exponent : Int}
    (fine : (scale x.exponent exponent).decimal < (scale x.exponent exponent).binary) :
    (x.onGrid exponent).isSome = true := by
  obtain ⟨low, _⟩ := quarters_low nonzero
  have high := x.quarters_apart
  generalize scaled : scale x.exponent exponent = s at fine
  have division := Nat.div_add_mod' (x.quarters.2.1 * s.binary) s.decimal
  have positive : 0 < s.decimal := by
    rw [← scaled]
    exact Nat.mul_pos (Nat.pow_pos (by decide)) (Nat.pow_pos (by decide))
  have remainder := Nat.mod_lt (x.quarters.2.1 * s.binary) positive
  have lower : x.quarters.1 * s.binary + s.binary ≤ x.quarters.2.1 * s.binary := by
    rw [← Nat.succ_mul]
    exact Nat.mul_le_mul_right _ low
  have upper : x.quarters.2.1 * s.binary + s.binary ≤ x.quarters.2.2 * s.binary := by
    rw [← Nat.succ_mul]
    exact Nat.mul_le_mul_right _ high
  have near : x.readsBack s (x.nearer s) = true := by
    rcases x.nearer_cases s with same | same
    · rw [same]
      exact reads_back_between (by omega) (by omega)
    · rw [same]
      exact reads_back_between (by rw [Nat.succ_mul]; omega) (by rw [Nat.succ_mul]; omega)
  obtain ⟨farther, tried⟩ := x.on_grid_eq exponent
  rw [tried, scaled, if_pos near, Option.isSome_some]

end Grid

section Search

theorem shortest_from_nonzero (nonzero : x.significand ≠ 0) {tries steps : Nat} {exponent : Int}
    (enough : steps < tries) (found : (x.onGrid (exponent - steps)).isSome = true) :
    (x.shortestFrom tries exponent).digits ≠ 0 := by
  induction tries generalizing steps exponent with
  | zero => exact absurd enough (Nat.not_lt_zero steps)
  | succ tries ih =>
      rw [shortestFrom]
      cases here : x.onGrid exponent with
      | some d => exact on_grid_nonzero nonzero here
      | none =>
          cases steps with
          | zero => simp [here] at found
          | succ steps =>
              refine ih (Nat.lt_of_succ_lt_succ enough) ?_
              rwa [show exponent - 1 - steps = exponent - (steps + 1 : Nat) by omega]

theorem trim_zeros_nonzero (tries : Nat) {d : Decimal} (nonzero : d.digits ≠ 0) :
    (d.trimZeros tries).digits ≠ 0 := by
  induction tries generalizing d with
  | zero => exact nonzero
  | succ tries ih =>
      rw [Decimal.trimZeros]
      split
      · next zero => exact ih (by dsimp only; omega)
      · exact nonzero

theorem seventeen_digits_fine (canonical : x.Canonical) (nonzero : x.significand ≠ 0) :
    (10 : ℚ) ^ (x.magnitude - 17) < 2 ^ (x.exponent - 2) := by
  have significand : (x.significand : ℚ) < 2 ^ (53 : Nat) := by exact_mod_cast canonical.1
  have two := two_power_pos x.exponent
  calc (10 : ℚ) ^ (x.magnitude - 17) = 10 ^ x.magnitude / 10 ^ (17 : Nat) := by
        rw [zpow_sub₀ (by norm_num)]
        norm_cast
    _ ≤ x.significand * 2 ^ x.exponent / 10 ^ (17 : Nat) := by gcongr; exact power_magnitude_le nonzero
    _ < 2 ^ (53 : Nat) * 2 ^ x.exponent / 10 ^ (17 : Nat) := by gcongr
    _ < 2 ^ x.exponent / 4 := by
        rw [div_lt_div_iff₀ (by norm_num) (by norm_num)]
        nlinarith
    _ = 2 ^ (x.exponent - 2) := by
        rw [zpow_sub₀ (by norm_num)]
        norm_num

/-- The shortest decimal of a number that is not zero is not zero either. -/
theorem shortest_nonzero (canonical : x.Canonical) (nonzero : x.significand ≠ 0) : x.shortest.digits ≠ 0 := by
  have fine := scale_decimal_lt (seventeen_digits_fine canonical nonzero)
  have found := on_grid_of_fine nonzero fine
  exact trim_zeros_nonzero 18 (shortest_from_nonzero nonzero (show 17 < 18 by decide) found)

end Search

end Delivery.Binary64
