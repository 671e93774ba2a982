import Mathlib.Tactic.SplitIfs
import Delivery.Proofs.Binary64.Rounding
import Delivery.Proofs.Json.Readers
set_option autoImplicit false

namespace Delivery.Json

structure OfNumbers (property : Json → Prop) : Prop where
  word : ∀ n, fitsInteger n = true → property (.int n)
  float : ∀ x : Binary64, x.Canonical → property (.float x)

namespace Scan

section Read

variable {property : Json → Prop}

theorem finish_float_gives (each : OfNumbers property) (negative : Bool) (significand : Nat) (exponent : Int) :
    (finishFloat negative significand exponent).Gives property := by
  intro cs value rest read
  cases found : Binary64.ofDecimal negative significand exponent with
  | none => simp [finishFloat, found] at read
  | some x =>
      simp only [finishFloat, found, Except.ok.injEq, Prod.mk.injEq] at read
      exact read.1 ▸ each.float x (Binary64.of_decimal_canonical found)

theorem exponent_part_gives (each : OfNumbers property) (negative : Bool) (significand : Nat) (start : Int) :
    (exponentPart negative significand start).Gives property := by
  intro cs value rest read
  unfold exponentPart at read
  split at read
  next down digits _ =>
    cases digits with
    | nil => simp at read
    | cons c more =>
        simp only at read
        split_ifs at read
        · simp at read
        · simp only [Except.ok.injEq, Prod.mk.injEq] at read
          exact read.1 ▸ each.float _ (Binary64.zero_canonical negative)
        · exact finish_float_gives each negative significand _ read
        · exact finish_float_gives each negative significand _ read
        · simp at read

theorem exponent_or_end_gives (each : OfNumbers property) (negative : Bool) (significand : Nat) (exponent : Int) :
    (exponentOrEnd negative significand exponent).Gives property := by
  intro cs value rest read
  rw [exponentOrEnd.eq_def] at read
  split at read
  · exact exponent_part_gives each negative significand exponent read
  · exact exponent_part_gives each negative significand exponent read
  · exact finish_float_gives each negative significand exponent read

theorem fraction_part_gives (each : OfNumbers property) (negative : Bool) (significand : Nat) (start : Int) :
    (fractionPart negative significand start).Gives property := by
  intro cs value rest read
  simp only [fractionPart] at read
  split_ifs at read
  · exact exponent_or_end_gives each negative _ _ read
  · split at read <;> simp at read
  · exact exponent_or_end_gives each negative _ _ read

theorem whole_number_gives (each : OfNumbers property) (negative : Bool) {significand : Nat}
    (fits : significand ≤ maxSignificand) : (wholeNumber negative significand).Gives property := by
  intro cs value rest read
  simp only [maxSignificand] at fits
  simp only [wholeNumber] at read
  split_ifs at read with minus beyond
  · exact finish_float_gives each true significand 0 read
  all_goals
    simp only [Except.ok.injEq, Prod.mk.injEq] at read
    refine read.1 ▸ each.word _ ?_
    simp only [fitsInteger, Bool.and_eq_true, decide_eq_true_eq]
    omega

theorem after_digits_gives (each : OfNumbers property) (negative : Bool) {significand : Nat}
    (fits : significand ≤ maxSignificand) : (afterDigits negative significand).Gives property := by
  intro cs value rest read
  rw [afterDigits.eq_def] at read
  split at read
  · exact fraction_part_gives each negative significand 0 read
  · exact exponent_part_gives each negative significand 0 read
  · exact exponent_part_gives each negative significand 0 read
  · exact whole_number_gives each negative fits read

theorem word_digits_bounded {value : Nat} (count : Nat) (cs : List Char) (fits : value ≤ maxSignificand) :
    (wordDigits value count cs).1 ≤ maxSignificand := by
  induction cs generalizing value count with
  | nil => exact fits
  | cons c rest ih =>
      simp only [wordDigits, Bool.and_eq_true, decide_eq_true_eq]
      split
      next taken => exact ih (count + 1) taken.2
      next => exact fits

theorem number_gives (each : OfNumbers property) (negative : Bool) : (number negative).Gives property := by
  intro cs value rest read
  cases cs with
  | nil => simp [number] at read
  | cons c more =>
      simp only [number] at read
      split_ifs at read with zero double digit dropped
      · simp at read
      · exact after_digits_gives each negative (Nat.zero_le _) read
      · split at read
        · exact fraction_part_gives each negative _ _ read
        · exact exponent_or_end_gives each negative _ _ read
      · have small : c.toNat - 48 ≤ maxSignificand := by
          have bounds : 48 ≤ c.toNat ∧ c.toNat ≤ 57 := Char.isDigit_iff_toNat.mp digit
          simp only [maxSignificand]
          omega
        exact after_digits_gives each negative (word_digits_bounded 0 more small) read
      · simp at read

end Read

section Printed

def Stops : List Char → Prop
  | [] => True
  | c :: _ => c.isDigit = false ∧ c ≠ '.' ∧ c ≠ 'e' ∧ c ≠ 'E'

theorem starts_with_digit_of_stops {rest : List Char} (stops : Stops rest) : startsWithDigit rest = false := by
  cases rest with
  | nil => rfl
  | cons c more => exact stops.1

theorem after_digits_of_stops (negative : Bool) (significand : Nat) {rest : List Char} (stops : Stops rest) :
    afterDigits negative significand rest = wholeNumber negative significand rest := by
  rw [afterDigits.eq_def]
  split
  · exact absurd rfl stops.2.1
  · exact absurd rfl stops.2.2.1
  · exact absurd rfl stops.2.2.2
  · rfl

theorem word_digits_of_stops (value count : Nat) {rest : List Char} (stops : Stops rest) :
    wordDigits value count rest = (value, count, rest) := by
  cases rest with
  | nil => rfl
  | cons c more => simp [wordDigits, stops.1]

theorem digit_of_mem {n : Nat} {c : Char} (member : c ∈ Text.Decimal.ofNat n) : c.isDigit = true :=
  Nat.isDigit_of_mem_toDigits (by decide) (by decide) member

theorem printed_starts (n : Nat) : ∃ c digits, Text.Decimal.ofNat n = c :: digits ∧ c.isDigit = true := by
  cases printed : Text.Decimal.ofNat n with
  | nil => exact absurd printed Nat.toDigits_ne_nil
  | cons c digits => exact ⟨c, digits, rfl, digit_of_mem (by rw [printed]; exact List.mem_cons_self)⟩

theorem digit_char_digit : ∀ digit < 10, (Nat.digitChar digit).isDigit = true := by decide

theorem digit_char_value : ∀ digit < 10, (Nat.digitChar digit).toNat - 48 = digit := by decide

theorem digit_char_ne_zero : ∀ digit < 10, Nat.digitChar digit = '0' → digit = 0 := by decide

-- The digits of a number are a first one, which is no zero but for zero itself, and those that
-- `wordDigits` takes after it; the induction cuts off the last digit.
theorem digits_read (n : Nat) (fits : n ≤ maxSignificand) :
    ∃ c digits, Text.Decimal.ofNat n = c :: digits ∧ c.isDigit = true ∧ (c = '0' → n = 0) ∧
      ∀ rest, wordDigits (c.toNat - 48) 0 (digits ++ rest) = wordDigits n digits.length rest := by
  induction n using Nat.strongRecOn with
  | ind n ih =>
      by_cases small : n < 10
      · refine ⟨Nat.digitChar n, [], Nat.toDigits_of_lt_base small, digit_char_digit n small,
          digit_char_ne_zero n small, fun rest => ?_⟩
        simp [digit_char_value n small]
      · have last : n % 10 < 10 := Nat.mod_lt n (by decide)
        obtain ⟨c, digits, front, digit, leading, read⟩ := ih (n / 10) (by omega) (by omega)
        have split : Text.Decimal.ofNat n = c :: (digits ++ [Nat.digitChar (n % 10)]) := by
          rw [Text.Decimal.ofNat, Nat.toDigits_of_base_le (by decide) (by omega)]
          rw [Text.Decimal.ofNat] at front
          simp [front]
        refine ⟨c, _, split, digit, fun zero => by have := leading zero; omega, fun rest => ?_⟩
        have joined : n / 10 * 10 + n % 10 = n := Nat.div_add_mod' n 10
        simp [read, wordDigits, digit_char_digit _ last, digit_char_value _ last, joined, fits]

theorem number_printed (negative : Bool) {n : Nat} (fits : n ≤ maxSignificand) {rest : List Char}
    (stops : Stops rest) :
    number negative (Text.Decimal.ofNat n ++ rest) = wholeNumber negative n rest := by
  obtain ⟨c, digits, printed, digit, leading, read⟩ := digits_read n fits
  have plain := starts_with_digit_of_stops stops
  by_cases zero : c = '0'
  · have none : n = 0 := leading zero
    subst none
    simp [number, Text.Decimal.ofNat, plain, after_digits_of_stops negative 0 stops]
  · simp [printed, number, zero, digit, read, word_digits_of_stops n _ stops, plain,
      after_digits_of_stops negative n stops]

end Printed

end Scan

end Delivery.Json
