import Delivery.Instant.Rfc3339
import Delivery.Proofs.Instant.Calendar
import Delivery.Proofs.Json.Canonical
set_option autoImplicit false

namespace Delivery

namespace Text.Decimal

theorem padded_length {width n : Nat} (positive : 0 < width) (fits : n < 10 ^ width) :
    (padded width n).length = width := by
  have length : (ofNat n).length ≤ width := (Nat.length_toDigits_le_iff (by decide) positive).mpr fits
  simp only [padded, List.length_append, List.length_replicate]
  omega

theorem padded_digit {width n : Nat} {c : Char} (member : c ∈ padded width n) : c.isDigit = true := by
  rcases List.mem_append.mp member with zero | digit
  · rw [(List.mem_replicate.mp zero).2]
    rfl
  · exact Json.Scan.digit_of_mem digit

theorem padded_value (width n : Nat) : Nat.ofDigitChars 10 (padded width n) 0 = n := by
  rw [padded, Nat.ofDigitChars_append, Nat.ofDigitChars_replicate_zero, Nat.mul_zero, ofNat,
    Nat.ofDigitChars_ten_toDigits]

end Text.Decimal

namespace Instant

namespace Rfc3339

theorem le_of_digits (ds : List Char) (value : Nat) : value ≤ Nat.ofDigitChars 10 ds value := by
  induction ds generalizing value with
  | nil => simp
  | cons c ds ih =>
      rw [Nat.ofDigitChars_cons]
      have later := ih (10 * value + (c.toNat - '0'.toNat))
      omega

theorem digits_read {ds rest : List Char} {width : Nat} (digit : ∀ c ∈ ds, c.isDigit = true) (short : ds.length ≤ width)
    (ends : ds.length = width ∨ Json.Scan.startsWithDigit rest = false) {value : Nat} {needed : Bool}
    (enough : needed = true → ds ≠ []) (fits : Nat.ofDigitChars 10 ds value ≤ maxWord) :
    digits value needed width (ds ++ rest) = .ok (Nat.ofDigitChars 10 ds value, rest) := by
  induction ds generalizing value needed width with
  | nil =>
      obtain rfl : needed = false := by simpa using enough
      cases width with
      | zero => rfl
      | succ width =>
          have other : Json.Scan.startsWithDigit rest = false := by simpa using ends
          cases rest with
          | nil => rfl
          | cons c more => simp [digits, show c.isDigit = false from other]
  | cons c ds ih =>
      obtain ⟨first, others⟩ := List.forall_mem_cons.mp digit
      cases width with
      | zero => simp at short
      | succ width =>
          rw [Nat.ofDigitChars_cons, Nat.mul_comm] at fits ⊢
          have small : value * 10 + (c.toNat - 48) ≤ maxWord :=
            Nat.le_trans (le_of_digits ds _) fits
          have never : false = true → ds ≠ [] := nofun
          have later := ih others (by simpa using short) (by simpa using ends) never fits
          simp only [List.cons_append, digits, first, small, if_true]
          exact later

theorem padded_read {width n : Nat} (positive : 0 < width) (fits : n < 10 ^ width) {room : Nat} (short : width ≤ room)
    {rest : List Char} (ends : width = room ∨ Json.Scan.startsWithDigit rest = false) (small : n ≤ maxWord) :
    digits 0 true room (Text.Decimal.padded width n ++ rest) = .ok (n, rest) := by
  have length := Text.Decimal.padded_length positive fits
  have value := Text.Decimal.padded_value width n
  have enough : true = true → Text.Decimal.padded width n ≠ [] := by
    intro _ none
    simp [none] at length
    omega
  have read := digits_read (fun _ => Text.Decimal.padded_digit) (length.symm ▸ short) (length.symm ▸ ends) enough
    (value.symm ▸ small)
  rw [read, value]

theorem trim_padded {width n : Nat} (positive : 0 < width) (fits : n < 10 ^ width) (rest : List Char) :
    Text.trimLeft (Text.Decimal.padded width n ++ rest) = Text.Decimal.padded width n ++ rest := by
  have length := Text.Decimal.padded_length positive fits
  apply Text.drop_blanks_of_shown
  cases written : Text.Decimal.padded width n with
  | nil => simp [written] at length; omega
  | cons c more =>
      have member : c ∈ Text.Decimal.padded width n := by simp [written]
      simpa using Text.not_blank_of_digit (Text.Decimal.padded_digit member)

section Fields

variable (rest : List Char)

theorem within_read {low high n : Nat} (inRange : low ≤ n ∧ n ≤ high) (fits : n < 100) :
    within low high 2 (Text.Decimal.padded 2 n ++ rest) = .ok (n, rest) := by
  have small : n ≤ maxWord := by
    rw [maxWord]
    omega
  have found : number 2 (Text.Decimal.padded 2 n ++ rest) = .ok (n, rest) := by
    rw [number, trim_padded (by decide) fits, padded_read (by decide) fits (by decide) (.inl rfl) small]
  simp [within, found, inRange, bind, Except.bind]

theorem mark_read {c : Char} (shown : Text.isBlank c = false) : mark c (c :: rest) = .ok ((), rest) := by
  simp [mark, Text.trimLeft, shown]

theorem year_read {number : Int} (inRange : 0 ≤ number ∧ number ≤ 9999) :
    year (yearText number ++ rest) = .ok (number, rest) := by
  obtain ⟨n, rfl⟩ := Int.eq_ofNat_of_zero_le inRange.1
  have fits : n < 10 ^ 4 := by omega
  have small : n ≤ maxWord := by
    rw [maxWord]
    omega
  have length := Text.Decimal.padded_length (by decide) fits
  have found : digits 0 true 4 (Text.Decimal.padded 4 n ++ rest) = .ok (n, rest) :=
    padded_read (by decide) fits (by decide) (.inl rfl) small
  rw [yearText, if_pos inRange, Int.toNat_natCast]
  cases written : Text.Decimal.padded 4 n with
  | nil => simp [written] at length
  | cons c more =>
      -- A digit is not a sign, so the year is read without one.
      have member : c ∈ Text.Decimal.padded 4 n := by simp [written]
      have digit := Text.Decimal.padded_digit member
      have noMinus : c ≠ '-' := by rintro rfl; cases digit
      have noPlus : c ≠ '+' := by rintro rfl; cases digit
      have trimmed := trim_padded (by decide) fits rest
      rw [written] at found trimmed
      have fitsWord : (-2147483648 : Int) ≤ n ∧ (n : Int) ≤ 2147483647 := by omega
      rw [List.cons_append] at found trimmed ⊢
      simp [year, trimmed, noMinus, noPlus, found, fitsWord, bind, Except.bind, pure, Except.pure]

end Fields

theorem fraction_field {width n : Nat} (positive : 0 < width) (short : width ≤ 9) (fits : n < 10 ^ width) :
    fraction ('.' :: Text.Decimal.padded width n ++ ['Z']) = .ok (n * 10 ^ (9 - width), ['Z']) := by
  have small : n ≤ maxWord := by
    have most : 10 ^ width ≤ 10 ^ 9 := Nat.pow_le_pow_right (by decide) short
    rw [maxWord]
    omega
  have found : digits 0 true 9 (Text.Decimal.padded width n ++ ['Z']) = .ok (n, ['Z']) :=
    padded_read positive fits short (.inr rfl) small
  have length := Text.Decimal.padded_length positive fits
  have after : ['Z'].dropWhile Char.isDigit = ['Z'] := rfl
  simp [fraction, found, length, after, bind, Except.bind]

theorem fraction_read {nanos : Nat} (fits : nanos < 1000000000) :
    fraction (fractionText nanos ++ ['Z']) = .ok (nanos, ['Z']) := by
  unfold fractionText
  split
  · rename_i none
    rw [none]
    rfl
  · split
    · rename_i millis
      rw [fraction_field (by decide) (by decide) (by omega)]
      simp
      omega
    · split
      · rename_i micros
        rw [fraction_field (by decide) (by decide) (by omega)]
        simp
        omega
      · rw [fraction_field (by decide) (by decide) (by omega)]
        simp

theorem month_length_le (year : Int) (month : Nat) : Date.monthLength year month ≤ 31 := by
  unfold Date.monthLength
  split
  · split <;> decide
  all_goals decide

theorem day_in_range {date : Date} (valid : date.Valid) (inRange : 0 ≤ date.year ∧ date.year ≤ 9999) :
    firstDay ≤ date.toDays ∧ date.toDays ≤ lastDay := by
  obtain ⟨_, _, first, last⟩ := valid
  have length := month_length_le date.year date.month
  have firstOf : firstDay = -96465292 := by rfl
  have lastOf : lastDay = 95026236 := by rfl
  rw [firstOf, lastOf]
  simp only [Date.toDays]
  split <;> omega

end Rfc3339

def FourDigitYear (instant : Instant) : Prop :=
  0 ≤ (Date.ofDays (instant.seconds / 86400)).year ∧ (Date.ofDays (instant.seconds / 86400)).year ≤ 9999

instance (instant : Instant) : Decidable instant.FourDigitYear :=
  inferInstanceAs (Decidable (_ ∧ _))

namespace Rfc3339

variable {instant : Instant}

theorem assemble_parts {date : Date} {hour minute second nanos whole : Nat} (valid : date.Valid)
    (inRange : firstDay ≤ date.toDays ∧ date.toDays ≤ lastDay)
    (settled : (if second = 60 then (59, nanos + 1000000000) else (second, nanos)) = (whole, instant.nanos))
    (same : date.toDays * 86400 + hour * 3600 + minute * 60 + whole = instant.seconds)
    (day : instant.seconds / 86400 = date.toDays) : assemble date hour minute second nanos 0 = .ok instant := by
  have readable : ¬(¬date.Valid ∨ date.toDays < firstDay ∨ lastDay < date.toDays) := by
    simp only [valid, not_true_eq_false, false_or]
    omega
  have possible : ¬(instant.seconds / 86400 < firstDay ∨ lastDay < instant.seconds / 86400) := by omega
  rw [assemble, if_neg readable, if_neg (by decide), settled]
  simp only [Int.sub_zero, same, if_neg possible, dif_pos instant.leap]

-- A second 60 and a part of a second are the second 59 and a billion of nanoseconds more.
theorem assemble_written (inYears : instant.FourDigitYear) :
    let clock := (instant.seconds % 86400).toNat
    let isLeap := 1000000000 ≤ instant.nanos
    assemble (Date.ofDays (instant.seconds / 86400)) (clock / 3600) (clock / 60 % 60)
      (clock % 60 + if isLeap then 1 else 0) (if isLeap then instant.nanos - 1000000000 else instant.nanos) 0 =
      .ok instant := by
  intro clock isLeap
  have valid := Date.of_days_valid (instant.seconds / 86400)
  have day := Date.to_days_of_days (instant.seconds / 86400)
  have proper := instant.leap
  have settled : (if clock % 60 + (if isLeap then 1 else 0) = 60
      then (59, (if isLeap then instant.nanos - 1000000000 else instant.nanos) + 1000000000)
      else (clock % 60 + (if isLeap then 1 else 0), if isLeap then instant.nanos - 1000000000 else instant.nanos)) =
      (clock % 60, instant.nanos) := by
    by_cases leap : isLeap
    · have last : clock % 60 = 59 := by omega
      have whole : instant.nanos - 1000000000 + 1000000000 = instant.nanos := by omega
      simp [leap, last, whole]
    · have counted : clock % 60 ≠ 60 := by omega
      simp [leap, counted]
  exact assemble_parts valid (day_in_range valid inYears) settled (by omega) day.symm

theorem parts_read {date : Date} {hour minute second nanos : Nat} (inYears : 0 ≤ date.year ∧ date.year ≤ 9999)
    (valid : date.Valid) (inDay : hour ≤ 23 ∧ minute ≤ 59 ∧ second ≤ 60) (fits : nanos < 1000000000) :
    readChars (yearText date.year ++ '-' :: Text.Decimal.padded 2 date.month ++ '-' :: Text.Decimal.padded 2 date.day ++
      'T' :: Text.Decimal.padded 2 hour ++ ':' :: Text.Decimal.padded 2 minute ++
      ':' :: Text.Decimal.padded 2 second ++ fractionText nanos ++ ['Z']) =
      assemble date hour minute second nanos 0 := by
  obtain ⟨firstMonth, lastMonth, firstDay, lastDay⟩ := valid
  obtain ⟨inHours, inMinutes, inSeconds⟩ := inDay
  have day : date.day ≤ 31 := lastDay.trans (month_length_le date.year date.month)
  have dash : Text.isBlank '-' = false := rfl
  have colon : Text.isBlank ':' = false := rfl
  have zulu : offset (Text.trimLeft ['Z']) = .ok (0, []) := rfl
  simp only [readChars, List.append_assoc, List.cons_append, year_read _ inYears, mark_read _ dash, mark_read _ colon,
    within_read _ ⟨firstMonth, lastMonth⟩ (by omega), within_read _ ⟨firstDay, day⟩ (by omega), separator, true_or,
    if_true, within_read _ ⟨Nat.zero_le _, inHours⟩ (by omega), within_read _ ⟨Nat.zero_le _, inMinutes⟩ (by omega),
    within_read _ ⟨Nat.zero_le _, inSeconds⟩ (by omega), fraction_read fits, zulu, bind, Except.bind]
  rfl

end Rfc3339

/-- An instant of the years 0 to 9999 is read from what is written of it, be it within a leap second or not. -/
theorem read_write {instant : Instant} (inYears : instant.FourDigitYear) : read instant.write = .ok instant := by
  have valid := Date.of_days_valid (instant.seconds / 86400)
  obtain ⟨clock, counted⟩ : ∃ clock, clock = (instant.seconds % 86400).toNat := ⟨_, rfl⟩
  have minute : clock / 60 % 60 ≤ 59 := by omega
  have second : clock % 60 + (if 1000000000 ≤ instant.nanos then 1 else 0) ≤ 60 := by
    split <;> omega
  have nanos : (if 1000000000 ≤ instant.nanos then instant.nanos - 1000000000 else instant.nanos) < 1000000000 := by
    have proper := instant.leap
    split <;> omega
  have assembled := Rfc3339.assemble_written inYears
  simp only [← counted] at assembled
  simp only [read, write, String.toList_ofList, Rfc3339.writeChars, ← counted]
  exact (Rfc3339.parts_read inYears valid ⟨by omega, minute, second⟩ nanos).trans assembled

end Instant

end Delivery
