import Delivery.Text.Decimal
set_option autoImplicit false

namespace Delivery.Text.Decimal

theorem extend_digits (value : Nat) {ds : List Char} (digits : ∀ c ∈ ds, c.isDigit = true) :
    extend value ds = some (Nat.ofDigitChars 10 ds value) := by
  induction ds generalizing value with
  | nil => rfl
  | cons c rest ih =>
      obtain ⟨digit, later⟩ := List.forall_mem_cons.mp digits
      rw [extend, if_pos digit, ih _ later, Nat.ofDigitChars_cons, Nat.mul_comm]
      rfl

theorem digits_of_extend {value n : Nat} {cs : List Char} (read : extend value cs = some n) :
    (∀ c ∈ cs, c.isDigit = true) ∧ Nat.ofDigitChars 10 cs value = n := by
  induction cs generalizing value with
  | nil => exact ⟨nofun, Option.some.inj read⟩
  | cons c rest ih =>
      rw [extend] at read
      by_cases digit : c.isDigit = true
      · rw [if_pos digit] at read
        obtain ⟨later, total⟩ := ih read
        refine ⟨List.forall_mem_cons.mpr ⟨digit, later⟩, ?_⟩
        rw [Nat.ofDigitChars_cons, Nat.mul_comm]
        exact total
      · rw [if_neg digit] at read
        cases read

theorem digits_of_nat (n : Nat) : ∀ c ∈ ofNat n, c.isDigit = true := fun _ member =>
  Nat.isDigit_of_mem_toDigits (by decide) (by decide) member

-- There is no leading zero; the induction cuts off the last digit.
theorem leading_digit {n : Nat} (nonzero : n ≠ 0) : ∃ c rest, ofNat n = c :: rest ∧ c ≠ '0' := by
  induction n using Nat.strongRecOn with
  | ind n ih =>
      by_cases small : n < 10
      · have apart : ∀ digit < 10, digit ≠ 0 → Nat.digitChar digit ≠ '0' := by decide
        exact ⟨_, _, Nat.toDigits_of_lt_base small, apart n small nonzero⟩
      · obtain ⟨c, rest, front, leading⟩ := ih (n / 10) (by omega) (by omega)
        refine ⟨c, rest ++ [Nat.digitChar (n % 10)], ?_, leading⟩
        rw [ofNat, Nat.toDigits_of_base_le (by decide) (by omega), ← ofNat, front, List.cons_append]

theorem nat_of_text (n : Nat) : nat? (ofNat n) = some n := by
  have read : extend 0 (ofNat n) = some n := by
    rw [extend_digits 0 (digits_of_nat n), ofNat, Nat.ofDigitChars_ten_toDigits]
  cases text : ofNat n with
  | nil => exact absurd text Nat.toDigits_ne_nil
  | cons c rest => rwa [text] at read

theorem fits_int64 (n : Int64) : fitsInt64 n.toInt = true := by
  have low := Int64.le_toInt n
  have high := Int64.toInt_lt n
  simp [fitsInt64]
  omega

section Numerals

structure Numeral (cs : List Char) (value : Nat) : Prop where
  nonempty : cs ≠ []
  digits : ∀ c ∈ cs, c.isDigit = true
  total : Nat.ofDigitChars 10 cs 0 = value

theorem nat_iff {cs : List Char} {n : Nat} : nat? cs = some n ↔ Numeral cs n := by
  cases cs with
  | nil => exact ⟨nofun, fun numeral => absurd rfl numeral.nonempty⟩
  | cons c rest =>
      constructor
      · intro read
        obtain ⟨digits, total⟩ := digits_of_extend read
        exact ⟨List.cons_ne_nil _ _, digits, total⟩
      · rintro ⟨_, digits, rfl⟩
        exact extend_digits 0 digits

inductive Unsigned : List Char → Nat → Prop where
  | bare {digits : List Char} {value : Nat} (numeral : Numeral digits value) : Unsigned digits value
  | plus {digits : List Char} {value : Nat} (numeral : Numeral digits value) : Unsigned ('+' :: digits) value

inductive Signed : List Char → Int → Prop where
  | unsigned {cs : List Char} {value : Nat} (numeral : Unsigned cs value) : Signed cs value
  | minus {digits : List Char} {value : Nat} (numeral : Numeral digits value) : Signed ('-' :: digits) (-value)

theorem no_sign_in_numeral {c : Char} {rest : List Char} {value : Nat} (sign : c.isDigit = false) :
    ¬ Numeral (c :: rest) value := by
  intro numeral
  have digit := numeral.digits c List.mem_cons_self
  rw [sign] at digit
  cases digit

def withoutPlus : List Char → List Char
  | '+' :: rest => rest
  | cs => cs

theorem unsigned_iff {cs : List Char} {n : Nat} : nat? (withoutPlus cs) = some n ↔ Unsigned cs n := by
  constructor
  · intro read
    have numeral := nat_iff.mp read
    unfold withoutPlus at numeral
    split at numeral
    · exact .plus numeral
    · exact .bare numeral
  · intro unsigned
    cases unsigned with
    | plus numeral => exact nat_iff.mpr numeral
    | bare numeral =>
        unfold withoutPlus
        split
        · exact absurd numeral (no_sign_in_numeral rfl)
        · exact nat_iff.mpr numeral

theorem uint32_iff {cs : List Char} {word : UInt32} : uint32? cs = some word ↔ Unsigned cs word.toNat := by
  have digits : uint32? cs =
      (nat? (withoutPlus cs)).bind fun n => if fitsUInt32 n then some (UInt32.ofNat n) else none := rfl
  rw [digits, Option.bind_eq_some_iff]
  constructor
  · rintro ⟨n, read, kept⟩
    split at kept
    · next fits =>
        have small : n < 4294967296 := by
          simp [fitsUInt32] at fits
          omega
        cases kept
        rw [UInt32.toNat_ofNat_of_lt' small]
        exact unsigned_iff.mp read
    · cases kept
  · intro unsigned
    have small := word.toNat_lt
    have fits : fitsUInt32 word.toNat = true := by
      simp [fitsUInt32]
      omega
    exact ⟨_, unsigned_iff.mpr unsigned, by rw [if_pos fits, UInt32.ofNat_toNat]⟩

theorem int_iff {cs : List Char} {n : Int} : int? cs = some n ↔ Signed cs n := by
  constructor
  · intro read
    unfold int? at read
    split at read
    all_goals obtain ⟨value, found, rfl⟩ := Option.map_eq_some_iff.mp read
    · obtain ⟨magnitude, written, same⟩ := Option.bind_eq_some_iff.mp found
      cases same
      exact .minus (nat_iff.mp written)
    · exact .unsigned (.plus (nat_iff.mp found))
    · exact .unsigned (.bare (nat_iff.mp found))
  · intro signed
    cases signed with
    | minus numeral =>
        rw [int?, nat_iff.mpr numeral]
        rfl
    | unsigned unsigned =>
        cases unsigned with
        | plus numeral =>
            rw [int?, nat_iff.mpr numeral]
            rfl
        | bare numeral =>
            unfold int?
            split
            · exact absurd numeral (no_sign_in_numeral rfl)
            · exact absurd numeral (no_sign_in_numeral rfl)
            · rw [nat_iff.mpr numeral]
              rfl

theorem int64_iff {cs : List Char} {word : Int64} : int64? cs = some word ↔ Signed cs word.toInt := by
  rw [int64?, Option.bind_eq_some_iff]
  constructor
  · rintro ⟨n, read, kept⟩
    split at kept
    · next fits =>
        simp [fitsInt64] at fits
        cases kept
        rw [Int64.toInt_ofInt_of_le (by omega) (by omega)]
        exact int_iff.mp read
    · cases kept
  · intro signed
    exact ⟨_, int_iff.mpr signed, by rw [if_pos (fits_int64 word), Int64.ofInt_toInt]⟩

end Numerals

theorem int_of_digits {cs : List Char} (digits : ∀ c ∈ cs, c.isDigit = true) :
    int? cs = (nat? cs).map Int.ofNat := by
  unfold int?
  split
  · exact absurd (digits '-' List.mem_cons_self) (by decide)
  · exact absurd (digits '+' List.mem_cons_self) (by decide)
  · rfl

theorem int_of_text (n : Int) : int? (ofInt n) = some n := by
  cases n with
  | ofNat n => rw [ofInt, int_of_digits (digits_of_nat n), nat_of_text, Option.map_some]
  | negSucc n =>
      rw [ofInt, int?, nat_of_text]
      rfl

theorem int64_of_text (n : Int64) : int64? (ofInt64 n).toList = some n := by
  rw [ofInt64, String.toList_ofList, int64?, int_of_text, Option.bind_some, if_pos (fits_int64 n), Int64.ofInt_toInt]

end Delivery.Text.Decimal
