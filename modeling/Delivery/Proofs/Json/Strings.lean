import Mathlib.Tactic.SplitIfs
import Delivery.Proofs.Json.Readers
set_option autoImplicit false

namespace Delivery.Json

namespace Scan

theorem hex_value_digit : ∀ digit < 16, Text.hexValue? (hexDigit digit) = some digit := by decide

theorem escape_control {c : Char} (control : c.toNat < 32) (rest : List Char) :
    escape ('u' :: '0' :: '0' :: hexDigit (c.toNat / 16) :: hexDigit (c.toNat % 16) :: rest) = .ok (c, rest) := by
  have high : Text.hexValue? (hexDigit (c.toNat / 16)) = some (c.toNat / 16) := hex_value_digit _ (by omega)
  have low : Text.hexValue? (hexDigit (c.toNat % 16)) = some (c.toNat % 16) := hex_value_digit _ (by omega)
  have zero : Text.hexValue? '0' = some 0 := by decide
  have code : c.toNat / 16 * 16 + c.toNat % 16 = c.toNat := Nat.div_add_mod' c.toNat 16
  have noLow : isLowSurrogate c.toNat = false := by simp [isLowSurrogate]; omega
  have noHigh : isHighSurrogate c.toNat = false := by simp [isHighSurrogate]; omega
  simp [escape, fourHex, zero, high, low, code, noLow, noHigh, Char.ofNat_toNat, bind, Except.bind]

theorem eq_of_code {c : Char} {code : Nat} (same : c.toNat = code) : c = Char.ofNat code := by
  rw [← same, Char.ofNat_toNat]

theorem escape_char_cases (c : Char) :
    (escapeChar c = [c] ∧ c ≠ '"' ∧ c ≠ '\\' ∧ 32 ≤ c.toNat) ∨
      ∃ escaped, escapeChar c = '\\' :: escaped ∧ ∀ rest, escape (escaped ++ rest) = .ok (c, rest) := by
  by_cases control : c.toNat < 32
  · refine .inr ?_
    have quote : c ≠ '"' := fun same => by subst same; contradiction
    have backslash : c ≠ '\\' := fun same => by subst same; contradiction
    unfold escapeChar
    rw [if_neg quote, if_neg backslash]
    split_ifs with backspace tab newline formFeed carriageReturn
    · exact ⟨['b'], rfl, fun rest => by rw [eq_of_code backspace]; rfl⟩
    · exact ⟨['t'], rfl, fun rest => by rw [eq_of_code tab]; rfl⟩
    · exact ⟨['n'], rfl, fun rest => by rw [eq_of_code newline]; rfl⟩
    · exact ⟨['f'], rfl, fun rest => by rw [eq_of_code formFeed]; rfl⟩
    · exact ⟨['r'], rfl, fun rest => by rw [eq_of_code carriageReturn]; rfl⟩
    · exact ⟨_, rfl, fun rest => escape_control control rest⟩
  · by_cases quote : c = '"'
    · subst quote
      exact .inr ⟨['"'], rfl, fun rest => rfl⟩
    · by_cases backslash : c = '\\'
      · subst backslash
        exact .inr ⟨['\\'], rfl, fun rest => rfl⟩
      · have bound : 32 ≤ c.toNat := by omega
        have plain : escapeChar c = [c] := by
          have apart : ∀ code < 32, c.toNat ≠ code := fun code small => by omega
          simp [escapeChar, quote, backslash, apart, control]
        exact .inl ⟨plain, quote, backslash, bound⟩

theorem string_chars_printed (chars rest : List Char) {fuel : Nat} (enough : chars.length < fuel) :
    stringChars fuel (chars.flatMap escapeChar ++ '"' :: rest) = .ok (chars, rest) := by
  induction chars generalizing fuel with
  | nil =>
      obtain ⟨fuel, rfl⟩ := Nat.exists_eq_add_one_of_ne_zero (Nat.ne_of_gt enough)
      simp [stringChars]
  | cons c chars ih =>
      obtain ⟨fuel, rfl⟩ := Nat.exists_eq_add_one_of_ne_zero (Nat.ne_zero_of_lt enough)
      have more := ih (Nat.lt_of_succ_lt_succ enough)
      rw [List.flatMap_cons, List.append_assoc]
      rcases escape_char_cases c with ⟨plain, quote, backslash, bound⟩ | ⟨escaped, printed, read⟩
      · have noControl : ¬ c.toNat < 32 := by omega
        simp [plain, stringChars, quote, backslash, noControl, more, bind, Except.bind]
      · simp [printed, stringChars, read, more, bind, Except.bind]

theorem length_le_printed (chars : List Char) : chars.length ≤ (chars.flatMap escapeChar).length := by
  induction chars with
  | nil => simp
  | cons c chars ih =>
      rcases escape_char_cases c with ⟨plain, _⟩ | ⟨escaped, printed, _⟩
      · simp only [List.flatMap_cons, plain, List.length_append, List.length_cons, List.length_nil]
        omega
      · simp only [List.flatMap_cons, printed, List.length_append, List.length_cons]
        omega

theorem string_printed (s : String) (rest : List Char) :
    string (s.toList.flatMap escapeChar ++ '"' :: rest) = .ok (s, rest) := by
  have enough : s.toList.length < (s.toList.flatMap escapeChar ++ '"' :: rest).length + 1 := by
    have := length_le_printed s.toList
    simp only [List.length_append]
    omega
  simp only [string, string_chars_printed s.toList rest enough, bind, Except.bind, String.ofList_toList]

end Scan

end Delivery.Json
