import Delivery.Proofs.Json.Spelling
set_option autoImplicit false

namespace Delivery.Json

variable {cs rest tail : List Char}

theorem skip_space_followed {c : Char} {more : List Char} (starts : Scan.skipSpace cs = c :: more) (tail : List Char) :
    Scan.skipSpace (cs ++ tail) = c :: (more ++ tail) := by
  rw [Scan.skipSpace] at starts ⊢
  rw [List.dropWhile_append, starts]
  rfl

section Strings

theorem four_hex_followed {code : Nat} (read : Scan.fourHex cs = .ok (code, rest)) (tail : List Char) :
    Scan.fourHex (cs ++ tail) = .ok (code, rest ++ tail) := by
  obtain ⟨a, b, c, d, rfl⟩ := Skip.four_hex_ok read
  simp only [Scan.fourHex, List.cons_append] at read ⊢
  split at read
  · cases read
    rfl
  · cases read

theorem low_surrogate_followed {high : Nat} {c : Char} (read : Scan.lowSurrogate high cs = .ok (c, rest))
    (tail : List Char) : Scan.lowSurrogate high (cs ++ tail) = .ok (c, rest ++ tail) := by
  obtain ⟨code, after, rfl, found⟩ := Skip.low_surrogate_ok read
  simp only [Scan.lowSurrogate, found, List.cons_append, four_hex_followed found tail, bind, Except.bind] at read ⊢
  split at read
  · next low =>
      obtain ⟨same, _⟩ := Prod.mk.inj (Except.ok.inj read)
      rw [if_pos low, same]
  · simp at read

theorem escape_followed {c : Char} (read : Scan.escape cs = .ok (c, rest)) (tail : List Char) :
    Scan.escape (cs ++ tail) = .ok (c, rest ++ tail) := by
  unfold Scan.escape at read
  split at read
  · simp at read
  · obtain ⟨⟨code, after⟩, found, read⟩ := bind_ok read
    simp only [Scan.escape, List.cons_append, four_hex_followed found tail, bind, Except.bind]
    dsimp only at read
    split at read
    · simp at read
    · next noLow =>
        rw [if_neg noLow]
        split at read
        · next high => rw [if_pos high, low_surrogate_followed read tail]
        · next noHigh =>
            cases read
            rw [if_neg noHigh]
  · next letter more different =>
      split at read
      · next plain known =>
          cases read
          rw [List.cons_append, Scan.escape, known]
          exact different
      · simp at read

theorem string_chars_followed {fuel enough : Nat} {chars : List Char}
    (read : Scan.stringChars fuel cs = .ok (chars, rest)) (more : fuel ≤ enough) (tail : List Char) :
    Scan.stringChars enough (cs ++ tail) = .ok (chars, rest ++ tail) := by
  induction fuel generalizing cs chars rest enough with
  | zero => simp [Scan.stringChars] at read
  | succ fuel ih =>
      obtain ⟨enough, rfl⟩ := Nat.exists_eq_add_one_of_ne_zero (Nat.ne_zero_of_lt more)
      have fewer := Nat.le_of_succ_le_succ more
      cases cs with
      | nil => simp [Scan.stringChars] at read
      | cons c body =>
          rw [Scan.stringChars] at read
          rw [List.cons_append, Scan.stringChars]
          by_cases quote : c = '"'
          · rw [if_pos quote] at read ⊢
            cases read
            rfl
          · rw [if_neg quote] at read ⊢
            by_cases backslash : c = '\\'
            · rw [if_pos backslash] at read ⊢
              obtain ⟨⟨plain, after⟩, escaped, read⟩ := bind_ok read
              obtain ⟨⟨others, last⟩, found, read⟩ := bind_ok read
              cases read
              simp [escape_followed escaped tail, ih found fewer, bind, Except.bind]
            · rw [if_neg backslash] at read ⊢
              by_cases control : c.toNat < 32
              · rw [if_pos control] at read
                simp at read
              · rw [if_neg control] at read ⊢
                obtain ⟨⟨others, last⟩, found, read⟩ := bind_ok read
                cases read
                simp [ih found fewer, bind, Except.bind]

theorem string_followed {s : String} (read : Scan.string cs = .ok (s, rest)) (tail : List Char) :
    Scan.string (cs ++ tail) = .ok (s, rest ++ tail) := by
  obtain ⟨⟨chars, after⟩, found, read⟩ := bind_ok read
  cases read
  have longer : cs.length + 1 ≤ (cs ++ tail).length + 1 := by
    rw [List.length_append]
    omega
  simp only [Scan.string, string_chars_followed found longer tail, bind, Except.bind]

end Strings

section Numbers

theorem starts_with_digit_followed (cs : List Char) (stops : Scan.Stops tail) :
    Scan.startsWithDigit (cs ++ tail) = Scan.startsWithDigit cs := by
  cases cs with
  | nil => exact Scan.starts_with_digit_of_stops stops
  | cons c more => rfl

theorem drop_digits_followed (cs : List Char) (stops : Scan.Stops tail) :
    (cs ++ tail).dropWhile Char.isDigit = cs.dropWhile Char.isDigit ++ tail := by
  rw [List.dropWhile_append]
  split
  · next none =>
      rw [List.isEmpty_iff.mp none, List.nil_append,
        Skip.drop_digits_of_none (Scan.starts_with_digit_of_stops stops)]
  · rfl

theorem leading_digits_followed (passed : Skip.leadingDigits cs = .ok rest) (stops : Scan.Stops tail) :
    Skip.leadingDigits (cs ++ tail) = .ok (rest ++ tail) := by
  cases cs with
  | nil => simp [Skip.leadingDigits] at passed
  | cons c more =>
      rw [Skip.leadingDigits] at passed
      rw [List.cons_append, Skip.leadingDigits]
      split at passed
      · next digit =>
          cases passed
          rw [if_pos digit, drop_digits_followed more stops]
      · simp at passed

theorem unsigned_followed (cs : List Char) (some : cs ≠ []) :
    Text.Decimal.unsigned (cs ++ tail) = Text.Decimal.unsigned cs ++ tail := by
  obtain ⟨c, more, rfl⟩ := List.exists_cons_of_ne_nil some
  by_cases plus : c = '+'
  · subst plus
    rfl
  · by_cases minus : c = '-'
    · subst minus
      rfl
    · simp [Text.Decimal.unsigned, plus, minus]

theorem exponent_part_followed (passed : Skip.exponentPart cs = .ok rest) (stops : Scan.Stops tail) :
    Skip.exponentPart (cs ++ tail) = .ok (rest ++ tail) := by
  rw [Skip.exponent_part_eq] at passed ⊢
  have some : cs ≠ [] := by
    rintro rfl
    simp [Text.Decimal.unsigned, Skip.leadingDigits] at passed
  rw [unsigned_followed cs some, leading_digits_followed passed stops]

theorem exponent_or_end_followed (passed : Skip.exponentOrEnd cs = .ok rest) (stops : Scan.Stops tail) :
    Skip.exponentOrEnd (cs ++ tail) = .ok (rest ++ tail) := by
  rw [Skip.exponentOrEnd.eq_def] at passed
  split at passed
  · exact exponent_part_followed passed stops
  · exact exponent_part_followed passed stops
  · next small large =>
      cases passed
      cases cs with
      | nil => exact exponent_or_end_of_stops stops
      | cons c more =>
          refine Skip.exponentOrEnd.eq_3 _ ?_ ?_
          · rintro others ⟨rfl, _⟩
            exact small more rfl
          · rintro others ⟨rfl, _⟩
            exact large more rfl

theorem after_digits_followed (passed : Skip.afterDigits cs = .ok rest) (stops : Scan.Stops tail) :
    Skip.afterDigits (cs ++ tail) = .ok (rest ++ tail) := by
  rw [Skip.afterDigits.eq_def] at passed
  split at passed
  · next more =>
      rw [List.cons_append, Skip.afterDigits, starts_with_digit_followed more stops]
      split at passed
      · next digit => rw [if_pos digit, drop_digits_followed more stops, exponent_or_end_followed passed stops]
      · simp at passed
  · next point =>
      rw [Skip.afterDigits.eq_2, exponent_or_end_followed passed stops]
      intro others same
      cases cs with
      | nil =>
          subst same
          exact stops.2.1 rfl
      | cons c more =>
          obtain ⟨rfl, _⟩ := List.cons.inj same
          exact point more rfl

theorem number_followed (passed : Skip.number cs = .ok rest) (stops : Scan.Stops tail) :
    Skip.number (cs ++ tail) = .ok (rest ++ tail) := by
  cases cs with
  | nil => simp [Skip.number] at passed
  | cons c more =>
      rw [Skip.number] at passed
      rw [List.cons_append, Skip.number, starts_with_digit_followed more stops, drop_digits_followed more stops]
      split at passed
      · next zero =>
          rw [if_pos zero]
          split at passed
          · simp at passed
          · next single => rw [if_neg single, after_digits_followed passed stops]
      · next nonzero =>
          rw [if_neg nonzero]
          split at passed
          · next digit => rw [if_pos digit, after_digits_followed passed stops]
          · simp at passed

theorem spelled_number_followed (spelled : SpelledNumber cs rest) (stops : Scan.Stops tail) :
    SpelledNumber (cs ++ tail) (rest ++ tail) := by
  cases spelled with
  | negative passed => exact .negative (number_followed passed stops)
  | natural digit passed => exact .natural digit (number_followed passed stops)

end Numbers

section Steps

def Step.before (tail : List Char) : Step → Step
  | .closed rest => .closed (rest ++ tail)
  | .item rest => .item (rest ++ tail)

theorem next_item_followed {first : Bool} {step : Step} (found : nextItem first cs = .ok step) (tail : List Char) :
    nextItem first (cs ++ tail) = .ok (step.before tail) := by
  rw [next_item_iff] at found ⊢
  cases found with
  | closed starts => exact .closed (skip_space_followed starts tail)
  | first starts opens => exact .first (skip_space_followed starts tail) opens
  | later starts next opens => exact .later (skip_space_followed starts tail) (skip_space_followed next tail) opens

theorem next_key_followed {first : Bool} {step : Step} (found : nextKey first cs = .ok step) (tail : List Char) :
    nextKey first (cs ++ tail) = .ok (step.before tail) := by
  rw [next_key_iff] at found ⊢
  cases found with
  | closed starts => exact .closed (skip_space_followed starts tail)
  | first starts => exact .first (skip_space_followed starts tail)
  | later starts next => exact .later (skip_space_followed starts tail) (skip_space_followed next tail)

theorem colon_followed (found : colon cs = .ok rest) (tail : List Char) : colon (cs ++ tail) = .ok (rest ++ tail) :=
  colon_iff.mpr (skip_space_followed (colon_iff.mp found) tail)

end Steps

section Values

theorem number_text_followed (spelled : SpelledNumber (Scan.skipSpace cs) rest) (stops : Scan.Stops tail) :
    SpelledNumber (Scan.skipSpace (cs ++ tail)) (rest ++ tail) := by
  cases starts : Scan.skipSpace cs with
  | nil =>
      rw [starts] at spelled
      cases spelled
  | cons c more =>
      rw [starts] at spelled
      rw [skip_space_followed starts tail]
      exact spelled_number_followed spelled stops

mutual
theorem spelled_followed : ∀ {value : Json} {cs rest tail : List Char}, value.Spelled cs rest → Scan.Stops tail →
    value.Spelled (cs ++ tail) (rest ++ tail)
  | .null, _, _, tail, spelled, _ => skip_space_followed spelled tail
  | .bool true, _, _, tail, spelled, _ => skip_space_followed spelled tail
  | .bool false, _, _, tail, spelled, _ => skip_space_followed spelled tail
  | .int _, _, _, _, spelled, stops => number_text_followed spelled stops
  | .float _, _, _, _, spelled, stops => number_text_followed spelled stops
  | .string _, _, _, tail, ⟨_, starts, read⟩, _ =>
      ⟨_, skip_space_followed starts tail, string_followed read tail⟩
  | .array _, _, _, tail, ⟨_, starts, items⟩, stops =>
      ⟨_, skip_space_followed starts tail, spelled_items_followed items stops⟩
  | .object _, _, _, tail, ⟨_, starts, members⟩, stops =>
      ⟨_, skip_space_followed starts tail, spelled_members_followed members stops⟩

theorem spelled_items_followed : ∀ {items : List Json} {first : Bool} {cs rest tail : List Char},
    SpelledItems items first cs rest → Scan.Stops tail → SpelledItems items first (cs ++ tail) (rest ++ tail)
  | [], _, _, _, tail, closed, _ => next_item_followed closed tail
  | _ :: _, _, _, _, tail, ⟨_, _, next, item, more⟩, stops =>
      ⟨_, _, next_item_followed next tail, spelled_followed item stops, spelled_items_followed more stops⟩

theorem spelled_members_followed : ∀ {members : List (String × Json)} {first : Bool} {cs rest tail : List Char},
    SpelledMembers members first cs rest → Scan.Stops tail →
      SpelledMembers members first (cs ++ tail) (rest ++ tail)
  | [], _, _, _, tail, closed, _ => next_key_followed closed tail
  | (_, _) :: _, _, _, _, tail, ⟨_, _, _, _, next, name, mark, value, more⟩, stops =>
      ⟨_, _, _, _, next_key_followed next tail, string_followed name tail, colon_followed mark tail,
        spelled_followed value stops, spelled_members_followed more stops⟩
end

end Values

end Delivery.Json
