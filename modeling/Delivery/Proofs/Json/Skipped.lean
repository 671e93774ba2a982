import Delivery.Json.Skip
import Delivery.Proofs.Json.Numbers
set_option autoImplicit false

namespace Delivery.Json.Skip

section Strings

theorem four_hex_ok {cs rest : List Char} {code : Nat} (read : Scan.fourHex cs = .ok (code, rest)) :
    ∃ a b c d, cs = a :: b :: c :: d :: rest := by
  unfold Scan.fourHex at read
  split at read
  · split at read
    · cases read
      exact ⟨_, _, _, _, rfl⟩
    · cases read
  · split at read <;> cases read

theorem low_surrogate_ok {high : Nat} {cs rest : List Char} {c : Char}
    (read : Scan.lowSurrogate high cs = .ok (c, rest)) :
    ∃ code after, cs = '\\' :: 'u' :: after ∧ Scan.fourHex after = .ok (code, rest) := by
  unfold Scan.lowSurrogate at read
  split at read
  · simp at read
  · obtain ⟨⟨low, after⟩, found, read⟩ := bind_ok read
    dsimp only at read
    split at read
    · obtain ⟨-, rfl⟩ := Prod.mk.inj (Except.ok.inj read)
      exact ⟨low, _, rfl, found⟩
    · simp at read
  · simp at read
  · simp at read
  · simp at read

theorem escape_hex {cs rest : List Char} {code : Nat} (read : Scan.fourHex cs = .ok (code, rest)) :
    escape ('u' :: cs) = .ok rest := by
  simp [escape, read, bind, Except.bind]

theorem escape_skipped {cs rest : List Char} {c : Char} (read : Scan.escape cs = .ok (c, rest)) :
    escape cs = .ok rest ∨ ∃ second, escape cs = .ok ('\\' :: second) ∧ escape second = .ok rest := by
  unfold Scan.escape at read
  split at read
  · simp at read
  · obtain ⟨⟨code, after⟩, found, read⟩ := bind_ok read
    dsimp only at read
    split at read
    · simp at read
    · split at read
      · obtain ⟨low, more, rfl, second⟩ := low_surrogate_ok read
        exact .inr ⟨'u' :: more, escape_hex found, escape_hex second⟩
      · cases read
        exact .inl (escape_hex found)
  · next c more different =>
      split at read
      · next plain known =>
          cases read
          refine .inl ?_
          rw [escape, known]
          exact different
      · simp at read

theorem escape_shorter {cs rest : List Char} (skipped : escape cs = .ok rest) : rest.length < cs.length := by
  unfold escape at skipped
  split at skipped
  · simp at skipped
  · obtain ⟨⟨code, after⟩, found, skipped⟩ := bind_ok skipped
    cases skipped
    obtain ⟨a, b, c, d, rfl⟩ := four_hex_ok found
    simp only [List.length_cons]
    omega
  · split at skipped
    · cases skipped
      simp
    · simp at skipped

-- Any fuel beyond the length is enough, for the halves of a pair take two steps.
theorem string_chars_skipped {fuel enough : Nat} {cs chars rest : List Char}
    (read : Scan.stringChars fuel cs = .ok (chars, rest)) (more : cs.length < enough) :
    stringChars enough cs = .ok rest := by
  induction fuel generalizing cs chars enough with
  | zero => simp [Scan.stringChars] at read
  | succ fuel ih =>
      obtain ⟨enough, rfl⟩ := Nat.exists_eq_add_one_of_ne_zero (Nat.ne_zero_of_lt more)
      cases cs with
      | nil => simp [Scan.stringChars] at read
      | cons c tail =>
          rw [Scan.stringChars] at read
          rw [List.length_cons] at more
          by_cases quote : c = '"'
          · rw [if_pos quote] at read
            cases read
            rw [stringChars, if_pos quote]
          · rw [if_neg quote] at read
            rw [stringChars, if_neg quote]
            by_cases backslash : c = '\\'
            · rw [if_pos backslash] at read
              obtain ⟨⟨plain, after⟩, escaped, read⟩ := bind_ok read
              obtain ⟨⟨others, last⟩, found, read⟩ := bind_ok read
              cases read
              rw [if_pos backslash]
              rcases escape_skipped escaped with once | ⟨second, once, twice⟩
              · have shorter := escape_shorter once
                rw [once]
                exact ih found (by omega)
              · have shorter := escape_shorter once
                have evenShorter := escape_shorter twice
                rw [List.length_cons] at shorter
                obtain ⟨enough, rfl⟩ := Nat.exists_eq_add_one_of_ne_zero (n := enough) (by omega)
                have step : stringChars (enough + 1) ('\\' :: second) = stringChars enough after := by
                  rw [stringChars, if_neg (by decide), if_pos rfl, twice]
                  rfl
                rw [once]
                exact step.trans (ih found (by omega))
            · rw [if_neg backslash] at read
              rw [if_neg backslash]
              by_cases control : c.toNat < 32
              · rw [if_pos control] at read
                simp at read
              · rw [if_neg control] at read
                obtain ⟨⟨others, last⟩, found, read⟩ := bind_ok read
                cases read
                rw [if_neg control]
                exact ih found (by omega)

theorem string_skipped {cs rest : List Char} {text : String} (read : Scan.string cs = .ok (text, rest)) :
    string cs = .ok rest := by
  obtain ⟨⟨chars, after⟩, found, read⟩ := bind_ok read
  cases read
  exact string_chars_skipped found (Nat.lt_succ_self _)

end Strings

section Digits

theorem drop_digits_of_none {cs : List Char} (none : Scan.startsWithDigit cs = false) :
    cs.dropWhile Char.isDigit = cs := by
  cases cs with
  | nil => rfl
  | cons c rest =>
      have noDigit : c.isDigit = false := none
      simp [noDigit]

theorem word_digits_taken (value count : Nat) (cs : List Char) :
    ∃ taken, cs = taken ++ (Scan.wordDigits value count cs).2.2 ∧
      (Scan.wordDigits value count cs).2.1 = count + taken.length ∧ ∀ c ∈ taken, c.isDigit = true := by
  induction cs generalizing value count with
  | nil => exact ⟨[], rfl, rfl, nofun⟩
  | cons c rest ih =>
      simp only [Scan.wordDigits, Bool.and_eq_true, decide_eq_true_eq]
      split
      · next fits =>
          obtain ⟨taken, same, counted, digits⟩ := ih (value * 10 + (c.toNat - 48)) (count + 1)
          refine ⟨c :: taken, congrArg (c :: ·) same, ?_, List.forall_mem_cons.mpr ⟨fits.1, digits⟩⟩
          rw [counted, List.length_cons]
          omega
      · exact ⟨[], rfl, rfl, nofun⟩

theorem starts_with_digit_of_taken {taken rest : List Char} (digits : ∀ c ∈ taken, c.isDigit = true)
    (some : taken ≠ [] ∨ Scan.startsWithDigit rest = true) : Scan.startsWithDigit (taken ++ rest) = true := by
  cases taken with
  | nil => exact some.resolve_left (fun empty => empty rfl)
  | cons c more => exact digits c List.mem_cons_self

theorem word_digits_drop (value count : Nat) (cs : List Char) :
    (Scan.wordDigits value count cs).2.2.dropWhile Char.isDigit = cs.dropWhile Char.isDigit := by
  obtain ⟨taken, same, _, digits⟩ := word_digits_taken value count cs
  have dropped : (taken ++ (Scan.wordDigits value count cs).2.2).dropWhile Char.isDigit =
      (Scan.wordDigits value count cs).2.2.dropWhile Char.isDigit := List.dropWhile_append_of_pos digits
  rw [← dropped, ← same]

theorem exponent_digits_taken (value : Nat) (cs : List Char) :
    (Scan.exponentDigits value cs).2.2.dropWhile Char.isDigit = cs.dropWhile Char.isDigit ∧
      ((Scan.exponentDigits value cs).2.1 = false →
        Scan.startsWithDigit (Scan.exponentDigits value cs).2.2 = false) := by
  induction cs generalizing value with
  | nil => exact ⟨rfl, fun _ => rfl⟩
  | cons c rest ih =>
      rw [Scan.exponentDigits]
      cases digit : c.isDigit with
      | true =>
          rw [if_pos rfl, List.dropWhile_cons_of_pos digit]
          dsimp only
          split
          · exact ih _
          · exact ⟨rfl, nofun⟩
      | false => exact ⟨rfl, fun _ => digit⟩

end Digits

section Numbers

variable {negative : Bool} {significand : Nat} {exponent : Int} {cs rest : List Char} {value : Json}

theorem finish_float_rest (read : Scan.finishFloat negative significand exponent cs = .ok (value, rest)) :
    rest = cs := by
  unfold Scan.finishFloat at read
  split at read
  · cases read; rfl
  · simp at read

def leadingDigits : List Char → Except Fault (List Char)
  | [] => Fault.here .invalidNumber []
  | c :: rest =>
      if c.isDigit then .ok (rest.dropWhile Char.isDigit) else Fault.next .invalidNumber (c :: rest)

theorem exponent_part_eq (cs : List Char) : exponentPart cs = leadingDigits (Text.Decimal.unsigned cs) := by
  unfold exponentPart
  split
  · rfl
  · rfl
  · next plus minus => rw [Text.Decimal.unsigned.eq_3 cs plus minus]; rfl

theorem exponent_part_skipped (read : Scan.exponentPart negative significand exponent cs = .ok (value, rest)) :
    exponentPart cs = .ok rest := by
  unfold Scan.exponentPart at read
  split at read
  next down digits signed =>
    have unsigned : Text.Decimal.unsigned cs = digits := by
      split at signed
      · cases signed; rfl
      · cases signed; rfl
      · next plus minus => cases signed; exact Text.Decimal.unsigned.eq_3 cs plus minus
    rw [exponent_part_eq, unsigned]
    cases digits with
    | nil => simp at read
    | cons c more =>
        obtain ⟨dropped, stops⟩ := exponent_digits_taken (c.toNat - 48) more
        cases digit : c.isDigit with
        | false => simp [digit] at read
        | true =>
            simp only [digit, if_true] at read
            rw [leadingDigits, if_pos digit, ← dropped]
            cases long : (Scan.exponentDigits (c.toNat - 48) more).2.1 with
            | true =>
                rw [long, if_pos rfl] at read
                split at read
                · simp at read
                · cases read; rfl
            | false =>
                rw [long, if_neg (by simp)] at read
                rw [finish_float_rest read, drop_digits_of_none (stops long)]

theorem exponent_or_end_skipped (read : Scan.exponentOrEnd negative significand exponent cs = .ok (value, rest)) :
    exponentOrEnd cs = .ok rest := by
  rw [Scan.exponentOrEnd.eq_def] at read
  split at read
  · exact exponent_part_skipped read
  · exact exponent_part_skipped read
  · next small large => rw [finish_float_rest read, exponentOrEnd.eq_3 cs small large]

theorem fraction_part_skipped (read : Scan.fractionPart negative significand exponent cs = .ok (value, rest)) :
    afterDigits ('.' :: cs) = .ok rest := by
  obtain ⟨taken, same, counted, digits⟩ := word_digits_taken significand 0 cs
  have dropped := word_digits_drop significand 0 cs
  simp only [Scan.fractionPart] at read
  have starts := fun some => same ▸ starts_with_digit_of_taken digits some
  split at read
  · next more => rw [afterDigits, if_pos (starts (.inr more)), ← dropped, exponent_or_end_skipped read]
  · next none =>
      split at read
      · split at read <;> simp at read
      · next some =>
          have any : taken ≠ [] := fun empty => some (by rw [counted, empty]; rfl)
          rw [afterDigits, if_pos (starts (.inl any)), ← dropped, drop_digits_of_none (by simpa using none),
            exponent_or_end_skipped read]

theorem whole_number_rest (read : Scan.wholeNumber negative significand cs = .ok (value, rest)) : rest = cs := by
  unfold Scan.wholeNumber at read
  split at read
  · split at read
    · exact finish_float_rest read
    · cases read; rfl
  · cases read; rfl

theorem after_digits_skipped (read : Scan.afterDigits negative significand cs = .ok (value, rest)) :
    afterDigits cs = .ok rest := by
  rw [Scan.afterDigits.eq_def] at read
  split at read
  · exact fraction_part_skipped read
  · exact exponent_part_skipped read
  · exact exponent_part_skipped read
  · next point small large =>
      rw [afterDigits.eq_2 cs point, whole_number_rest read, exponentOrEnd.eq_3 cs small large]

theorem number_skipped (read : Scan.number negative cs = .ok (value, rest)) : number cs = .ok rest := by
  cases cs with
  | nil => simp [Scan.number] at read
  | cons c more =>
      have dropped := word_digits_drop (c.toNat - 48) 0 more
      simp only [Scan.number] at read
      rw [number]
      split at read
      · next zero =>
          rw [if_pos zero]
          split at read
          · simp at read
          · next single => rw [if_neg single, after_digits_skipped read]
      · next nonzero =>
          rw [if_neg nonzero]
          split at read
          · next digit =>
              rw [if_pos digit, ← dropped]
              split at read
              · split at read
                · next point => rw [point, fraction_part_skipped read]
                · next point => rw [afterDigits.eq_2 _ point, exponent_or_end_skipped read]
              · next none => rw [drop_digits_of_none (by simpa using none), after_digits_skipped read]
          · simp at read

end Numbers

end Delivery.Json.Skip
