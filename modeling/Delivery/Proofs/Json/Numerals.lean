import Delivery.Proofs.Binary64.Shortest
import Delivery.Proofs.Json.Skipped
import Delivery.Proofs.Text.Decimal
set_option autoImplicit false

namespace Delivery.Json

def Digits (cs : List Char) : Prop :=
  cs ≠ [] ∧ ∀ c ∈ cs, c.isDigit = true

def Whole (cs : List Char) : Prop :=
  Digits cs ∧ (cs.head? = some '0' → cs = ['0'])

def Fraction (cs : List Char) : Prop :=
  cs = [] ∨ ∃ digits, cs = '.' :: digits ∧ Digits digits

def Exponent (cs : List Char) : Prop :=
  cs = [] ∨ ∃ sign digits, cs = 'e' :: sign :: digits ∧ (sign = '+' ∨ sign = '-') ∧ Digits digits

inductive Numeral : List Char → Prop where
  | parts {whole fraction exponent : List Char} (leading : Whole whole) (middle : Fraction fraction)
      (last : Exponent exponent) : Numeral (whole ++ (fraction ++ exponent))

section Passed

variable {rest : List Char}

theorem digits_cons {cs : List Char} (digits : Digits cs) :
    ∃ c more, cs = c :: more ∧ c.isDigit = true ∧ ∀ other ∈ more, other.isDigit = true := by
  obtain ⟨filled, every⟩ := digits
  obtain ⟨c, more, rfl⟩ := List.exists_cons_of_ne_nil filled
  exact ⟨c, more, rfl, List.forall_mem_cons.mp every⟩

theorem digits_dropped {digits : List Char} (every : ∀ c ∈ digits, c.isDigit = true)
    (stops : Scan.startsWithDigit rest = false) : (digits ++ rest).dropWhile Char.isDigit = rest := by
  rw [List.dropWhile_append_of_pos every, Skip.drop_digits_of_none stops]

theorem leading_digits_passed {digits : List Char} (filled : Digits digits)
    (stops : Scan.startsWithDigit rest = false) : Skip.leadingDigits (digits ++ rest) = .ok rest := by
  obtain ⟨c, more, rfl, digit, every⟩ := digits_cons filled
  rw [List.cons_append, Skip.leadingDigits, if_pos digit, digits_dropped every stops]

theorem exponent_or_end_of_stops (stops : Scan.Stops rest) : Skip.exponentOrEnd rest = .ok rest := by
  rw [Skip.exponentOrEnd.eq_3]
  · rintro more rfl
    exact stops.2.2.1 rfl
  · rintro more rfl
    exact stops.2.2.2 rfl

theorem exponent_passed {exponent : List Char} (last : Exponent exponent) (stops : Scan.Stops rest) :
    Skip.exponentOrEnd (exponent ++ rest) = .ok rest := by
  rcases last with rfl | ⟨sign, digits, rfl, plus | minus, filled⟩
  · exact exponent_or_end_of_stops stops
  · subst plus
    exact leading_digits_passed filled (Scan.starts_with_digit_of_stops stops)
  · subst minus
    exact leading_digits_passed filled (Scan.starts_with_digit_of_stops stops)

theorem no_digit_before_exponent {exponent : List Char} (last : Exponent exponent) (stops : Scan.Stops rest) :
    Scan.startsWithDigit (exponent ++ rest) = false := by
  rcases last with rfl | ⟨sign, digits, rfl, _⟩
  · exact Scan.starts_with_digit_of_stops stops
  · rfl

theorem no_point_before_exponent {exponent : List Char} (last : Exponent exponent) (stops : Scan.Stops rest)
    (more : List Char) : exponent ++ rest ≠ '.' :: more := by
  rcases last with rfl | ⟨sign, digits, rfl, _⟩
  · rintro rfl
    exact stops.2.1 rfl
  · exact nofun

theorem fraction_passed {fraction exponent : List Char} (middle : Fraction fraction) (last : Exponent exponent)
    (stops : Scan.Stops rest) : Skip.afterDigits (fraction ++ (exponent ++ rest)) = .ok rest := by
  rcases middle with rfl | ⟨digits, rfl, filled⟩
  · rw [List.nil_append, Skip.afterDigits.eq_2 _ (no_point_before_exponent last stops), exponent_passed last stops]
  · have starts : Scan.startsWithDigit (digits ++ (exponent ++ rest)) = true :=
      Skip.starts_with_digit_of_taken filled.2 (.inl filled.1)
    rw [List.cons_append, Skip.afterDigits, if_pos starts,
      digits_dropped filled.2 (no_digit_before_exponent last stops), exponent_passed last stops]

theorem no_digit_before_fraction {fraction exponent : List Char} (middle : Fraction fraction)
    (last : Exponent exponent) (stops : Scan.Stops rest) :
    Scan.startsWithDigit (fraction ++ (exponent ++ rest)) = false := by
  rcases middle with rfl | ⟨digits, rfl, _⟩
  · rw [List.nil_append]
    exact no_digit_before_exponent last stops
  · rfl

theorem numeral_passed {text : List Char} (numeral : Numeral text) (stops : Scan.Stops rest) :
    Skip.number (text ++ rest) = .ok rest := by
  obtain ⟨⟨filled, leading⟩, middle, last⟩ := numeral
  rename_i whole fraction exponent
  have plain := no_digit_before_fraction middle last stops
  have passed := fraction_passed middle last stops
  rw [List.append_assoc, List.append_assoc]
  obtain ⟨c, more, rfl, digit, every⟩ := digits_cons filled
  rw [List.cons_append, Skip.number]
  by_cases zero : c = '0'
  · have alone : more = [] := (List.cons.inj (leading (congrArg Option.some zero))).2
    subst alone
    rw [if_pos zero, List.nil_append, if_neg (by simp [plain]), passed]
  · rw [if_neg zero, if_pos digit, digits_dropped every plain, passed]

theorem numeral_starts {text : List Char} (numeral : Numeral text) :
    ∃ c more, text = c :: more ∧ c.isDigit = true := by
  obtain ⟨⟨filled, _⟩, _, _⟩ := numeral
  obtain ⟨c, more, rfl, digit, _⟩ := digits_cons filled
  exact ⟨c, _, rfl, digit⟩

end Passed

section Printed

theorem whole_of_nat (n : Nat) : Whole (Text.Decimal.ofNat n) := by
  refine ⟨⟨Nat.toDigits_ne_nil, Text.Decimal.digits_of_nat n⟩, fun starts => ?_⟩
  by_cases zero : n = 0
  · rw [zero]
    rfl
  · obtain ⟨c, rest, text, leading⟩ := Text.Decimal.leading_digit zero
    rw [text] at starts
    exact absurd (Option.some.inj starts) leading

theorem numeral_of_nat (n : Nat) : Numeral (Text.Decimal.ofNat n) := by
  have numeral := Numeral.parts (whole_of_nat n) (.inl rfl) (.inl rfl)
  rwa [List.append_nil, List.append_nil] at numeral

theorem digits_of_append {front back : List Char} (filled : front ≠ [] ∨ back ≠ [])
    (before : ∀ c ∈ front, c.isDigit = true) (after : ∀ c ∈ back, c.isDigit = true) :
    Digits (front ++ back) := by
  refine ⟨?_, fun c member => (List.mem_append.mp member).elim (before c) (after c)⟩
  rw [Ne, List.append_eq_nil_iff, not_and_or]
  exact filled

theorem zeros_digits (count : Nat) : ∀ c ∈ List.replicate count '0', c.isDigit = true := by
  intro c member
  rw [List.eq_of_mem_replicate member]
  rfl

variable {digits : List Char} {point : Int}

theorem numeral_positional (filled : Digits digits) (leading : digits.head? ≠ some '0') :
    Numeral (Binary64.Layout.positional digits point) := by
  have every := filled.2
  unfold Binary64.Layout.positional
  dsimp only
  split
  · have after : Digits (List.replicate (-point).toNat '0' ++ digits) :=
      digits_of_append (.inr filled.1) (zeros_digits _) every
    have numeral := Numeral.parts (whole_of_nat 0) (.inr ⟨_, rfl, after⟩) (.inl rfl)
    rwa [List.append_nil] at numeral
  · split
    · have before : Whole (digits ++ List.replicate (point.toNat - digits.length) '0') := by
        refine ⟨digits_of_append (.inl filled.1) every (zeros_digits _), fun zero => ?_⟩
        rw [List.head?_append_of_ne_nil _ filled.1] at zero
        exact absurd zero leading
      have after : Digits ['0'] := ⟨nofun, by simp⟩
      exact Numeral.parts before (.inr ⟨_, rfl, after⟩) (.inl rfl)
    · next within long =>
        have before : Whole (digits.take point.toNat) := by
          refine ⟨⟨?_, fun c member => every c (List.mem_of_mem_take member)⟩, fun zero => ?_⟩
          · rw [Ne, List.take_eq_nil_iff]
            exact not_or.mpr ⟨by omega, filled.1⟩
          · rw [List.head?_take, if_neg (by omega)] at zero
            exact absurd zero leading
        have after : Digits (digits.drop point.toNat) := by
          refine ⟨?_, fun c member => every c (List.mem_of_mem_drop member)⟩
          rw [Ne, List.drop_eq_nil_iff]
          exact long
        have numeral := Numeral.parts before (.inr ⟨_, rfl, after⟩) (.inl rfl)
        rwa [List.append_nil] at numeral

theorem numeral_scientific (filled : Digits digits) (leading : digits.head? ≠ some '0') :
    Numeral (Binary64.Layout.scientific digits point) := by
  have last : Exponent ('e' :: (if point - 1 < 0 then '-' else '+') :: Text.Decimal.ofNat (point - 1).natAbs) := by
    refine .inr ⟨_, _, rfl, ?_, (whole_of_nat _).1⟩
    split
    · exact .inr rfl
    · exact .inl rfl
  unfold Binary64.Layout.scientific
  dsimp only
  split
  · exact absurd rfl filled.1
  · next d =>
      have first : Whole [d] := ⟨filled, fun zero => absurd zero leading⟩
      exact Numeral.parts first (.inl rfl) last
  · next d rest more =>
      have digit := filled.2 d List.mem_cons_self
      have first : Whole [d] := ⟨⟨nofun, by simpa using digit⟩, fun zero => absurd zero leading⟩
      have after : Digits rest := ⟨more, fun c member => filled.2 c (List.mem_cons_of_mem _ member)⟩
      exact Numeral.parts first (.inr ⟨_, rfl, after⟩) last

theorem float_printed {x : Binary64} (canonical : x.Canonical) :
    ∃ text, Numeral text ∧ x.toJsonText = (if x.negative then ['-'] else []) ++ text := by
  unfold Binary64.toJsonText Binary64.Layout.write
  dsimp only
  split
  · have after : Digits ['0'] := ⟨nofun, by simp⟩
    exact ⟨_, Numeral.parts (whole_of_nat 0) (.inr ⟨_, rfl, after⟩) (.inl rfl), rfl⟩
  · next nonzero =>
      have whole := whole_of_nat x.shortest.digits
      obtain ⟨c, rest, text, leading⟩ := Text.Decimal.leading_digit (Binary64.shortest_nonzero canonical nonzero)
      have first : (Text.Decimal.ofNat x.shortest.digits).head? ≠ some '0' := by
        rw [text]
        exact fun zero => leading (Option.some.inj zero)
      refine ⟨_, ?_, rfl⟩
      split
      · exact numeral_positional whole.1 first
      · exact numeral_scientific whole.1 first

end Printed

end Delivery.Json
