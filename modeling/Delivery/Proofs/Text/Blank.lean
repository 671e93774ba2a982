import Delivery.Text.Blank
import Mathlib.Data.List.TakeWhile
set_option autoImplicit false

namespace Delivery.Text

theorem not_blank_of_digit {c : Char} (digit : c.isDigit = true) : isBlank c = false := by
  have bounds : 48 ≤ c.toNat ∧ c.toNat ≤ 57 := Char.isDigit_iff_toNat.mp digit
  simp only [isBlank, Bool.or_eq_false_iff, Bool.and_eq_false_iff, decide_eq_false_iff_not, beq_eq_false_iff_ne]
  omega

theorem drop_blanks_of_shown {cs : List Char} (shown : ∀ c ∈ cs.head?, isBlank c = false) :
    cs.dropWhile isBlank = cs := by
  cases cs with
  | nil => rfl
  | cons c rest => simp [shown c rfl]

theorem trim_left_append (cs : List Char) :
    ∃ left, left ++ trimLeft cs = cs ∧ ∀ c ∈ left, isBlank c = true :=
  ⟨cs.takeWhile isBlank, List.takeWhile_append_dropWhile, fun _ member => List.mem_takeWhile_imp member⟩

theorem trim_right_append (cs : List Char) :
    ∃ right, trimRight cs ++ right = cs ∧ ∀ c ∈ right, isBlank c = true := by
  refine ⟨(cs.reverse.takeWhile isBlank).reverse, ?_, fun c member => ?_⟩
  · rw [trimRight, ← List.reverse_append, List.takeWhile_append_dropWhile, List.reverse_reverse]
  · exact List.mem_takeWhile_imp (List.mem_reverse.mp member)

theorem trim_between {left body right : List Char} (before : ∀ c ∈ left, isBlank c = true)
    (shown : ∀ c ∈ body, isBlank c = false) (behind : ∀ c ∈ right, isBlank c = true) :
    trimChars (left ++ body ++ right) = body := by
  rw [trimChars, trimLeft, List.append_assoc, List.dropWhile_append_of_pos before]
  cases body with
  | nil =>
      rw [List.nil_append, List.dropWhile_eq_nil_iff.mpr behind]
      rfl
  | cons c rest =>
      have first : isBlank c = false := shown c List.mem_cons_self
      have behindReversed : ∀ d ∈ right.reverse, isBlank d = true := fun d member =>
        behind d (List.mem_reverse.mp member)
      have last : ∀ d ∈ (c :: rest).reverse.head?, isBlank d = false := fun d member =>
        shown d (List.mem_reverse.mp (List.mem_of_mem_head? member))
      rw [drop_blanks_of_shown (by simpa using first), trimRight, List.reverse_append,
        List.dropWhile_append_of_pos behindReversed, drop_blanks_of_shown last, List.reverse_reverse]

end Delivery.Text
