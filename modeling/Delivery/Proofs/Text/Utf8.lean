import Mathlib.Data.String.Basic
import Mathlib.Tactic.SplitIfs
import Delivery.Text.Utf8
set_option autoImplicit false

namespace Delivery.Text.Utf8

theorem encoded_lt {first second : Char} (before : first < second) (rest more : List UInt8) :
    String.utf8EncodeChar first ++ rest < String.utf8EncodeChar second ++ more := by
  have smaller : first.val.toNat < second.val.toNat := UInt32.lt_iff_toNat_lt.mp before
  have bound : second.val.toNat < 0x110000 := by
    rcases second.valid with below | between
    · omega
    · exact between.2
  unfold String.utf8EncodeChar
  generalize first.val.toNat = low at smaller
  generalize second.val.toNat = high at smaller bound
  -- One case for each pair of lengths; with both lengths the same the codes differ in some byte.
  simp only
  split_ifs <;>
    simp only [List.cons_append, List.nil_append, List.cons_lt_cons_iff, UInt8.lt_iff_toNat_lt,
      ← UInt8.toNat_inj, UInt8.toNat_ofNat'] <;>
    simp (disch := omega) only [Nat.mod_eq_of_lt] <;> omega

theorem encoded_ne_nil (c : Char) : String.utf8EncodeChar c ≠ [] := by
  unfold String.utf8EncodeChar
  simp only
  split_ifs <;> simp

theorem encoded_texts_lt : ∀ {first second : List Char}, first < second →
    first.flatMap String.utf8EncodeChar < second.flatMap String.utf8EncodeChar
  | [], [], before => absurd before (by simp)
  | [], c :: rest, _ => by
      cases bytes : String.utf8EncodeChar c with
      | nil => exact absurd bytes (encoded_ne_nil c)
      | cons byte more => simp [bytes]
  | _ :: _, [], before => absurd before (by simp)
  | c :: rest, d :: more, before => by
      rcases List.cons_lt_cons_iff.mp before with smaller | ⟨rfl, later⟩
      · exact encoded_lt smaller _ _
      · exact List.append_left_lt (encoded_texts_lt later)

theorem bytes_eq (text : String) : bytes text = text.toList.flatMap String.utf8EncodeChar := by
  rw [bytes, ← String.ofList_toList (s := text), String.toByteArray_ofList, String.toList_ofList]
  exact List.toList_data_toByteArray

theorem bytes_lt_of_compare {first second : String} (before : compare first second = .lt) :
    bytes first < bytes second := by
  have less : first < second := compareOfLessAndEq_eq_lt.mp before
  rw [bytes_eq, bytes_eq]
  exact encoded_texts_lt (String.lt_iff_toList_lt.mp less)

end Delivery.Text.Utf8
