import Delivery.Domain.Version
import Delivery.Proofs.Text.Blank
import Delivery.Proofs.Text.Decimal
import Delivery.Proofs.Text.Pieces
set_option autoImplicit false

namespace Delivery.ChartVersion

open Text

theorem sign_or_digit {cs : List Char} {value : Nat} (numeral : Decimal.Unsigned cs value) :
    ∀ c ∈ cs, c = '+' ∨ c.isDigit = true := by
  cases numeral with
  | bare digits => exact fun c member => .inr (digits.digits c member)
  | plus digits => exact List.forall_mem_cons.mpr ⟨.inl rfl, fun c member => .inr (digits.digits c member)⟩

theorem no_point_in_numeral {cs : List Char} {value : Nat} (numeral : Decimal.Unsigned cs value) : '.' ∉ cs := by
  intro member
  rcases sign_or_digit numeral _ member with same | digit
  · cases same
  · cases digit

theorem no_blank_in_numeral {cs : List Char} {value : Nat} (numeral : Decimal.Unsigned cs value) :
    ∀ c ∈ cs, isBlank c = false := by
  intro c member
  rcases sign_or_digit numeral c member with rfl | digit
  · rfl
  · exact not_blank_of_digit digit

inductive Form : List Char → ChartVersion → Prop where
  | numerals {version : ChartVersion} {major minor patch : List Char}
      (first : Decimal.Unsigned major version.major.toNat) (second : Decimal.Unsigned minor version.minor.toNat)
      (third : Decimal.Unsigned patch version.patch.toNat) : Form (major ++ '.' :: (minor ++ '.' :: patch)) version

def Spells (text : String) (version : ChartVersion) : Prop :=
  ∃ left form right, text.toList = left ++ form ++ right ∧ Form form version ∧
    (∀ c ∈ left, isBlank c = true) ∧ ∀ c ∈ right, isBlank c = true

section Form

variable {cs : List Char} {version : ChartVersion}

theorem form_iff : ofChars? cs = some version ↔ Form cs version := by
  constructor
  · intro read
    unfold ofChars? at read
    split at read
    · next major minor patch pieced =>
        obtain ⟨rfl, _⟩ := three_pieces_iff.mp pieced
        obtain ⟨x, first, more⟩ := Option.bind_eq_some_iff.mp read
        obtain ⟨y, second, last⟩ := Option.bind_eq_some_iff.mp more
        obtain ⟨z, third, same⟩ := Option.bind_eq_some_iff.mp last
        cases same
        exact .numerals (Decimal.uint32_iff.mp first) (Decimal.uint32_iff.mp second) (Decimal.uint32_iff.mp third)
    · cases read
  · rintro ⟨first, second, third⟩
    have pieced := three_pieces_iff.mpr
      ⟨rfl, no_point_in_numeral first, no_point_in_numeral second, no_point_in_numeral third⟩
    simp [ofChars?, pieced, Decimal.uint32_iff.mpr first, Decimal.uint32_iff.mpr second, Decimal.uint32_iff.mpr third]

theorem form_without_blanks (form : Form cs version) : ∀ c ∈ cs, isBlank c = false := by
  obtain ⟨first, second, third⟩ := form
  simp only [List.forall_mem_append, List.forall_mem_cons]
  exact ⟨no_blank_in_numeral first, rfl, no_blank_in_numeral second, rfl, no_blank_in_numeral third⟩

theorem form_shown (version : ChartVersion) : Form version.chars version := by
  have word : ∀ n : UInt32, Decimal.Unsigned (wordText n) n.toNat := fun n =>
    .bare (Decimal.nat_iff.mp (Decimal.nat_of_text n.toNat))
  rw [chars, List.append_assoc, List.cons_append]
  exact .numerals (word _) (word _) (word _)

end Form

section Read

variable {text : String} {version : ChartVersion}

theorem read_iff : parse? text = some version ↔ Spells text version := by
  constructor
  · intro read
    obtain ⟨left, before, blanksBefore⟩ := trim_left_append text.toList
    obtain ⟨right, behind, blanksBehind⟩ := trim_right_append (trimLeft text.toList)
    refine ⟨left, trimChars text.toList, right, ?_, form_iff.mp read, blanksBefore, blanksBehind⟩
    rw [List.append_assoc, trimChars, behind, before]
  · rintro ⟨left, form, right, whole, formed, before, behind⟩
    rw [parse?, whole, trim_between before (form_without_blanks formed) behind]
    exact form_iff.mpr formed

theorem parse_ok_iff : parse text = .ok version ↔ Spells text version := by
  rw [← read_iff, parse]
  cases parse? text <;> simp

theorem parse_error_iff {error : Unreadable} :
    parse text = .error error ↔ (∀ other, ¬ Spells text other) ∧ error.text = text := by
  simp only [← read_iff, parse]
  cases error
  cases read : parse? text <;> simp [eq_comm]

theorem parse_text (version : ChartVersion) : parse version.text = .ok version := by
  refine parse_ok_iff.mpr ⟨[], version.chars, [], ?_, form_shown version, nofun, nofun⟩
  rw [ChartVersion.text, String.toList_ofList, List.nil_append, List.append_nil]

end Read

/-- Every version is read back from the text that shows it. A text is read as the version that it spells, or refused
with that very text if it spells none; so reading once more what was read and shown changes nothing. -/
theorem versions_read_as_spelled (text : String) (version : ChartVersion) :
    parse version.text = .ok version ∧
    (parse text = .ok version ↔ Spells text version) ∧
    (∀ error, parse text = .error error ↔ (∀ other, ¬ Spells text other) ∧ error.text = text) ∧
    (parse text >>= fun read => parse read.text) = parse text := by
  refine ⟨parse_text version, parse_ok_iff, fun error => parse_error_iff, ?_⟩
  cases read : parse text with
  | error error => rfl
  | ok found =>
      simp only [bind, Except.bind]
      exact parse_text found

example : parse " +1.007.4294967295\x0a" = .ok ⟨1, 7, 4294967295⟩ ∧ parse " 1.7. 3" = .error ⟨" 1.7. 3"⟩ ∧
    parse "1.7.4294967296" = .error ⟨"1.7.4294967296"⟩ := by
  refine ⟨?_, ?_, ?_⟩ <;> cbv

end Delivery.ChartVersion
